import ConfigTemplate.Proofs.Placeholder.Source
import ConfigTemplate.Proofs.Session.Course
import ConfigTemplate.Resolution

/-!
# Observed resolution

For an observer the references of a document are resolved on a copy before the document is. That
runs no command, but it may fail where the document does not: a reference may be built out of a
command's output or a variable's value, which are not there yet. Then the observed resolution fails
in the same way, and in all other cases it does what the resolution does without an observer.
-/

namespace ConfigTemplate

/-- The commands of a journal that goes on from an earlier one. -/
theorem Journal.commands_append (events before : Journal) :
    Journal.commands (events ++ before) = before.commands ++ Journal.commands events := by
  simp [commands]

theorem Journal.commands_cons_of_none {event : Event} (h : event.command? = none)
    (before : Journal) : Journal.commands (event :: before) = before.commands := by
  simp [commands, h]

namespace Moment

open ConfigTemplate.Session

variable {setup : Setup} {m n : Moment} {f : Frame} {s t : Session}

/-- Without commands and variables nothing is asked for. -/
theorem asked_of_internal (internal : kinds setup = Placeholder.Kind.internal) {text : String}
    {p : Placeholder} (found : Placeholder.scan (kinds setup) text = some p) (s : Session) :
    asked setup s text p = s := by
  have reference : p.kind = .reference := by
    simpa [internal, Placeholder.Kind.internal] using Placeholder.kind_mem_of_scan found
  exact asked_of_reference reference s text

theorem Ends.commands_eq (h : Ends setup f s t)
    (internal : kinds setup = Placeholder.Kind.internal) :
    t.journal.commands = s.journal.commands := by
  cases h with
  | clean => rfl
  | stalled found =>
    rw [replaced, asked_of_internal internal found]
    exact (Journal.commands_cons_of_none rfl _).trans (Journal.commands_cons_of_none rfl _)

/-- Without commands and variables no step runs a command. -/
theorem Step.commands_eq (h : Step setup m n)
    (internal : kinds setup = Placeholder.Kind.internal) :
    n.session.journal.commands = m.session.journal.commands := by
  cases h with
  | @remark fs s event remark =>
    refine Journal.commands_cons_of_none ?_ _
    cases event <;> first | rfl | exact remark.elim
  | enter | giveUp => exact Journal.commands_cons_of_none rfl _
  | take => exact (Journal.commands_cons_of_none rfl _).trans (Journal.commands_cons_of_none rfl _)
  | replace found =>
    rw [replaced, asked_of_internal internal found]
    exact Journal.commands_cons_of_none rfl _
  | settle owner ends =>
    exact (Journal.commands_cons_of_none rfl _).trans (ends.commands_eq internal)
  | deliver owner ends => exact ends.commands_eq internal
  | miss => exact (Journal.commands_cons_of_none rfl _).trans (Journal.commands_cons_of_none rfl _)
  | stop | drop | begin | resume => rfl
  | refuse found => rw [asked_of_internal internal found]

theorem Leads.commands_eq (h : Leads setup m n)
    (internal : kinds setup = Placeholder.Kind.internal) :
    n.session.journal.commands = m.session.journal.commands :=
  h.keeps (I := fun n => n.session.journal.commands = m.session.journal.commands)
    (fun step same => (step.commands_eq internal).trans same) rfl

end Moment

namespace Resolution

open ConfigTemplate.Action ConfigTemplate.Session

variable {setup : Setup} {document : Json}

/-- To resolve the references alone runs no command. -/
theorem commands_final_withoutExternal (setup : Setup) (flat : Flat) :
    ((resolveAll (withoutExternal setup)).final (start flat)).journal.commands = [] := by
  have way : Moment.Courses (withoutExternal setup) [] (resolveAll (withoutExternal setup))
      (start flat) := Moment.courses_resolveAll
  exact Moment.Leads.commands_eq way rfl

/-- What stops the resolution of the references alone that is made for an observer. -/
def internalHalt? (setup : Setup) (flat : Flat) : Option Halt :=
  if setup.options.external then
    match (resolveAll (withoutExternal setup)).result (start flat) with
    | .error halt => some halt
    | .ok () => none
  else none

/-- An observed resolution goes on to the rest unless the references alone cannot be resolved. -/
theorem observed_eq (setup : Setup) (flat : Flat) (rest : Resolution) :
    match internalHalt? setup flat with
    | some halt => (observed setup flat rest).result = .error halt ∧
        (observed setup flat rest).journal.commands = []
    | none => (observed setup flat rest).result = rest.result ∧
        (observed setup flat rest).journal.commands = rest.journal.commands := by
  have silent := commands_final_withoutExternal setup flat
  have run : (resolveAll (withoutExternal setup)).run (start flat) =
      ((resolveAll (withoutExternal setup)).result (start flat),
        (resolveAll (withoutExternal setup)).final (start flat)) := rfl
  unfold internalHalt? observed
  rw [run]
  dsimp only
  by_cases external : setup.options.external = true
  · simp only [if_pos external]
    cases (resolveAll (withoutExternal setup)).result (start flat) with
    | error halt => exact ⟨rfl, silent⟩
    | ok done =>
      refine ⟨rfl, (Journal.commands_append _ _).trans ?_⟩
      rw [silent, List.nil_append]
  · simp only [if_neg external]
    exact ⟨rfl, congrArg Journal.commands (List.append_nil _)⟩

/-- What a document is resolved to for an observer, and which commands are run, is the same as
without one, unless the references alone cannot be resolved. Then their failure is the result and
no command is run. -/
theorem ofDocument_observed (setup : Setup) (document : Json) :
    match (Flat.ofDocument document).toOption.bind (internalHalt? setup) with
    | some halt => (ofDocument setup true document).result = .error halt ∧
        (ofDocument setup true document).journal.commands = []
    | none => (ofDocument setup true document).result = (ofDocument setup false document).result ∧
        (ofDocument setup true document).journal.commands =
          (ofDocument setup false document).journal.commands := by
  unfold ofDocument
  cases Flat.ofDocument document with
  | error fault => exact ⟨rfl, rfl⟩
  | ok flat => exact observed_eq setup flat _

/-- A reference that is built out of a variable leads to a key, but for an observer the variable's
own name is looked up, and that is no key. -/
theorem ofDocument_observed_variable :
    let setup : Setup := ⟨.standard, ⟨fun _ _ => .output "", fun _ => some "foo", false⟩, .standard⟩
    let document : Json :=
      .obj [("a", .str "$\x7b$\x7bb\x7d\x7d"), ("b", .str "$X"), ("foo", .str "1")]
    (ofDocument setup false document).result =
        .ok (.obj [("a", .str "1"), ("b", .str "foo"), ("foo", .str "1")]) ∧
      (ofDocument setup true document).result =
        .error (.failure (.keyNotFound "$X" .unmatched)) := by
  constructor
  · cbv
  · cbv

end Resolution

end ConfigTemplate
