import ConfigTemplate.Proofs.Placeholder.Reference
import ConfigTemplate.Proofs.Session.Interchange
import ConfigTemplate.Proofs.Session.Invariant

/-!
# References alone

A session without commands and variables substitutes references and nothing else, also in texts that
references bring in. It asks nothing of its host, so any host will do, and a value in which no
reference is written stays as it is.
-/

namespace ConfigTemplate

open ConfigTemplate.Action
open Placeholder (HoldsReference)

/-- Actions that agree on equal sessions are the same. -/
theorem Action.eq_of_agree {α : Type} {I : Session → Prop} {a b : Action α}
    (h : Agree False (fun s t => s = t ∧ I s) a b) (always : ∀ s, I s) : a = b := by
  funext s
  have same := h s s ⟨rfl, always s⟩
  exact Prod.ext same.result_eq same.related.1

namespace Session

variable {setup : Setup} {I : Session → Prop} {s : Session}

/-- What is no part of a session's marks and events and outlasts stored strings is kept by every
call. -/
theorem Call.keeps_final (invariant : Invariant setup I) (call : Call) (holds : I s) :
    I (call.final setup s) := by
  have calls : ∀ call, setup.registry.Makes call → Keeps I ((atRest setup).answer call) :=
    fun call _ => invariant.atRest call
  cases call with
  | resolveKey key => exact invariant.resolveKey key s holds
  | lookup expression => exact keeps_follow invariant.aside calls expression s holds
  | expand text => exact keeps_substituteAll invariant.aside calls none text s holds
  | resolveAll => exact invariant.resolveAll s holds

theorem keeps_after (invariant : Invariant setup I) (calls : List Call) (holds : I s) :
    I (after setup calls s) := by
  induction calls generalizing s with
  | nil => exact holds
  | cons call rest ih => exact ih (call.keeps_final invariant holds)

/-- Without commands and variables the references of a text are all that is found in it. -/
theorem kinds_of_internal (internal : setup.options.external = false) :
    kinds setup = [.reference] := by
  simp [kinds, internal, Placeholder.Kind.internal]

/-- Without commands and variables any two hosts may be interchanged, and nothing is asked of
them. -/
theorem interchangeable_of_internal (internal : setup.options.external = false) (host : Host)
    {I : Journal → Prop} (noted : ∀ {journal : Journal}, I journal → ∀ {event : Event},
      ¬ event.IsQuestion → I (event :: journal)) :
    Interchangeable False setup { setup with host } fun s t => s = t ∧ I s.journal := by
  have reference {source : String} {p : Placeholder}
      (found : Placeholder.scan (kinds setup) source = some p) : p.kind = .reference := by
    simpa [kinds_of_internal internal] using Placeholder.kind_mem_of_scan found
  refine .of_host noted ?_ ?_
  · intro source p found command
    rw [reference found] at command
    cases command
  · intro source p found read
    rw [reference found] at read
    cases read

/-- Without commands and variables nothing depends on the host, whatever is asked of a session in
whatever state. -/
theorem eq_of_internal (internal : setup.options.external = false) (host : Host) :
    resolveKey { setup with host } = resolveKey setup ∧
      lookup { setup with host } = lookup setup ∧
      expand { setup with host } = expand setup ∧
      resolveAll { setup with host } = resolveAll setup := by
  have alike := interchangeable_of_internal internal host (I := fun _ => True) fun _ _ _ => trivial
  have always (s : Session) : True := trivial
  exact ⟨funext fun key => (eq_of_agree (alike.resolveKey key) always).symm,
    funext fun expression => (eq_of_agree (alike.lookup expression) always).symm,
    funext fun text => (eq_of_agree (alike.expand text) always).symm,
    (eq_of_agree alike.resolveAll always).symm⟩

/-- Whatever a session without commands and variables is used for, no command is run and no variable
is read. With any other host each call gives the same result or failure and leaves the same session
behind, whatever was asked for before. A value in which no reference is written stays as it is. -/
theorem asksNothing_after (internal : setup.options.external = false) (flat : Flat)
    (calls : List Call) :
    (after setup calls (start flat)).journal.AsksNothing ∧
      (∀ host, resolveKey { setup with host } = resolveKey setup ∧
        lookup { setup with host } = lookup setup ∧ expand { setup with host } = expand setup ∧
        resolveAll { setup with host } = resolveAll setup ∧
        after { setup with host } calls (start flat) = after setup calls (start flat)) ∧
      ∀ key value, flat.get? key = some value →
        (∀ text payload, value = .str text → ¬ HoldsReference text payload) →
        (after setup calls (start flat)).flat.get? key = some value := by
  refine ⟨?_, fun host => ?_, fun key value present free => ?_⟩
  · have begun : (start flat).journal.AsksNothing := by simp [Journal.AsksNothing, start]
    have alike := interchangeable_of_internal internal setup.host (I := Journal.AsksNothing)
      fun holds _ other => List.forall_mem_cons.2 ⟨other, holds⟩
    exact (related_after alike calls ⟨rfl, begun⟩).2
  · obtain ⟨resolves, looks, expands, all⟩ := eq_of_internal internal host
    have alike := interchangeable_of_internal internal host (I := fun _ => True)
      fun _ _ _ => trivial
    exact ⟨resolves, looks, expands, all, (related_after alike calls ⟨rfl, trivial⟩).1.symm⟩
  · have retains : Retains (kinds setup) flat (after setup calls (start flat)) :=
      keeps_after (invariant_retains setup flat) calls (retains_start ..)
    obtain ⟨new, held, became⟩ := retains.values key value present
    cases became with
    | kept => exact held
    | @substituted text occurs new =>
      rw [kinds_of_internal internal] at occurs
      exact absurd (Placeholder.scan_reference_eq_none_iff.2 fun payload =>
        free text payload rfl) occurs

/-- A command that a reference brings in is not run, and neither is the command that it becomes a
part of. -/
theorem asksNothing_after_command :
    let host : Host := ⟨fun _ _ => .output "x", fun _ => some "y", true⟩
    let setup : Setup := ⟨⟨true, false, 1000⟩, host, .standard⟩
    let flat := Flat.ofList [("a", .str "$(f $\x7bb\x7d)"), ("b", .str "$(g) $X")]
    setup.options.external = false ∧
      (after setup [.resolveAll, .lookup "a"] (start flat)).journal.AsksNothing ∧
      (after setup [.resolveAll, .lookup "a"] (start flat)).flat.get? "a" =
        some (.str "$(f $(g) $X)") ∧
      (after setup [.resolveAll, .lookup "a"] (start flat)).flat.get? "b" =
        some (.str "$(g) $X") := by
  intro host setup flat
  have internal : setup.options.external = false := rfl
  obtain ⟨nothing, _, retained⟩ := asksNothing_after internal flat [.resolveAll, .lookup "a"]
  have present : flat.get? "b" = some (.str "$(g) $X") := by cbv
  refine ⟨internal, nothing, by cbv, retained "b" _ present ?_⟩
  rintro text payload same
  obtain rfl := Json.str.inj same
  exact Placeholder.scan_reference_eq_none_iff.1 (by cbv) payload

end Session

end ConfigTemplate
