import ConfigTemplate.Proofs.Session.Moment

/-!
# What is raised at work

A failure or a mishap is raised somewhere, while some texts are being substituted. There it is
passed on, or offered to a handler, or dropped in favour of another failure. Out of the texts around
it a failure comes as it is, and a mishap as the failure of the innermost reference in progress.
-/

namespace ConfigTemplate

/-- Where something is raised. -/
inductive Site where
  /-- An expression leads to no key, or to several. -/
  | lookup
  /-- A key is reached while it is being resolved. -/
  | loop
  /-- The array of a join expression is missing, ambiguous, or none of scalars. -/
  | array
  /-- A handler stops, of itself or with a call that it makes. -/
  | handler
  /-- A key is not in the document. -/
  | path
  /-- A command fails, or its runner breaks down. -/
  | command
  /-- A variable is missing. -/
  | variable
  /-- Too many placeholders were substituted in a text. -/
  | limit
  /-- A mishap was met on the way to the value of a reference. -/
  | reference
  /-- Too many calls of handlers are at work, one inside the other. -/
  | depth
  deriving DecidableEq, Repr

/-- What becomes of something where it is raised. -/
inductive Fate where
  /-- It is passed on. -/
  | passed
  /-- It is offered to the handler of its kind, which answers with a text or stops in turn. -/
  | offered (handler : Handler) (answer : Except Halt String)
  /-- It is dropped in favour of the failure that is being handled. -/
  | replaced (original : Failure)

/-- Something that is raised. -/
structure Alarm where
  halt : Halt
  site : Site
  fate : Fate
  /-- The texts that are being substituted at that moment, the innermost first. -/
  frames : List Frame
  /-- Whether a handler saw to it: it was raised in the course of a call that the handler attempted
  and that was stopped. -/
  caught : Bool

namespace Alarm

/-- The same on behalf of some texts more. -/
def under (frames : List Frame) (alarm : Alarm) : Alarm :=
  { alarm with frames := alarm.frames ++ frames }

@[simp] theorem under_nil (alarm : Alarm) : alarm.under [] = alarm := by
  simp [under]

@[simp] theorem under_under (alarm : Alarm) (frames others : List Frame) :
    (alarm.under frames).under others = alarm.under (frames ++ others) := by
  simp [under]

end Alarm

/-- The reference that is in progress in a text that is being substituted. -/
def Frame.reference? (setup : Setup) (f : Frame) : Option Placeholder :=
  (Placeholder.scan (Session.kinds setup) f.text).filter fun p => p.kind = .reference

namespace Session

variable {setup : Setup} {f : Frame} {p : Placeholder}

/-- The owner and the placeholder of the innermost reference in progress. -/
def innermost? (setup : Setup) (frames : List Frame) : Option (Option String × Placeholder) :=
  frames.findSome? fun f => (f.reference? setup).map (f.owner, ·)

/-- What comes out of some texts, with what is raised within them: failures as they are, and a
mishap as the failure of the innermost reference in progress, if there is one. -/
def escaping (setup : Setup) (frames : List Frame) : Halt → Halt
  | .failure failure => .failure failure
  | .mishap mishap =>
    match innermost? setup frames with
    | some (owner, p) =>
      .failure (.nested (ownerOr "<value>" owner) p.text (some mishap.message))
    | none => .mishap mishap

theorem innermost?_append (frames others : List Frame) :
    innermost? setup (frames ++ others) = (innermost? setup frames).or (innermost? setup others) :=
  List.findSome?_append

theorem innermost?_singleton (f : Frame) :
    innermost? setup [f] = (f.reference? setup).map (f.owner, ·) := by
  simp only [innermost?, List.findSome?_cons, List.findSome?_nil]
  cases f.reference? setup <;> rfl

@[simp] theorem escaping_failure (frames : List Frame) (failure : Failure) :
    escaping setup frames (.failure failure) = .failure failure := rfl

@[simp] theorem escaping_nil (halt : Halt) : escaping setup [] halt = halt := by
  cases halt <;> rfl

/-- What comes out of some texts goes on to come out of those around them. -/
theorem escaping_append (frames others : List Frame) (halt : Halt) :
    escaping setup (frames ++ others) halt =
      escaping setup others (escaping setup frames halt) := by
  cases halt with
  | failure failure => rfl
  | mishap mishap =>
    simp only [escaping, innermost?_append]
    cases innermost? setup frames <;> rfl

/-- In a text that waits for no reference a halt stays as it is. -/
theorem escaping_of_none (waits : f.reference? setup = none) (halt : Halt) :
    escaping setup [f] halt = halt := by
  cases halt with
  | failure failure => rfl
  | mishap mishap => simp only [escaping, innermost?_singleton, waits, Option.map_none]

/-- In a text that waits for a reference a mishap is a failure. -/
theorem escaping_of_some (waits : f.reference? setup = some p) (mishap : Mishap) :
    escaping setup [f] (.mishap mishap) =
      .failure (.nested (ownerOr "<value>" f.owner) p.text (some mishap.message)) := by
  simp only [escaping, innermost?_singleton, waits, Option.map_some]

theorem reference?_of_scan (found : Placeholder.scan (kinds setup) f.text = some p) :
    f.reference? setup = if p.kind = .reference then some p else none := by
  rw [Frame.reference?, found]
  by_cases reference : p.kind = .reference <;> simp [reference, Option.filter]

end Session

namespace Alarm

open Session

variable {setup : Setup} {alarm : Alarm} {f : Frame}

/-- What an alarm comes to, unless a handler recovers from it or sees to it. -/
def outcome? (setup : Setup) (alarm : Alarm) : Option Halt :=
  if alarm.caught then none
  else
    match alarm.fate with
    | .passed => some (escaping setup alarm.frames alarm.halt)
    | .offered _ (.ok _) => none
    | .offered _ (.error halt) => some (escaping setup alarm.frames halt)
    | .replaced original => some (.failure original)

theorem outcome?_under (frames : List Frame) (alarm : Alarm) :
    (alarm.under frames).outcome? setup =
      (alarm.outcome? setup).map (escaping setup frames) := by
  obtain ⟨halt, site, fate, inner, caught⟩ := alarm
  cases caught with
  | true => rfl
  | false =>
    cases fate with
    | passed => simp [outcome?, under, escaping_append]
    | offered handler answer => cases answer <;> simp [outcome?, under, escaping_append]
    | replaced original => simp [outcome?, under]

theorem outcome?_of_passed (fate : alarm.fate = .passed) (uncaught : alarm.caught = false) :
    alarm.outcome? setup = some (escaping setup alarm.frames alarm.halt) := by
  simp [outcome?, fate, uncaught]

/-- How the parts of an alarm belong together. -/
structure Fits (setup : Setup) (alarm : Alarm) : Prop where
  /-- Every text but the innermost waits for a reference. -/
  waiting : ∀ f ∈ alarm.frames.tail, (f.reference? setup).isSome = true
  /-- A mishap outside of texts is a path that is not there, a handler's answer, or a call too deep
  inside others. -/
  outside : ∀ mishap, alarm.halt = .mishap mishap → alarm.frames = [] →
    alarm.site = .path ∨ alarm.site = .handler ∨ alarm.site = .depth
  /-- A mishap in a text that waits for no reference is a command's. -/
  inside : ∀ mishap f rest, alarm.halt = .mishap mishap → alarm.frames = f :: rest →
    f.reference? setup = none → alarm.site = .command
  /-- A failure is offered to the handler of its kind. Reports pass it on, and a handler that
  replies promptly gives its own answer. -/
  offered : ∀ handler answer, alarm.fate = .offered handler answer → ∃ failure,
    alarm.halt = .failure failure ∧ setup.registry.get? failure.kind = some handler ∧
      (handler = .reportLoop → answer = .error (.failure failure)) ∧
      ∀ respond, handler = .reply respond →
        (∀ text, respond failure = .answer text → answer = .ok text) ∧
          ∀ halt, respond failure = .stop halt → answer = .error halt
  /-- Only what the array of a join expression raises gives way. -/
  replaced : ∀ original, alarm.fate = .replaced original →
    alarm.site = .array ∧ ∃ key why, alarm.halt = .failure (.keyNotFound key why)

/-- Something passed on outside of texts. -/
theorem fits_passed {site : Site} {halt : Halt}
    (outside : ∀ mishap, halt = .mishap mishap → site = .path ∨ site = .handler ∨ site = .depth) :
    (⟨halt, site, .passed, [], false⟩ : Alarm).Fits setup where
  waiting := by simp
  outside mishap same _ := outside mishap same
  inside := by simp
  offered := by simp
  replaced := by simp

/-- A question of a text is answered by a mishap only where it is a command. -/
theorem fits_passed_within {site : Site} {halt : Halt}
    (command : ∀ mishap, halt = .mishap mishap → site = .command) :
    (⟨halt, site, .passed, [f], false⟩ : Alarm).Fits setup where
  waiting := by simp
  outside := by simp
  inside mishap _ _ same _ _ := command mishap same
  offered := by simp
  replaced := by simp

/-- What is raised on the way to a reference's value, seen from the text that waits for it. -/
theorem Fits.under (h : alarm.Fits setup) (waits : (f.reference? setup).isSome = true) :
    (alarm.under [f]).Fits setup := by
  obtain ⟨halt, site, fate, frames, caught⟩ := alarm
  refine ⟨?_, ?_, ?_, h.offered, h.replaced⟩
  · intro g mem
    cases frames with
    | nil => cases mem
    | cons first rest =>
      obtain inside | last := List.mem_append.1 mem
      · exact h.waiting g inside
      · rw [List.mem_singleton.1 last]
        exact waits
  · intro mishap _ none
    simp [Alarm.under] at none
  · intro mishap g rest same split none
    cases frames with
    | nil =>
      obtain ⟨rfl, -⟩ := List.cons.inj split
      rw [none] at waits
      cases waits
    | cons first others =>
      obtain ⟨rfl, -⟩ := List.cons.inj split
      exact h.inside mishap first others same rfl none

/-- A mishap is passed on. -/
theorem Fits.fate_eq (h : alarm.Fits setup) {mishap : Mishap}
    (same : alarm.halt = .mishap mishap) : alarm.fate = .passed := by
  cases fate : alarm.fate with
  | passed => rfl
  | offered handler answer =>
    obtain ⟨failure, other, -⟩ := h.offered handler answer fate
    cases same.symm.trans other
  | replaced original =>
    obtain ⟨-, key, why, other⟩ := h.replaced original fate
    cases same.symm.trans other

/-- Where no reference is in progress there is at most one text, and it waits for none. -/
theorem Fits.frames_of_none (h : alarm.Fits setup)
    (unreferenced : innermost? setup alarm.frames = none) :
    alarm.frames = [] ∨ ∃ f, alarm.frames = [f] ∧ f.reference? setup = none := by
  have idle : ∀ f ∈ alarm.frames, f.reference? setup = none := fun f mem =>
    Option.map_eq_none_iff.1 (List.findSome?_eq_none_iff.1 unreferenced f mem)
  cases frames : alarm.frames with
  | nil => exact .inl rfl
  | cons f rest =>
    cases rest with
    | nil => exact .inr ⟨f, rfl, idle f (by simp [frames])⟩
    | cons g others =>
      have waits := h.waiting g (by simp [frames])
      rw [idle g (by simp [frames])] at waits
      cases waits

/-- The same, seen to by a handler. -/
def seenTo (alarm : Alarm) : Alarm := { alarm with caught := true }

theorem Fits.seenTo (h : alarm.Fits setup) : alarm.seenTo.Fits setup :=
  ⟨h.waiting, h.outside, h.inside, h.offered, h.replaced⟩

end Alarm

end ConfigTemplate
