import ConfigTemplate.Proofs.Session.History

/-!
# Interchangeable setups

Two setups that run in parallel may be interchanged in sessions that hold the same document with the
same marks. Keys are entered, resolved and settled with both of them in the same way, so whatever is
asked of a session, both give the same results and leave related sessions behind.
-/

namespace ConfigTemplate

open ConfigTemplate.Action

/-- What parallel setups and a relation have to share for keys to be resolved alike: related
sessions have the same document and the same marks, and remain related when both change in the same
way. -/
structure Interchangeable (lenient : Prop) (first second : Setup) (R : Session → Session → Prop) :
    Prop extends Parallel lenient first second R where
  flat : ∀ {s t : Session}, R s t → s.flat = t.flat
  mark : ∀ {s t : Session}, R s t → s.mark = t.mark
  marked : ∀ {s t : Session}, R s t → ∀ key mark, R (s.marked key mark) (t.marked key mark)
  stored : ∀ {s t : Session}, R s t → ∀ key new,
    R (s.stored key (.str new)) (t.stored key (.str new))

namespace Interchangeable

variable {lenient : Prop} {first second : Setup} {R : Session → Session → Prop}

/-- A relation that only asks the same of two equal sessions is enough for setups that differ in
nothing but their host. An invariant of the journal may be kept on the way. -/
theorem of_host {setup : Setup} {host : Host} {I : Journal → Prop}
    (noted : ∀ {journal : Journal}, I journal → ∀ {event : Event}, ¬ event.IsQuestion →
      I (event :: journal))
    (command : ∀ {source : String} {p : Placeholder},
      Placeholder.scan (Session.kinds setup) source = some p → p.kind = .command →
      Agree False (fun s t => s = t ∧ I s.journal) (Session.runCommand setup source p.payload)
        (Session.runCommand { setup with host } source p.payload))
    (read : ∀ {source : String} {p : Placeholder},
      Placeholder.scan (Session.kinds setup) source = some p → p.kind = .envVar →
      (∀ {journal : Journal}, I journal → I (.read p.payload :: journal)) ∧
        Session.readVariable setup.host p.payload = Session.readVariable host p.payload) :
    Interchangeable False setup { setup with host } fun s t => s = t ∧ I s.journal where
  kinds := rfl
  limit := .inl rfl
  registry := rfl
  looks := .inr ⟨id, And.left⟩
  noted := by
    rintro s _ ⟨rfl, holds⟩ event other
    exact ⟨rfl, noted holds other⟩
  resolve := by
    rintro s _ ⟨rfl, _⟩ key
    exact .inr rfl
  pickArray := by
    rintro s _ ⟨rfl, _⟩ key
    exact .inr rfl
  elementPaths := by
    rintro s _ ⟨rfl, _⟩ key array
    exact .inr rfl
  command := command
  read found kind := by
    refine ⟨?_, (read found kind).2⟩
    rintro s _ ⟨rfl, holds⟩
    exact .of_eq rfl ⟨rfl, (read found kind).1 holds⟩
  flat := by
    rintro s _ ⟨rfl, _⟩
    rfl
  mark := by
    rintro s _ ⟨rfl, _⟩
    rfl
  marked := by
    rintro s _ ⟨rfl, holds⟩ key mark
    exact ⟨rfl, holds⟩
  stored := by
    rintro s _ ⟨rfl, holds⟩ key new
    exact ⟨rfl, holds⟩

/-- Setups that differ in nothing but their options may be interchanged if these find keys and
arrays alike. -/
theorem of_options {setup : Setup} {options : Options}
    (strict : setup.registry.IsStraight ∨ ¬ lenient)
    (external : setup.options.external = options.external)
    (limit : setup.options.limit = options.limit ∨ lenient ∧ setup.options.limit ≤ options.limit)
    (resolve : ∀ (flat : Flat) (key : String),
      (lenient ∧ ∃ failure, flat.resolve setup.options.uniqueMatch key = .error failure ∧
        failure.kind ≠ .keyNotFound) ∨
      flat.resolve setup.options.uniqueMatch key = flat.resolve options.uniqueMatch key)
    (pickArray : ∀ (flat : Flat) (key : String), Likewise lenient
      (flat.pickArray setup.options.uniqueMatch key) (flat.pickArray options.uniqueMatch key)) :
    Interchangeable lenient setup { setup with options } (· = ·) where
  kinds := by
    unfold Session.kinds
    rw [external]
  limit := limit
  registry := rfl
  looks := strict.imp_right fun strict => ⟨strict, id⟩
  noted := by
    rintro s _ rfl event _
    rfl
  resolve := by
    rintro s _ rfl key
    exact resolve s.flat key
  pickArray := by
    rintro s _ rfl key
    exact pickArray s.flat key
  elementPaths := by
    rintro s _ rfl key array
    exact .inr rfl
  command := by
    rintro source p _ _ s _ rfl
    exact .of_eq rfl rfl
  read := by
    intro source p _ _
    refine ⟨?_, rfl⟩
    rintro s _ rfl
    exact .of_eq rfl rfl
  flat := by
    rintro s _ rfl
    rfl
  mark := by
    rintro s _ rfl
    rfl
  marked := by
    rintro s _ rfl key mark
    rfl
  stored := by
    rintro s _ rfl key new
    rfl

variable (alike : Interchangeable lenient first second R)

include alike

/-- Setups that substitute placeholders of the same kinds withhold the same ones. -/
theorem external_eq : first.options.external = second.options.external := by
  have kinds := alike.kinds
  unfold Session.kinds at kinds
  split at kinds <;> split at kinds <;> simp_all [Placeholder.Kind.all, Placeholder.Kind.internal]

/-- The same is noted of the placeholders that a value keeps. -/
theorem noteWithheld (key : String) (value : Json) :
    Agree False R (Session.noteWithheld first key value)
      (Session.noteWithheld second key value) := by
  have each (ps : List Placeholder) :
      Agree False R (ps.forM fun p => Action.note (.withheld key p.text))
        (ps.forM fun p => Action.note (.withheld key p.text)) := by
    induction ps with
    | nil => exact .pure _
    | cons p ps ih => exact Agree.bind (alike.note id) fun _ => ih
  unfold Session.noteWithheld
  rw [alike.external_eq]
  split
  · split
    · exact .pure _
    · exact each _
  · exact .pure _

/-- The same keys are pending. -/
theorem pending_eq {s t : Session} (related : R s t) :
    Session.pending first s = Session.pending second t := by
  unfold Session.pending
  rw [alike.flat related, alike.mark related, alike.kinds]

section Enter

variable {enter₁ enter₂ : Session.Enter}
variable (enters : ∀ call, Agree lenient R (enter₁.answer call) (enter₂.answer call))

include enters

/-- Keys are entered alike when what is done on their behalf is. -/
theorem enterKey (key : String) :
    Agree lenient R (Session.enterKey first enter₁ key) (Session.enterKey second enter₂ key) := by
  intro s t related
  have entered : R (s.entering key) (t.entering key) := alike.noted (alike.marked related _ _) id
  have held : (s.entering key).flat.get? key = (t.entering key).flat.get? key :=
    congrArg (Flat.get? · key) (alike.flat entered)
  have values : AgreeAt lenient R (Session.resolveValue first enter₁ key)
      (Session.resolveValue second enter₂ key) (s.entering key) (t.entering key) :=
    alike.resolveValue (fun call _ => enters call) entered held
      fun related => ⟨related, alike.stored related key⟩
  unfold AgreeAt
  rw [Session.result_enterKey, Session.result_enterKey]
  obtain ⟨allowed, halt, stopped⟩ | ⟨results, finals⟩ := values
  · exact .inl ⟨allowed, halt, stopped⟩
  · refine .inr ⟨results, ?_⟩
    cases found : (Session.resolveValue first enter₁ key).result (s.entering key) with
    | error halt =>
      rw [Session.final_enterKey_of_error found, Session.final_enterKey_of_error (results ▸ found)]
      exact alike.noted (alike.marked finals _ _) id
    | ok value =>
      rw [Session.final_enterKey_of_ok found, Session.final_enterKey_of_ok (results ▸ found)]
      exact (alike.noteWithheld key value _ _ (alike.noted (alike.marked finals _ _) id)).related

omit alike in
theorem resolveEach (keys : List String) :
    Agree lenient R (Session.resolveEach enter₁ keys) (Session.resolveEach enter₂ keys) := by
  induction keys with
  | nil => exact .pure _
  | cons key rest ih => exact (enters (.resolveKey key)).bind fun _ => ih

/-- Everything that is pending is resolved in the same way. -/
theorem resolvePending :
    Agree lenient R (Session.resolvePending first enter₁)
      (Session.resolvePending second enter₂) := by
  unfold Session.resolvePending
  refine .get_bind fun s t related => ?_
  rw [alike.pending_eq related]
  dsimp only
  split
  · exact alike.note id s t related
  · exact (Agree.bind (alike.note id) fun _ => resolveEach enters _) s t related

end Enter

section Deeper

variable {deeper₁ deeper₂ : Trail → Session.Enter}
variable (deep : ∀ trail call,
  Agree lenient R ((deeper₁ trail).answer call) ((deeper₂ trail).answer call))

include deep

/-- One step is the same when the deeper steps are. -/
theorem resolveStep (trail : Trail) (key : String) :
    Agree lenient R (Session.resolveStep first deeper₁ trail key)
      (Session.resolveStep second deeper₂ trail key) := by
  unfold Session.resolveStep
  refine .get_bind fun s t related => ?_
  rw [alike.mark related, alike.flat related]
  split
  · split
    · exact Agree.pure _ s t related
    · exact Agree.breakOff _ s t related
  · split
    · exact ((alike.recover (fun call _ => deep trail call) _).bind fun _ => .pure _) s t related
    · exact alike.enterKey (deep _) key s t related

theorem answerStep (trail : Trail) (call : Session.Call) :
    Agree lenient R ((Session.answerStep first deeper₁ trail).answer call)
      ((Session.answerStep second deeper₂ trail).answer call) := by
  cases call with
  | resolveKey key => exact alike.resolveStep deep trail key
  | lookup expression => exact alike.follow (fun call _ => deep trail call) expression
  | expand text =>
    exact (alike.substituteAll (fun call _ => deep trail call) none text).bind fun _ => .pure _
  | resolveAll => exact (alike.resolvePending (deep trail)).bind fun _ => .pure _

end Deeper

theorem resolveOn (room : Nat) (trail : Trail) (call : Session.Call) :
    Agree lenient R ((Session.resolveOn first room trail).answer call)
      ((Session.resolveOn second room trail).answer call) := by
  induction room generalizing trail call with
  | zero => exact alike.answerStep (fun _ _ => .breakOff _) trail call
  | succ room ih => exact alike.answerStep ih trail call

/-- Calls are answered alike while no key is being resolved. -/
theorem atRest (call : Session.Call) :
    Agree lenient R ((Session.atRest first).answer call) ((Session.atRest second).answer call) := by
  unfold Session.atRest
  refine .get_bind fun s t related => ?_
  rw [alike.flat related, alike.registry]
  exact alike.resolveOn _ .empty call s t related

/-- A key is resolved to the same value. -/
theorem resolveKey (key : String) :
    Agree lenient R (Session.resolveKey first key) (Session.resolveKey second key) :=
  alike.atRest (.resolveKey key)

/-- An expression leads to the same value. -/
theorem lookup (expression : String) :
    Agree lenient R (Session.lookup first expression) (Session.lookup second expression) :=
  alike.follow (fun call _ => alike.atRest call) expression

/-- A text comes out the same. -/
theorem expand (text : String) :
    Agree lenient R (Session.expand first text) (Session.expand second text) :=
  alike.substituteAll (fun call _ => alike.atRest call) none text

/-- Everything is resolved in the same way. -/
theorem resolveAll : Agree lenient R (Session.resolveAll first) (Session.resolveAll second) :=
  alike.resolvePending alike.atRest

end Interchangeable

namespace Session

variable {first second : Setup} {R : Session → Session → Prop} {s t : Session}

/-- What a call gives: the value of a key or of an expression, a text, or the whole flat
document. -/
def Call.answer (setup : Setup) : Call → Action Json
  | .resolveKey key => Session.resolveKey setup key
  | .lookup expression => Session.lookup setup expression
  | .expand text => return .str (← Session.expand setup text)
  | .resolveAll => do
    Session.resolveAll setup
    return .obj (← get).flat.entries

/-- Interchangeable setups give the same answers. -/
theorem Call.agree_answer {lenient : Prop} {first second : Setup} {R : Session → Session → Prop}
    (alike : Interchangeable lenient first second R) (call : Call) :
    Agree lenient R (call.answer first) (call.answer second) := by
  cases call with
  | resolveKey key => exact alike.resolveKey key
  | lookup expression => exact alike.lookup expression
  | expand text => exact (alike.expand text).bind fun _ => .pure _
  | resolveAll =>
    refine alike.resolveAll.bind fun _ => .get_bind fun s t related => ?_
    rw [alike.flat related]
    exact Agree.pure _ s t related

/-- A call leaves related sessions behind. -/
theorem Call.related_final (alike : Interchangeable False first second R) (call : Call)
    (related : R s t) : R (call.final first s) (call.final second t) := by
  cases call with
  | resolveKey key => exact (alike.resolveKey key s t related).related
  | lookup expression => exact (alike.lookup expression s t related).related
  | expand text => exact (alike.expand text s t related).related
  | resolveAll => exact (alike.resolveAll s t related).related

/-- Whatever sessions are used for, they remain related. -/
theorem related_after (alike : Interchangeable False first second R) (calls : List Call)
    (related : R s t) : R (after first calls s) (after second calls t) := by
  induction calls generalizing s t with
  | nil => exact related
  | cons call rest ih => exact ih (call.related_final alike related)

end Session

end ConfigTemplate
