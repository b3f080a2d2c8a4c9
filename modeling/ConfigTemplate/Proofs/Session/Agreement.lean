import ConfigTemplate.Proofs.Flat.Lookup
import ConfigTemplate.Proofs.Session.Run

/-!
# Agreement of runs

Two actions agree when, from sessions that stand in a relation, they give the same result and leave
sessions that stand in the relation again. A lenient agreement asks nothing where the first action
is stopped.

Everything that is done on the way to a value agrees as soon as the ways in which other keys are
entered agree. What two setups and the relation have to share for that puts them abreast. They are
parallel when the relation minds no event at all but questions. With a single setup it is a
lockstep, which asks for less; an invariant of single sessions is the case in which both sessions
are the same.
-/

namespace ConfigTemplate

/-- Whether an event asks for the output of a command or the value of a variable. -/
def Event.IsQuestion : Event → Prop
  | .ran .. | .read _ => True
  | _ => False

/-- Whether nothing was asked for. -/
def Journal.AsksNothing (journal : Journal) : Prop := ∀ event ∈ journal, ¬ event.IsQuestion

/-- Whether an event is noted on the way to a value: with it no work on a key begins or ends, and no
placeholder is kept. -/
def Event.IsAside : Event → Prop
  | .entered _ | .settled .. | .failed _ | .withheld .. => False
  | _ => True

variable {α β : Type} {lenient : Prop} {R : Session → Session → Prop}

namespace Action

/-- Whether two actions agree from two given sessions. -/
def AgreeAt (lenient : Prop) (R : Session → Session → Prop) (a b : Action α) (s t : Session) :
    Prop :=
  (lenient ∧ ∃ halt, a.result s = .error halt) ∨
    (a.result s = b.result t ∧ R (a.final s) (b.final t))

/-- Whether two actions agree from all related sessions. -/
def Agree (lenient : Prop) (R : Session → Session → Prop) (a b : Action α) : Prop :=
  ∀ s t, R s t → AgreeAt lenient R a b s t

theorem AgreeAt.of_eq {a b : Action α} {s t : Session} (result : a.result s = b.result t)
    (final : R (a.final s) (b.final t)) : AgreeAt lenient R a b s t :=
  .inr ⟨result, final⟩

/-- Without leniency the results are the same. -/
theorem AgreeAt.result_eq {a b : Action α} {s t : Session} (h : AgreeAt False R a b s t) :
    a.result s = b.result t := by
  obtain ⟨no, _⟩ | ⟨same, _⟩ := h
  · exact no.elim
  · exact same

theorem AgreeAt.related {a b : Action α} {s t : Session} (h : AgreeAt False R a b s t) :
    R (a.final s) (b.final t) := by
  obtain ⟨no, _⟩ | ⟨_, related⟩ := h
  · exact no.elim
  · exact related

/-- A value that the first action gives is given by the second one as well. -/
theorem AgreeAt.result_ok {a b : Action α} {s t : Session} {x : α}
    (h : AgreeAt lenient R a b s t) (ok : a.result s = .ok x) : b.result t = .ok x := by
  obtain ⟨_, halt, stopped⟩ | ⟨same, _⟩ := h
  · rw [ok] at stopped
    cases stopped
  · rw [← same, ok]

/-- In one session, an action that gives a value and agrees with another one on all that the session
holds does what the other one does. -/
theorem AgreeAt.ok {a b : Action α} {s : Session} {x : α} (h : AgreeAt lenient (· = ·) a b s s)
    (ok : a.result s = .ok x) : b.result s = .ok x ∧ b.final s = a.final s := by
  refine ⟨h.result_ok ok, ?_⟩
  obtain ⟨_, halt, stopped⟩ | ⟨_, same⟩ := h
  · rw [ok] at stopped
    cases stopped
  · exact same.symm

theorem AgreeAt.bind {a b : Action α} {f g : α → Action β} {s t : Session}
    (first : AgreeAt lenient R a b s t) (next : ∀ x, Agree lenient R (f x) (g x)) :
    AgreeAt lenient R (a >>= f) (b >>= g) s t := by
  obtain ⟨allowed, halt, stopped⟩ | ⟨same, related⟩ := first
  · exact .inl ⟨allowed, halt, result_bind_of_error stopped f⟩
  · cases here : a.result s with
    | error halt =>
      have there : b.result t = .error halt := by rw [← same, here]
      refine .of_eq ?_ ?_
      · rw [result_bind_of_error here, result_bind_of_error there]
      · rwa [final_bind_of_error here, final_bind_of_error there]
    | ok x =>
      have there : b.result t = .ok x := by rw [← same, here]
      unfold AgreeAt
      rw [result_bind_of_ok here, result_bind_of_ok there, final_bind_of_ok here,
        final_bind_of_ok there]
      exact next x _ _ related

theorem Agree.bind {a b : Action α} {f g : α → Action β} (first : Agree lenient R a b)
    (next : ∀ x, Agree lenient R (f x) (g x)) : Agree lenient R (a >>= f) (b >>= g) :=
  fun s t h => (first s t h).bind next

/-- Actions that look at the session first agree when they agree on what they see. -/
theorem Agree.get_bind {f g : Session → Action α}
    (h : ∀ s t, R s t → AgreeAt lenient R (f s) (g t) s t) :
    Agree lenient R (get >>= f) (get >>= g) :=
  fun s t related => h s t related

theorem Agree.pure (x : α) : Agree lenient R (pure x : Action α) (pure x) :=
  fun _ _ h => .of_eq rfl h

/-- A lenient agreement is about the values that the first action gives. -/
theorem Agree.of_ok {a b : Action α}
    (h : ∀ s t, R s t → ∀ x, a.result s = .ok x →
      b.result t = .ok x ∧ R (a.final s) (b.final t)) : Agree True R a b := by
  intro s t related
  cases result : a.result s with
  | error halt => exact .inl ⟨trivial, halt, result⟩
  | ok x =>
    obtain ⟨same, after⟩ := h s t related x result
    exact .of_eq (result.trans same.symm) after

theorem Agree.throw (halt : Halt) : Agree lenient R (throw halt : Action α) (throw halt) :=
  fun _ _ h => .of_eq rfl h

theorem Agree.fail (failure : Failure) : Agree lenient R (fail failure : Action α) (fail failure) :=
  .throw _

theorem Agree.breakOff (mishap : Mishap) :
    Agree lenient R (breakOff mishap : Action α) (breakOff mishap) :=
  .throw _

/-- Without leniency, what came of an attempt is agreed on as well. -/
theorem Agree.attempt {a b : Action α} (h : Agree lenient R a b) (strict : ¬ lenient) :
    Agree lenient R (attempt a) (attempt b) := by
  intro s t related
  obtain ⟨same, after⟩ := (h s t related).resolve_left fun stopped => strict stopped.1
  refine .of_eq ?_ ?_
  · rw [result_attempt, result_attempt, same]
  · rwa [final_attempt, final_attempt]

/-- Whether the same was found twice. Leniency asks nothing where the first time it was not
found. -/
def Likewise (lenient : Prop) (a b : Except Failure α) : Prop :=
  (lenient ∧ ∃ failure, a = .error failure) ∨ a = b

theorem Agree.orMissing {a b : Except Failure α} (h : Likewise lenient a b) (missing : Failure) :
    Agree lenient R (Session.orMissing missing a) (Session.orMissing missing b) := by
  unfold Session.orMissing
  obtain ⟨allowed, failure, rfl⟩ | rfl := h
  · intro s t _
    refine .inl ⟨allowed, ?_⟩
    cases failure <;> exact ⟨_, rfl⟩
  · split
    · exact .pure _
    · exact .fail _
    · exact .fail _

theorem Agree.orFail (found : Except Failure α) :
    Agree lenient R (Session.orFail found) (Session.orFail found) := by
  unfold Session.orFail
  split
  · exact .pure _
  · exact .fail _

/-- Commands that are answered alike have the same output. -/
theorem Agree.runCommand {first second : Setup} {source command : String}
    (answers : ∀ s t, R s t → first.host.run s.journal.commands command =
      second.host.run t.journal.commands command)
    (noted : Agree lenient R (note (.ran source command first.host.announces))
      (note (.ran source command second.host.announces))) :
    Agree lenient R (Session.runCommand first source command)
      (Session.runCommand second source command) := by
  unfold Session.runCommand
  refine .get_bind fun s t h => ?_
  simp only [answers s t h]
  refine (noted.bind fun _ => ?_) s t h
  split
  · exact .pure _
  · exact .fail _
  · exact .breakOff _

theorem Agree.elementTexts {enter₁ enter₂ : Session.Enter}
    (enters : ∀ key, Agree lenient R (enter₁ key) (enter₂ key)) (keys : List String) :
    Agree lenient R (Session.elementTexts enter₁ keys) (Session.elementTexts enter₂ keys) := by
  induction keys with
  | nil => exact .pure _
  | cons key rest ih => exact (enters key).bind fun value => ih.bind fun others => .pure _

end Action

open ConfigTemplate.Action

/-! ### Two setups side by side -/

/-- What two setups and a relation have to share for the same to be done with either of them on the
way to a value, in related sessions. Keys and arrays are found alike; where the first setup is
stopped by something else than a missing key, leniency asks nothing. It allows the second one to
make more substitutions, too. Commands and variables are answered alike wherever they stand in a
text as its first placeholder. Handlers that are not straight may look at the session and go on
where a call was stopped, so then related sessions are the same and there is no leniency. -/
structure Abreast (lenient : Prop) (first second : Setup) (R : Session → Session → Prop) :
    Prop where
  kinds : Session.kinds first = Session.kinds second
  limit : first.options.limit = second.options.limit ∨
    lenient ∧ first.options.limit ≤ second.options.limit
  registry : first.registry = second.registry
  looks : first.registry.IsStraight ∨ ¬ lenient ∧ ∀ {s t : Session}, R s t → s = t
  aside : ∀ {s t : Session}, R s t → ∀ {event : Event}, event.IsAside → ¬ event.IsQuestion →
    R (s.noted event) (t.noted event)
  resolve : ∀ {s t : Session}, R s t → ∀ key,
    (lenient ∧ ∃ failure, s.flat.resolve first.options.uniqueMatch key = .error failure ∧
      failure.kind ≠ .keyNotFound) ∨
    s.flat.resolve first.options.uniqueMatch key = t.flat.resolve second.options.uniqueMatch key
  pickArray : ∀ {s t : Session}, R s t → ∀ key, Likewise lenient
    (s.flat.pickArray first.options.uniqueMatch key)
    (t.flat.pickArray second.options.uniqueMatch key)
  elementPaths : ∀ {s t : Session}, R s t → ∀ key array, Likewise lenient
    (s.flat.elementPaths key array) (t.flat.elementPaths key array)
  command : ∀ {source : String} {p : Placeholder},
    Placeholder.scan (Session.kinds first) source = some p → p.kind = .command →
    Agree lenient R (Session.runCommand first source p.payload)
      (Session.runCommand second source p.payload)
  read : ∀ {source : String} {p : Placeholder},
    Placeholder.scan (Session.kinds first) source = some p → p.kind = .envVar →
    Agree lenient R (note (.read p.payload)) (note (.read p.payload)) ∧
      Session.readVariable first.host p.payload = Session.readVariable second.host p.payload

namespace Abreast

variable {first second : Setup} (abreast : Abreast lenient first second R)

include abreast

theorem noteAside {event : Event} (aside : event.IsAside) (other : ¬ event.IsQuestion) :
    Agree lenient R (note event) (note event) :=
  fun _ _ h => .of_eq rfl (abreast.aside h aside other)

theorem notePick (key : String) (found : Flat.Pick) :
    Agree lenient R (notePick key found) (notePick key found) := by
  unfold Action.notePick
  split
  · exact abreast.noteAside (by trivial) id
  · exact .pure _

variable {enter₁ enter₂ : Session.Enter}
variable (enters : ∀ call, first.registry.Makes call →
  Agree lenient R (enter₁.answer call) (enter₂.answer call))

include enters

theorem joinElements (missing : Failure) (join : Join) :
    Agree lenient R (Session.joinElements first enter₁ missing join)
      (Session.joinElements second enter₂ missing join) := by
  unfold Session.joinElements
  refine .get_bind fun s t h => ?_
  have array := abreast.pickArray h join.path
  refine ((Agree.orMissing array missing).bind fun found => ?_) s t h
  have paths := abreast.elementPaths h join.path found.chosen
  refine (abreast.notePick _ _).bind fun _ => ?_
  refine (Agree.orMissing paths missing).bind fun paths => ?_
  refine (Agree.elementTexts (fun key => enters (.resolveKey key) trivial) paths).bind
    fun texts => ?_
  split
  · exact (Agree.fail _).bind fun _ => (abreast.noteAside (by trivial) id).bind fun _ => .pure _
  · exact (abreast.noteAside (by trivial) id).bind fun _ => .pure _

omit abreast in
/-- A straight reply resolves the same keys for both. -/
theorem consult_of_isStraight (reply : Reply) (straight : reply.IsStraight) :
    Agree lenient R (Session.consult enter₁ reply) (Session.consult enter₂ reply) := by
  induction reply with
  | answer text => exact .pure _
  | stop halt => exact .throw _
  | look => exact straight.elim
  | ask call next ih =>
    cases call with
    | resolveKey key =>
      exact (enters (.resolveKey key) trivial).bind fun value => ih value (straight value)
    | _ => exact straight.elim
  | attempt => exact straight.elim

/-- A straight reply is carried out alike for both. Another one sees the same sessions and makes the
same calls on them. -/
theorem consult (reply : Reply) (straight : first.registry.IsStraight → reply.IsStraight) :
    Agree lenient R (Session.consult enter₁ reply) (Session.consult enter₂ reply) := by
  by_cases calm : first.registry.IsStraight
  · exact consult_of_isStraight enters reply (straight calm)
  obtain ⟨strict, alike⟩ := abreast.looks.resolve_left calm
  have makes (call : Session.Call) : first.registry.Makes call := by
    cases call with
    | resolveKey key => trivial
    | _ => exact calm
  clear straight
  induction reply with
  | answer text => exact .pure _
  | stop halt => exact .throw _
  | look next ih =>
    unfold Session.consult
    refine .get_bind fun s t h => ?_
    obtain rfl := alike h
    exact ih s s s h
  | ask call next ih => exact (enters call (makes call)).bind ih
  | attempt call next ih => exact ((enters call (makes call)).attempt strict).bind ih

theorem applyHandler {handler : Handler} {kind : Failure.Kind}
    (registered : first.registry.get? kind = some handler) (failure : Failure) :
    Agree lenient R (Session.applyHandler first enter₁ handler failure)
      (Session.applyHandler second enter₂ handler failure) := by
  unfold Session.applyHandler
  split
  · split
    · exact abreast.joinElements enters _ _
    · exact .fail _
  · exact .fail _
  · exact (abreast.noteAside (by trivial) id).bind fun _ => .fail _
  · exact .fail _
  · exact abreast.consult enters _ fun straight => straight.replies kind _ registered _

/-- The same is made of a failure. -/
theorem recover (failure : Failure) :
    Agree lenient R (Session.recover first enter₁ failure)
      (Session.recover second enter₂ failure) := by
  unfold Session.recover
  rw [← abreast.registry]
  split
  next registered => exact abreast.applyHandler enters registered _
  · exact .fail _

/-- A reference leads to the same value. -/
theorem follow (expression : String) :
    Agree lenient R (Session.follow first enter₁ expression)
      (Session.follow second enter₂ expression) := by
  unfold Session.follow
  refine .get_bind fun s t h => ?_
  obtain ⟨allowed, failure, stopped, other⟩ | same := abreast.resolve h expression
  · rw [stopped]
    refine .inl ⟨allowed, ?_⟩
    cases failure with
    | keyNotFound => exact absurd rfl other
    | _ => exact ⟨_, rfl⟩
  · rw [same]
    split
    · exact ((abreast.notePick _ _).bind fun _ => enters (.resolveKey _) trivial) s t h
    · exact ((abreast.recover enters _).bind fun _ => .pure _) s t h
    · exact Agree.fail _ s t h

/-- A reference is replaced by the same text. A stop on the way to its value is a stop. -/
theorem replacement_reference (owner : Option String) (source : String) {p : Placeholder}
    (kind : p.kind = .reference) :
    Agree lenient R (Session.replacement first enter₁ owner source p)
      (Session.replacement second enter₂ owner source p) := by
  intro s t h
  unfold Session.replacement
  rw [kind]
  obtain ⟨allowed, halt, stopped⟩ | ⟨same, related⟩ :=
    abreast.follow enters (Text.trimmed p.payload) s t h
  · refine .inl ⟨allowed, ?_⟩
    dsimp only
    rw [result_bind_of_ok (result_attempt _ _), stopped]
    cases halt <;> exact ⟨_, rfl⟩
  · refine AgreeAt.bind (.of_eq ?_ ?_) fun outcome => ?_
    · rw [result_attempt, result_attempt, same]
    · rwa [final_attempt, final_attempt]
    · split
      · exact .pure _
      · exact .fail _
      · exact .fail _

/-- The first placeholder of a text is replaced by the same text. -/
theorem replacement (owner : Option String) {source : String} {p : Placeholder}
    (found : Placeholder.scan (Session.kinds first) source = some p) :
    Agree lenient R (Session.replacement first enter₁ owner source p)
      (Session.replacement second enter₂ owner source p) := by
  cases kind : p.kind with
  | reference => exact abreast.replacement_reference enters owner source kind
  | command =>
    unfold Session.replacement
    rw [kind]
    exact abreast.command found kind
  | envVar =>
    obtain ⟨noted, value⟩ := abreast.read found kind
    unfold Session.replacement
    rw [kind, value]
    exact noted.bind fun _ => .orFail _

theorem substitute (owner : Option String) {count more : Nat}
    (within : first.options.limit = second.options.limit ∧ count = more ∨
      lenient ∧ count ≤ more) (text : String) :
    Agree lenient R (Session.substitute first enter₁ owner count text)
      (Session.substitute second enter₂ owner more text) := by
  induction count generalizing more text with
  | zero =>
    cases found : Placeholder.scan (Session.kinds first) text with
    | none =>
      rw [Session.substitute_of_scan found, Session.substitute_of_scan (abreast.kinds ▸ found)]
      exact .pure _
    | some p =>
      rw [Session.substitute_zero found]
      obtain ⟨limit, rfl⟩ | ⟨allowed, -⟩ := within
      · rw [Session.substitute_zero (abreast.kinds ▸ found), limit]
        exact .fail _
      · exact fun s _ _ => .inl ⟨allowed, _, result_fail s _⟩
  | succ count ih =>
    obtain ⟨more, rfl⟩ : ∃ less, more = less + 1 := Nat.exists_eq_add_one.2 (by omega)
    unfold Session.substitute
    rw [← abreast.kinds]
    split
    · exact .pure _
    next p found =>
      refine (abreast.replacement enters owner found).bind fun new => ?_
      refine (abreast.noteAside (by trivial) id).bind fun _ => ?_
      dsimp only
      split
      · exact (abreast.noteAside (by trivial) id).bind fun _ => .pure _
      · exact ih (within.imp (And.imp_right Nat.succ.inj) (And.imp_right Nat.le_of_succ_le_succ)) _

/-- The placeholders of a text are substituted in the same way. -/
theorem substituteAll (owner : Option String) (text : String) :
    Agree lenient R (Session.substituteAll first enter₁ owner text)
      (Session.substituteAll second enter₂ owner text) := by
  refine abreast.substitute enters owner ?_ text
  obtain same | ⟨allowed, more⟩ := abreast.limit
  · exact .inl ⟨same, congrArg Int.toNat same⟩
  · exact .inr ⟨allowed, Int.toNat_le_toNat more⟩

/-- The value of a key that has the same value in both sessions is resolved to the same. What holds
between the sessions afterwards has to hold after a string was stored as well. -/
theorem resolveValue {After : Session → Session → Prop} {s t : Session} (related : R s t)
    {key : String} (same : s.flat.get? key = t.flat.get? key)
    (after : ∀ {s t : Session}, R s t → After s t ∧
      ∀ new, After (s.stored key (.str new)) (t.stored key (.str new))) :
    AgreeAt lenient After (Session.resolveValue first enter₁ key)
      (Session.resolveValue second enter₂ key) s t := by
  cases present : s.flat.get? key with
  | none =>
    rw [present] at same
    refine .of_eq ?_ ?_
    · rw [Session.result_resolveValue_of_none present,
        Session.result_resolveValue_of_none same.symm]
    · rw [Session.final_resolveValue_of_none present, Session.final_resolveValue_of_none same.symm]
      exact (after related).1
  | some value =>
    rw [present] at same
    obtain ⟨text, rfl⟩ | other := value.eq_str_or
    · unfold AgreeAt
      rw [Session.result_resolveValue_of_str present,
        Session.result_resolveValue_of_str same.symm]
      obtain ⟨allowed, halt, stopped⟩ | ⟨results, finals⟩ :=
        abreast.substituteAll enters (some key) text s t related
      · exact .inl ⟨allowed, halt, by rw [stopped]; rfl⟩
      · refine .inr ⟨by rw [results], ?_⟩
        cases done : (Session.substituteAll first enter₁ (some key) text).result s with
        | error halt =>
          rw [Session.final_resolveValue_of_error present done,
            Session.final_resolveValue_of_error same.symm (results ▸ done)]
          exact (after finals).1
        | ok new =>
          rw [Session.final_resolveValue_of_ok present done,
            Session.final_resolveValue_of_ok same.symm (results ▸ done)]
          exact (after finals).2 new
    · refine .of_eq ?_ ?_
      · rw [Session.result_resolveValue_of_ne_str present other,
          Session.result_resolveValue_of_ne_str same.symm other]
      · rw [Session.final_resolveValue_of_ne_str present other,
          Session.final_resolveValue_of_ne_str same.symm other]
        exact (after related).1

end Abreast

/-- What two setups and a relation have to share for the same work to be done with either of them in
related sessions: they are abreast, and the relation minds no event but questions. -/
structure Parallel (lenient : Prop) (first second : Setup) (R : Session → Session → Prop) :
    Prop extends Abreast lenient first second R where
  noted : ∀ {s t : Session}, R s t → ∀ {event : Event}, ¬ event.IsQuestion →
    R (s.noted event) (t.noted event)
  aside := fun h _ _ other => noted h other

theorem Parallel.note {first second : Setup} (parallel : Parallel lenient first second R)
    {event : Event} (other : ¬ event.IsQuestion) {lenient : Prop} :
    Agree lenient R (note event) (note event) :=
  fun _ _ h => .of_eq rfl (parallel.noted h other)

/-! ### One setup -/

/-- What two sessions in a relation have to share for the same work to be done in both: the shape
of the flat document and the outcomes of commands. The relation looks at no events, and neither do
handlers. -/
structure Lockstep (setup : Setup) (R : Session → Session → Prop) : Prop where
  straight : setup.registry.IsStraight
  noted : ∀ {s t : Session}, R s t → ∀ event, R (s.noted event) (t.noted event)
  shape : ∀ {s t : Session}, R s t → s.flat.shape = t.flat.shape
  answers : ∀ {s t : Session}, R s t → ∀ command,
    setup.host.run s.journal.commands command = setup.host.run t.journal.commands command

namespace Lockstep

variable {setup : Setup} (lockstep : Lockstep setup R)

include lockstep

theorem note (event : Event) : Agree lenient R (note event) (note event) :=
  fun _ _ h => .of_eq rfl (lockstep.noted h event)

/-- A setup runs beside itself. -/
theorem parallel : Parallel lenient setup setup R where
  kinds := rfl
  limit := .inl rfl
  registry := rfl
  looks := .inl lockstep.straight
  noted h event _ := lockstep.noted h event
  resolve h key := .inr (Flat.resolve_eq_of_shape (lockstep.shape h) _ key)
  pickArray h key := .inr (Flat.pickArray_eq_of_shape (lockstep.shape h) _ key)
  elementPaths h key array := .inr (Flat.elementPaths_eq_of_shape (lockstep.shape h) key array)
  command _ _ := .runCommand (fun _ _ h => lockstep.answers h _) (lockstep.note _)
  read _ _ := ⟨lockstep.note _, rfl⟩

variable {enter₁ enter₂ : Session.Enter} (enters : ∀ key, Agree lenient R (enter₁ key) (enter₂ key))

include enters

/-- The calls that handlers make are answered alike when keys are. -/
theorem makes : ∀ call, setup.registry.Makes call →
    Agree lenient R (enter₁.answer call) (enter₂.answer call) :=
  lockstep.straight.forall_makes enters

/-- The value of a key that has the same value in both sessions is resolved to the same. -/
theorem resolveValue {s t : Session} (related : R s t) {key : String}
    (same : s.flat.get? key = t.flat.get? key) :
    AgreeAt lenient (fun _ _ => True) (Session.resolveValue setup enter₁ key)
      (Session.resolveValue setup enter₂ key) s t :=
  lockstep.parallel.resolveValue (lockstep.makes enters) related same
    fun _ => ⟨trivial, fun _ => trivial⟩

end Lockstep

end ConfigTemplate
