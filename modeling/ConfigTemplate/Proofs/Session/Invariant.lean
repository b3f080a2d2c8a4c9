import ConfigTemplate.Proofs.Session.Agreement

/-!
# Invariants of sessions

An action keeps an invariant when the session that it leaves has it as soon as the session that it
begins in does, whether it is stopped or not. An invariant that events, marks and stored
substitutions keep is kept by everything that resolves keys.
-/

namespace ConfigTemplate

variable {α β : Type} {I : Session → Prop}

namespace Action

/-- Whether an invariant outlasts an action. -/
def Keeps (I : Session → Prop) (action : Action α) : Prop := ∀ s, I s → I (action.final s)

/-- An action keeps an invariant when it agrees with itself on sessions that have it. -/
theorem keeps_iff_agree {action : Action α} :
    Keeps I action ↔ Agree False (fun s t => s = t ∧ I s) action action := by
  constructor
  · rintro keeps s _ ⟨rfl, holds⟩
    exact .of_eq rfl ⟨rfl, keeps s holds⟩
  · intro agree s holds
    exact (agree s s ⟨rfl, holds⟩).related.2

theorem Keeps.bind {action : Action α} {next : α → Action β} (first : Keeps I action)
    (rest : ∀ x, Keeps I (next x)) : Keeps I (action >>= next) :=
  keeps_iff_agree.2 ((keeps_iff_agree.1 first).bind fun x => keeps_iff_agree.1 (rest x))

theorem Keeps.get_bind {next : Session → Action α} (h : ∀ s, I s → I ((next s).final s)) :
    Keeps I (get >>= next) := h

theorem Keeps.pure (x : α) : Keeps I (pure x : Action α) := fun _ holds => holds

theorem Keeps.throw (halt : Halt) : Keeps I (throw halt : Action α) := fun _ holds => holds

theorem Keeps.breakOff (mishap : Mishap) : Keeps I (breakOff mishap : Action α) := .throw _

end Action

open ConfigTemplate.Action

/-- An invariant that looks at no events is a lockstep of sessions with themselves. -/
theorem Lockstep.diagonal {setup : Setup} (straight : setup.registry.IsStraight)
    (noted : ∀ {s}, I s → ∀ event, I (s.noted event)) :
    Lockstep setup fun s t => s = t ∧ I s where
  straight := straight
  noted := by
    rintro s _ ⟨rfl, holds⟩ event
    exact ⟨rfl, noted holds event⟩
  shape := by
    rintro s _ ⟨rfl, _⟩
    rfl
  answers := by
    rintro s _ ⟨rfl, _⟩ command
    rfl

/-- An invariant that minds no event on the way to a value puts sessions abreast with themselves. -/
theorem Abreast.diagonal (setup : Setup)
    (noted : ∀ {s}, I s → ∀ event : Event, event.IsAside → I (s.noted event)) :
    Abreast False setup setup fun s t => s = t ∧ I s where
  kinds := rfl
  limit := .inl rfl
  registry := rfl
  looks := .inr ⟨id, And.left⟩
  aside := by
    rintro s _ ⟨rfl, holds⟩ event aside _
    exact ⟨rfl, noted holds event aside⟩
  resolve := by
    rintro s _ ⟨rfl, _⟩ key
    exact .inr rfl
  pickArray := by
    rintro s _ ⟨rfl, _⟩ key
    exact .inr rfl
  elementPaths := by
    rintro s _ ⟨rfl, _⟩ key array
    exact .inr rfl
  command _ _ := by
    refine .runCommand ?_ ?_
    · rintro s _ ⟨rfl, _⟩
      rfl
    · rintro s _ ⟨rfl, holds⟩
      exact .of_eq rfl ⟨rfl, noted holds _ trivial⟩
  read _ _ := by
    refine ⟨?_, rfl⟩
    rintro s _ ⟨rfl, holds⟩
    exact .of_eq rfl ⟨rfl, noted holds _ trivial⟩

namespace Session

/-- The placeholders that a value keeps are only noted. -/
theorem keeps_noteWithheld
    (withheld : ∀ {s}, I s → ∀ key placeholder, I (s.noted (.withheld key placeholder)))
    (setup : Setup) (key : String) (value : Json) : Keeps I (noteWithheld setup key value) := by
  have each : ∀ ps : List Placeholder, Keeps I (ps.forM fun p => note (.withheld key p.text)) := by
    intro ps
    induction ps with
    | nil => exact .pure _
    | cons p ps ih => exact Keeps.bind (fun s holds => withheld holds key p.text) fun _ => ih
  unfold noteWithheld
  split
  · split
    · exact .pure _
    · exact each _
  · exact .pure _

section Work

variable {setup : Setup} {enter : Enter}
variable (noted : ∀ {s}, I s → ∀ event : Event, event.IsAside → I (s.noted event))
variable (enters : ∀ call, setup.registry.Makes call → Keeps I (enter.answer call))

include noted enters

theorem keeps_recover (failure : Failure) : Keeps I (recover setup enter failure) :=
  keeps_iff_agree.2 <| (Abreast.diagonal setup noted).recover
    (fun call makes => keeps_iff_agree.1 (enters call makes)) failure

theorem keeps_follow (expression : String) : Keeps I (follow setup enter expression) :=
  keeps_iff_agree.2 <| (Abreast.diagonal setup noted).follow
    (fun call makes => keeps_iff_agree.1 (enters call makes)) expression

theorem keeps_substituteAll (owner : Option String) (text : String) :
    Keeps I (substituteAll setup enter owner text) :=
  keeps_iff_agree.2 <| (Abreast.diagonal setup noted).substituteAll
    (fun call makes => keeps_iff_agree.1 (enters call makes)) owner text

end Work

section Each

variable {setup : Setup} {enter : Enter} (keeps : ∀ key, Keeps I (enter key))

include keeps

/-- Work that resolves keys one after the other keeps what the resolution of each key keeps. -/
theorem keeps_resolveEach (keys : List String) : Keeps I (resolveEach enter keys) := by
  induction keys with
  | nil => exact .pure _
  | cons key rest ih => exact (keeps key).bind fun _ => ih

theorem keeps_resolvePending
    (noted : ∀ {s}, I s → ∀ event : Event, event.IsAside → I (s.noted event)) :
    Keeps I (resolvePending setup enter) := by
  refine .get_bind fun s holds => ?_
  dsimp only
  split
  · exact noted holds _ trivial
  · exact (Keeps.bind (fun _ holds => noted holds _ (by trivial)) fun _ =>
      keeps_resolveEach keeps _) s holds

end Each

/-- Calls on a trail keep what the resolution of a key on it and the calls that are made on the way
keep. -/
theorem keeps_answerStep {setup : Setup} {deeper : Trail → Enter} {trail : Trail}
    (noted : ∀ {s}, I s → ∀ event : Event, event.IsAside → I (s.noted event))
    (step : ∀ key, Keeps I (resolveStep setup deeper trail key))
    (deep : ∀ call, Keeps I ((deeper trail).answer call)) (call : Call) :
    Keeps I ((answerStep setup deeper trail).answer call) := by
  have calls : ∀ call, setup.registry.Makes call → Keeps I ((deeper trail).answer call) :=
    fun call _ => deep call
  cases call with
  | resolveKey key => exact step key
  | lookup expression => exact keeps_follow noted calls expression
  | expand text => exact (keeps_substituteAll noted calls none text).bind fun _ => .pure _
  | resolveAll =>
    exact (keeps_resolvePending (fun key => deep (.resolveKey key)) noted).bind fun _ => .pure _

end Session

/-- An invariant of a session that depends neither on its events nor on its marks, and that a
string outlasts which is stored in place of another. Where nothing was to be substituted the string
is the same. -/
structure Invariant (setup : Setup) (I : Session → Prop) : Prop where
  noted : ∀ {s : Session}, I s → ∀ event, I (s.noted event)
  marked : ∀ {s : Session}, I s → ∀ key mark, I (s.marked key mark)
  stored : ∀ {s t : Session}, I s → I t → ∀ {key text new : String},
    s.flat.get? key = some (.str text) →
    (Placeholder.scan (Session.kinds setup) text = none → new = text) →
    I (t.stored key (.str new))

namespace Invariant

open Session

variable {setup : Setup} {enter : Enter} (invariant : Invariant setup I)

include invariant

theorem aside {s : Session} (holds : I s) (event : Event) (_ : event.IsAside) :
    I (s.noted event) :=
  invariant.noted holds event

section Enter

variable (enters : ∀ call, Keeps I (enter.answer call))

include enters

theorem resolveValue (key : String) : Keeps I (resolveValue setup enter key) := by
  intro s holds
  cases present : s.flat.get? key with
  | none => rwa [final_resolveValue_of_none present]
  | some value =>
    obtain ⟨text, rfl⟩ | other := value.eq_str_or
    · have kept : I ((substituteAll setup enter (some key) text).final s) :=
        keeps_substituteAll invariant.aside (fun call _ => enters call) (some key) text s holds
      cases done : (substituteAll setup enter (some key) text).result s with
      | error halt => rwa [final_resolveValue_of_error present done]
      | ok new =>
        rw [final_resolveValue_of_ok present done]
        refine invariant.stored holds kept present fun clean => ?_
        rw [substituteAll, substitute_of_scan clean] at done
        exact (Except.ok.inj done).symm
    · rw [final_resolveValue_of_ne_str present other]
      exact holds

theorem enterKey (key : String) : Keeps I (enterKey setup enter key) := by
  intro s holds
  have kept := invariant.resolveValue enters key (s.entering key)
    (invariant.noted (invariant.marked holds _ _) _)
  cases done : (Session.resolveValue setup enter key).result (s.entering key) with
  | error halt =>
    rw [final_enterKey_of_error done]
    exact invariant.noted (invariant.marked kept _ _) _
  | ok value =>
    rw [final_enterKey_of_ok done]
    have told : Keeps I (noteWithheld setup key value) :=
      keeps_noteWithheld (fun holds _ _ => invariant.noted holds _) setup key value
    exact told _ (invariant.noted (invariant.marked kept _ _) _)

end Enter

section Deeper

variable {deeper : Trail → Enter} (deep : ∀ trail call, Keeps I ((deeper trail).answer call))

include deep

/-- One step keeps the invariant when the deeper steps do. -/
theorem resolveStep (trail : Trail) (key : String) :
    Keeps I (resolveStep setup deeper trail key) := by
  refine .get_bind fun s holds => ?_
  split
  · split
    · exact holds
    · exact holds
  · split
    · exact ((keeps_recover invariant.aside (fun call _ => deep trail call) _).bind
        fun _ => .pure _) s holds
    · exact invariant.enterKey (deep _) key s holds

theorem answerStep (trail : Trail) (call : Call) :
    Keeps I ((answerStep setup deeper trail).answer call) :=
  keeps_answerStep invariant.aside (invariant.resolveStep deep trail) (deep trail) call

end Deeper

theorem resolveOn (room : Nat) (trail : Trail) (call : Call) :
    Keeps I ((resolveOn setup room trail).answer call) := by
  induction room generalizing trail call with
  | zero => exact invariant.answerStep (fun _ _ => .breakOff _) trail call
  | succ room ih => exact invariant.answerStep ih trail call

/-- Calls keep the invariant while no key is being resolved. -/
theorem atRest (call : Call) : Keeps I ((atRest setup).answer call) :=
  .get_bind fun _ holds => invariant.resolveOn _ .empty call _ holds

/-- The resolution of a key keeps the invariant. -/
theorem resolveKey (key : String) : Keeps I (resolveKey setup key) :=
  invariant.atRest (.resolveKey key)

/-- The resolution of all keys keeps the invariant. -/
theorem resolveAll : Keeps I (resolveAll setup) :=
  keeps_resolvePending invariant.resolveKey invariant.aside

end Invariant

end ConfigTemplate

/-!
### What a session retains

Resolving changes the texts of strings and nothing else: no key comes or goes or moves, a value
that is no string stays as it is, and so does a string without placeholders.
-/

namespace ConfigTemplate

/-- What may become of a value while placeholders of some kinds are substituted: it stays as it is,
or it is a string with placeholders and becomes another string. -/
inductive Json.Becomes (kinds : List Placeholder.Kind) : Json → Json → Prop where
  | kept (value : Json) : Becomes kinds value value
  | substituted {text : String} (occurs : Placeholder.scan kinds text ≠ none) (new : String) :
    Becomes kinds (.str text) (.str new)

namespace Session

/-- Whether a session still has the keys of a flat document in their order, with values that its
values may have become. -/
structure Retains (kinds : List Placeholder.Kind) (flat : Flat) (s : Session) : Prop where
  keys : s.flat.keys = flat.keys
  values : ∀ key value, flat.get? key = some value →
    ∃ new, s.flat.get? key = some new ∧ value.Becomes kinds new

variable {kinds : List Placeholder.Kind} {flat : Flat}

theorem retains_start (kinds : List Placeholder.Kind) (flat : Flat) :
    Retains kinds flat (start flat) :=
  ⟨rfl, fun _ value present => ⟨value, present, .kept value⟩⟩

theorem Retains.exists_get? {s : Session} (h : Retains kinds flat s) {key : String} {value : Json}
    (present : s.flat.get? key = some value) : ∃ old, flat.get? key = some old := by
  have mem : key ∈ s.flat.keys := Flat.mem_of_get? present
  rw [h.keys] at mem
  exact Flat.exists_get? mem

/-- What a session retains is an invariant of its work. -/
theorem invariant_retains (setup : Setup) (flat : Flat) :
    Invariant setup (Retains (Session.kinds setup) flat) where
  noted h _ := ⟨h.keys, h.values⟩
  marked h _ _ := ⟨h.keys, h.values⟩
  stored := by
    intro s t before after key text new present clean
    obtain ⟨old, was⟩ := before.exists_get? present
    have mem : key ∈ t.flat := by
      change key ∈ t.flat.keys
      rw [after.keys, ← before.keys]
      exact Flat.mem_of_get? present
    refine ⟨(Flat.keys_put_of_mem mem _).trans after.keys, fun other value found => ?_⟩
    by_cases same : key = other
    · subst same
      refine ⟨.str new, Flat.get?_put_self .., ?_⟩
      obtain ⟨now, there, became⟩ := before.values key value found
      obtain rfl : now = .str text := Option.some.inj (there.symm.trans present)
      cases became with
      | kept =>
        cases scanned : Placeholder.scan (Session.kinds setup) text with
        | none => exact clean scanned ▸ .kept _
        | some p => exact .substituted (by simp [scanned]) new
      | substituted occurs => exact .substituted occurs new
    · obtain ⟨now, there, became⟩ := after.values other value found
      exact ⟨now, (Flat.get?_put_of_ne _ same _).trans there, became⟩

/-- The document after all keys were resolved has the keys of the one before, and each value is
what its value may have become. -/
theorem retains_final_resolveAll (setup : Setup) (flat : Flat) :
    Retains (Session.kinds setup) flat ((resolveAll setup).final (start flat)) :=
  (invariant_retains setup flat).resolveAll _ (retains_start ..)

/-- With no value that has placeholders there is nothing to do. -/
theorem resolveAll_of_pending_nil {setup : Setup} {s : Session} (h : pending setup s = []) :
    (resolveAll setup).run s = (.ok (), s.noted .nothingPending) := by
  change (if (pending setup s).isEmpty = true then _ else _ : Action Unit).run s = _
  rw [h]
  rfl

end Session

end ConfigTemplate
