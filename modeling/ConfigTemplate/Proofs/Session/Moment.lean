import ConfigTemplate.Proofs.Flat.Lookup
import ConfigTemplate.Proofs.Session.Run
import Mathlib.Logic.Relation

/-!
# Moments of a session's work

The work of a session goes from moment to moment. At each of them some texts are being substituted,
one on behalf of the other, and a step replaces a placeholder of the innermost text, turns to the
string of a further key, or ends the work on a text. Once the work is stopped, the texts are given
up one after the other. Handlers that are not prompt may ask for keys that the document does not
have, have texts of their own substituted, and go on after a stop.

The steps say all that can happen. What holds at every moment is shown step by step.
-/

namespace ConfigTemplate

/-- Whether an event only tells of something: with it no work on a key begins or ends, nothing is
asked for and nothing is replaced. -/
def Event.IsRemark : Event → Prop
  | .entered _ | .settled .. | .failed _ | .replaced .. | .stalled .. | .ran .. | .read _ => False
  | _ => True

/-- A text whose placeholders are being substituted, the key that it belongs to, and the number of
substitutions that were made in it. -/
structure Frame where
  owner : Option String
  text : String
  count : Nat

/-- A moment of a session's work: the texts that are being substituted, the innermost first, the
session, and whether the work was stopped. -/
structure Moment where
  frames : List Frame
  session : Session
  stopped : Bool

namespace Moment

/-- The keys that are being resolved, the latest first. -/
def keys (m : Moment) : List String := m.frames.filterMap Frame.owner

/-- What is asked for in place of a placeholder of a text: the output of a command or the value of a
variable. A reference asks for nothing. -/
def questions (setup : Setup) (text : String) (p : Placeholder) : List Event :=
  match p.kind with
  | .reference => []
  | .command => [.ran text p.payload setup.host.announces]
  | .envVar => [.read p.payload]

/-- A session that has asked for what stands in place of a placeholder of a text. -/
def asked (setup : Setup) (s : Session) (text : String) (p : Placeholder) : Session :=
  { s with journal := questions setup text p ++ s.journal }

/-- A session after a placeholder of a text was replaced. -/
def replaced (setup : Setup) (s : Session) (text : String) (p : Placeholder) (new : String) :
    Session :=
  (asked setup s text p).noted (.replaced text p new)

/-- How the substitution of a text ends: nothing is left to be substituted, or a replacement left
the text as it was. -/
inductive Ends (setup : Setup) (f : Frame) (s : Session) : Session → Prop where
  | clean (none : Placeholder.scan (Session.kinds setup) f.text = none) : Ends setup f s s
  | stalled {p : Placeholder} {new : String}
    (found : Placeholder.scan (Session.kinds setup) f.text = some p)
    (within : f.count < setup.options.limit.toNat) (same : p.splice f.text new = f.text) :
    Ends setup f s
      ((replaced setup s f.text p new).noted (.stalled (Session.ownerOr f.text f.owner) p.text))

/-- The steps of a session's work. -/
inductive Step (setup : Setup) : Moment → Moment → Prop where
  /-- Something is told of. -/
  | remark {fs : List Frame} {s : Session} {event : Event} (remark : event.IsRemark) :
    Step setup ⟨fs, s, false⟩ ⟨fs, s.noted event, false⟩
  /-- The string of a key begins to be substituted. -/
  | enter {fs : List Frame} {s : Session} {key text : String}
    (fresh : key ∉ fs.filterMap Frame.owner) (unresolved : s.mark key ≠ .resolved)
    (present : s.flat.get? key = some (.str text)) :
    Step setup ⟨fs, s, false⟩ ⟨⟨some key, text, 0⟩ :: fs, s.entering key, false⟩
  /-- A key that holds no string is resolved at once. -/
  | take {fs : List Frame} {s : Session} {key : String} {value : Json}
    (fresh : key ∉ fs.filterMap Frame.owner) (unresolved : s.mark key ≠ .resolved)
    (present : s.flat.get? key = some value) (other : ∀ text, value ≠ .str text) :
    Step setup ⟨fs, s, false⟩ ⟨fs, (s.entering key).settledOn key value, false⟩
  /-- A handler asks for a key that the document does not have. -/
  | miss {fs : List Frame} {s : Session} {key : String} (free : ¬ setup.registry.IsPrompt)
    (fresh : key ∉ fs.filterMap Frame.owner) (unresolved : s.mark key ≠ .resolved)
    (absent : s.flat.get? key = none) :
    Step setup ⟨fs, s, false⟩ ⟨fs, (s.entering key).gaveUpOn key, true⟩
  /-- A text of a handler begins to be substituted. -/
  | begin {fs : List Frame} {s : Session} {text : String} (free : ¬ setup.registry.IsPrompt) :
    Step setup ⟨fs, s, false⟩ ⟨⟨none, text, 0⟩ :: fs, s, false⟩
  /-- A placeholder is replaced, and the text goes on to be substituted. -/
  | replace {f : Frame} {fs : List Frame} {s : Session} {p : Placeholder} {new : String}
    (found : Placeholder.scan (Session.kinds setup) f.text = some p)
    (within : f.count < setup.options.limit.toNat) (progress : p.splice f.text new ≠ f.text) :
    Step setup ⟨f :: fs, s, false⟩
      ⟨{ f with text := p.splice f.text new, count := f.count + 1 } :: fs,
        replaced setup s f.text p new, false⟩
  /-- The substitution of a key's string ends, and the key is resolved. -/
  | settle {f : Frame} {fs : List Frame} {s t : Session} {key old : String}
    (owner : f.owner = some key) (ends : Ends setup f s t)
    (present : t.flat.get? key = some (.str old)) :
    Step setup ⟨f :: fs, s, false⟩
      ⟨fs, (t.stored key (.str f.text)).settledOn key (.str f.text), false⟩
  /-- The substitution of a text that belongs to no key ends. -/
  | deliver {f : Frame} {fs : List Frame} {s t : Session} (owner : f.owner = none)
    (ends : Ends setup f s t) : Step setup ⟨f :: fs, s, false⟩ ⟨fs, t, false⟩
  /-- The work is stopped. -/
  | stop {fs : List Frame} {s : Session} : Step setup ⟨fs, s, false⟩ ⟨fs, s, true⟩
  /-- The work is stopped because a command or a variable gives no text. -/
  | refuse {f : Frame} {fs : List Frame} {s : Session} {p : Placeholder}
    (found : Placeholder.scan (Session.kinds setup) f.text = some p)
    (within : f.count < setup.options.limit.toNat) :
    Step setup ⟨f :: fs, s, false⟩ ⟨f :: fs, asked setup s f.text p, true⟩
  /-- After a stop the innermost key is given up. -/
  | giveUp {f : Frame} {fs : List Frame} {s : Session} {key : String} (owner : f.owner = some key) :
    Step setup ⟨f :: fs, s, true⟩ ⟨fs, s.gaveUpOn key, true⟩
  /-- After a stop a text that belongs to no key is dropped. -/
  | drop {f : Frame} {fs : List Frame} {s : Session} (owner : f.owner = none) :
    Step setup ⟨f :: fs, s, true⟩ ⟨fs, s, true⟩
  /-- A handler goes on after a stop. -/
  | resume {fs : List Frame} {s : Session} (free : ¬ setup.registry.IsPrompt) :
    Step setup ⟨fs, s, true⟩ ⟨fs, s, false⟩

/-- Whether some steps lead from a moment to another. -/
abbrev Leads (setup : Setup) : Moment → Moment → Prop := Relation.ReflTransGen (Step setup)

variable {setup : Setup} {m n : Moment} {f : Frame} {s t : Session}

/-- What every step keeps is kept all the way. -/
theorem Leads.keeps {I : Moment → Prop} (step : ∀ {m n}, Step setup m n → I m → I n)
    (h : Leads setup m n) (holds : I m) : I n := by
  induction h with
  | refl => exact holds
  | tail _ last ih => exact step last ih

/-! ### What questions and ends leave alone -/

theorem asked_of_reference {p : Placeholder} (reference : p.kind = .reference) (s : Session)
    (text : String) : asked setup s text p = s := by
  simp [asked, questions, reference]

@[simp] theorem flat_replaced (setup : Setup) (s : Session) (text : String) (p : Placeholder)
    (new : String) : (replaced setup s text p new).flat = s.flat := rfl

theorem Ends.flat_eq (h : Ends setup f s t) : t.flat = s.flat := by
  cases h with
  | clean => rfl
  | stalled => rfl

theorem Ends.mark_eq (h : Ends setup f s t) (key : String) : t.mark key = s.mark key := by
  cases h with
  | clean => rfl
  | stalled => rfl

/-! ### The document at every moment -/

/-- The shape of the document stays the same. -/
theorem Step.shape_eq (h : Step setup m n) : n.session.flat.shape = m.session.flat.shape := by
  cases h with
  | @settle f fs s t key old owner ends present =>
    have stored : (t.flat.put key (.str f.text)).shape = t.flat.shape :=
      Flat.shape_put present rfl
    exact stored.trans (congrArg Flat.shape ends.flat_eq)
  | deliver owner ends => exact congrArg Flat.shape ends.flat_eq
  | _ => rfl

theorem Leads.shape_eq (h : Leads setup m n) : n.session.flat.shape = m.session.flat.shape :=
  h.keeps (I := fun n => n.session.flat.shape = m.session.flat.shape)
    (fun step same => step.shape_eq.trans same) rfl

/-- A key that holds a string goes on holding one. -/
theorem Step.exists_str (h : Step setup m n) {key : String}
    (present : ∃ text, m.session.flat.get? key = some (.str text)) :
    ∃ text, n.session.flat.get? key = some (.str text) := by
  cases h with
  | @settle f fs s t other old owner ends held =>
    by_cases same : other = key
    · subst same
      exact ⟨f.text, Flat.get?_put_self ..⟩
    · obtain ⟨text, found⟩ := present
      refine ⟨text, (Flat.get?_put_of_ne _ same _).trans ?_⟩
      rwa [ends.flat_eq]
  | deliver owner ends => exact ends.flat_eq ▸ present
  | _ => exact present

theorem Leads.exists_str (h : Leads setup m n) {key : String}
    (present : ∃ text, m.session.flat.get? key = some (.str text)) :
    ∃ text, n.session.flat.get? key = some (.str text) :=
  h.keeps (fun step => step.exists_str) present

/-! ### The keys at every moment -/

/-- Whether the keys that are being resolved are distinct keys of the document and none of them is
resolved already. -/
structure Orderly (m : Moment) : Prop where
  distinct : m.keys.Nodup
  mem : ∀ key ∈ m.keys, key ∈ m.session.flat
  unresolved : ∀ key ∈ m.keys, m.session.mark key ≠ .resolved

theorem keys_cons_of_some {fs : List Frame} {key : String} (owner : f.owner = some key)
    (s : Session) (stopped : Bool) :
    (⟨f :: fs, s, stopped⟩ : Moment).keys = key :: fs.filterMap Frame.owner :=
  List.filterMap_cons_some owner

theorem keys_cons_of_none {fs : List Frame} (owner : f.owner = none) (s : Session)
    (stopped : Bool) :
    (⟨f :: fs, s, stopped⟩ : Moment).keys = fs.filterMap Frame.owner :=
  List.filterMap_cons_none owner

/-- At rest no key is being resolved. -/
theorem orderly_of_keys_eq_nil (h : m.keys = []) : Orderly m := by
  constructor <;> simp [h]

/-- Of the session only the shape of the document and the marks of the keys that are being resolved
matter. -/
theorem Orderly.of_marks (h : Orderly m) (same : n.keys = m.keys)
    (shape : n.session.flat.shape = m.session.flat.shape)
    (marks : ∀ key ∈ m.keys, n.session.mark key = m.session.mark key) : Orderly n where
  distinct := same ▸ h.distinct
  mem key mem := (Flat.mem_iff_of_shape shape).2 (h.mem key (same ▸ mem))
  unresolved key mem := by
    rw [same] at mem
    rw [marks key mem]
    exact h.unresolved key mem

/-- A key that ends being resolved may be marked in any way. -/
theorem Orderly.tail {key : String} (h : Orderly m) (keys : m.keys = key :: n.keys)
    (shape : n.session.flat.shape = m.session.flat.shape)
    (marks : ∀ other, key ≠ other → n.session.mark other = m.session.mark other) : Orderly n := by
  have distinct := h.distinct
  rw [keys, List.nodup_cons] at distinct
  have earlier {other : String} (mem : other ∈ n.keys) : other ∈ m.keys :=
    keys ▸ List.mem_cons_of_mem _ mem
  refine ⟨distinct.2, fun other mem => (Flat.mem_iff_of_shape shape).2 (h.mem other (earlier mem)),
    fun other mem => ?_⟩
  have apart : key ≠ other := by
    rintro rfl
    exact distinct.1 mem
  rw [marks other apart]
  exact h.unresolved other (earlier mem)

theorem mark_entering_of_ne {key other : String} (apart : key ≠ other) :
    (s.entering key).mark other = s.mark other :=
  Session.mark_marked_of_ne s apart _

theorem mark_settledOn_of_ne {key other : String} (apart : key ≠ other) (value : Json) :
    (s.settledOn key value).mark other = s.mark other :=
  Session.mark_marked_of_ne s apart _

theorem mark_gaveUpOn_of_ne {key other : String} (apart : key ≠ other) :
    (s.gaveUpOn key).mark other = s.mark other :=
  Session.mark_marked_of_ne s apart _

/-- A step keeps the keys that are being resolved in order. -/
theorem Step.orderly (h : Step setup m n) (orderly : Orderly m) : Orderly n := by
  have shape := h.shape_eq
  cases h with
  | remark | replace | stop | refuse | begin | resume =>
    exact orderly.of_marks rfl shape fun _ _ => rfl
  | @miss fs s key free fresh =>
    refine orderly.of_marks rfl shape fun other mem => ?_
    have apart : key ≠ other := by
      rintro rfl
      exact fresh mem
    exact (mark_gaveUpOn_of_ne apart).trans (mark_entering_of_ne apart)
  | deliver owner ends =>
    exact orderly.of_marks (keys_cons_of_none owner ..).symm shape fun key _ => ends.mark_eq key
  | drop owner => exact orderly.of_marks (keys_cons_of_none owner ..).symm shape fun _ _ => rfl
  | giveUp owner =>
    exact orderly.tail (keys_cons_of_some owner ..) shape fun _ apart => mark_gaveUpOn_of_ne apart
  | settle owner ends =>
    exact orderly.tail (keys_cons_of_some owner ..) shape fun other apart =>
      (mark_settledOn_of_ne apart _).trans (ends.mark_eq other)
  | @take fs s key value fresh =>
    refine orderly.of_marks rfl shape fun other mem => ?_
    have apart : key ≠ other := by
      rintro rfl
      exact fresh mem
    exact (mark_settledOn_of_ne apart _).trans (mark_entering_of_ne apart)
  | @enter fs s key text fresh unresolved present =>
    refine ⟨List.nodup_cons.2 ⟨fresh, orderly.distinct⟩,
      List.forall_mem_cons.2 ⟨Flat.mem_of_get? present, orderly.mem⟩, fun other mem => ?_⟩
    by_cases same : key = other
    · subst same
      exact (Session.mark_marked_self s key .inProgress).symm ▸ by decide
    · have earlier := (List.mem_cons.1 mem).resolve_left (Ne.symm same)
      exact (mark_entering_of_ne same).symm ▸ orderly.unresolved other earlier

end Moment

/-- Whether a session has come from another one in its work: a resolved key stays as it is, and the
value of a key changes only when the key becomes resolved. -/
structure Session.Advances (s t : Session) : Prop where
  resolved : ∀ key, s.mark key = .resolved → t.mark key = .resolved
  values : ∀ key, t.flat.get? key = s.flat.get? key ∨
    (s.mark key ≠ .resolved ∧ t.mark key = .resolved)

namespace Session.Advances

variable {s t u : Session}

theorem refl (s : Session) : Advances s s := ⟨fun _ known => known, fun _ => .inl rfl⟩

theorem trans (first : Advances s t) (second : Advances t u) : Advances s u where
  resolved key known := second.resolved key (first.resolved key known)
  values key := by
    obtain same | ⟨before, after⟩ := first.values key
    · obtain same' | ⟨before, after⟩ := second.values key
      · exact .inl (same'.trans same)
      · exact .inr ⟨fun known => before (first.resolved key known), after⟩
    · exact .inr ⟨before, second.resolved key after⟩

/-- What concerns an unresolved key alone is an advance, if the key's value changes only when the
key becomes resolved. -/
theorem of_unresolved {key : String} (unresolved : s.mark key ≠ .resolved)
    (marks : ∀ other, key ≠ other → t.mark other = s.mark other)
    (values : ∀ other, key ≠ other → t.flat.get? other = s.flat.get? other)
    (own : t.flat.get? key = s.flat.get? key ∨ t.mark key = .resolved) : Advances s t where
  resolved other known := by
    have apart : key ≠ other := by
      rintro rfl
      exact unresolved known
    exact (marks other apart).trans known
  values other := by
    by_cases same : key = other
    · subst same
      exact own.imp_right fun known => ⟨unresolved, known⟩
    · exact .inl (values other same)

end Session.Advances

namespace Moment

open Session (Advances)

variable {setup : Setup} {m n : Moment}

/-- A step of orderly work is an advance. -/
theorem Step.advances (h : Step setup m n) (orderly : Orderly m) :
    Advances m.session n.session := by
  cases h with
  | remark | replace | refuse => exact ⟨fun _ known => known, fun _ => .inl rfl⟩
  | stop | drop | begin | resume => exact .refl _
  | deliver owner ends =>
    exact ⟨fun key known => (ends.mark_eq key).trans known, fun key => .inl (by rw [ends.flat_eq])⟩
  | enter fresh unresolved =>
    exact .of_unresolved unresolved (fun _ apart => mark_entering_of_ne apart) (fun _ _ => rfl)
      (.inl rfl)
  | take fresh unresolved =>
    refine .of_unresolved unresolved (fun other apart => ?_) (fun _ _ => rfl) (.inl rfl)
    exact (mark_settledOn_of_ne apart _).trans (mark_entering_of_ne apart)
  | miss free fresh unresolved =>
    refine .of_unresolved unresolved (fun other apart => ?_) (fun _ _ => rfl) (.inl rfl)
    exact (mark_gaveUpOn_of_ne apart).trans (mark_entering_of_ne apart)
  | giveUp owner =>
    have unresolved := orderly.unresolved _ (keys_cons_of_some owner .. ▸ List.mem_cons_self)
    exact .of_unresolved unresolved (fun _ apart => mark_gaveUpOn_of_ne apart) (fun _ _ => rfl)
      (.inl rfl)
  | settle owner ends =>
    have unresolved := orderly.unresolved _ (keys_cons_of_some owner .. ▸ List.mem_cons_self)
    refine .of_unresolved unresolved (fun other apart => ?_) (fun other apart => ?_)
      (.inr (Session.mark_marked_self ..))
    · exact (mark_settledOn_of_ne apart _).trans (ends.mark_eq other)
    · exact (Flat.get?_put_of_ne _ apart _).trans (by rw [ends.flat_eq])

theorem Leads.orderly (h : Leads setup m n) (orderly : Orderly m) : Orderly n :=
  h.keeps (fun step => step.orderly) orderly

/-- What every step of orderly work keeps is kept all the way. -/
theorem Leads.keeps_of_orderly {I : Moment → Prop}
    (step : ∀ {m n}, Step setup m n → Orderly m → I m → I n) (h : Leads setup m n)
    (orderly : Orderly m) (holds : I m) : I n := by
  induction h with
  | refl => exact holds
  | tail before last ih => exact step last (Leads.orderly before orderly) ih

/-- Orderly work advances. -/
theorem Leads.advances (h : Leads setup m n) (orderly : Orderly m) :
    Advances m.session n.session :=
  h.keeps_of_orderly (I := fun n => Advances m.session n.session)
    (fun step orderly before => before.trans (step.advances orderly)) orderly (.refl _)

end Moment

end ConfigTemplate
