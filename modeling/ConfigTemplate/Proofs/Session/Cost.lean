import ConfigTemplate.Proofs.Session.Course
import ConfigTemplate.Proofs.Session.Depth
import Mathlib

/-!
# The cost of a call

At every moment of a call no more keys are underway than the document has. And a call substitutes no
more placeholders than a text may have substituted in each of the keys' strings and in one text
more, as long as handlers make no calls of their own. The substitutions that are left to the texts
underway and to the keys that may still be entered pay for it: an entered key takes its own with it,
and a stop gives all of them up.
-/

namespace ConfigTemplate

/-! ### Keys underway -/

/-- The keys that began to be resolved and did not end since, the latest first. -/
def Journal.underway : Journal → List String
  | [] => []
  | .entered key :: before => key :: underway before
  | .settled key _ :: before => (underway before).erase key
  | .failed key :: before => (underway before).erase key
  | _ :: before => underway before

/-- Whether no key begins or ends being resolved with an event. -/
def Event.IsQuiet : Event → Prop
  | .entered _ | .settled .. | .failed _ => False
  | _ => True

theorem Event.IsRemark.isQuiet {event : Event} (h : event.IsRemark) : event.IsQuiet := by
  cases event <;> trivial

theorem Journal.underway_cons_of_isQuiet {event : Event} (h : event.IsQuiet) (before : Journal) :
    underway (event :: before) = underway before := by
  cases event <;> first | rfl | exact h.elim

/-- A journal that goes on from an earlier one with some keys underway, never more than a number of
them. -/
inductive Journal.Follows (earlier : Journal) (most : Nat) : List String → Journal → Prop where
  | start : Follows earlier most [] earlier
  | quiet {keys : List String} {journal : Journal} {event : Event}
    (h : Follows earlier most keys journal) (quiet : event.IsQuiet) :
    Follows earlier most keys (event :: journal)
  | entered {keys : List String} {journal : Journal} {key : String}
    (h : Follows earlier most keys journal) (room : (key :: keys).length ≤ most) :
    Follows earlier most (key :: keys) (.entered key :: journal)
  | settled {keys : List String} {journal : Journal} {key : String}
    (h : Follows earlier most (key :: keys) journal) (value : Json) :
    Follows earlier most keys (.settled key value :: journal)
  | failed {keys : List String} {journal : Journal} {key : String}
    (h : Follows earlier most (key :: keys) journal) :
    Follows earlier most keys (.failed key :: journal)

namespace Journal

variable {earlier journal : Journal} {most : Nat} {keys : List String}

/-- Whether no more than a number of keys were underway at any moment that a journal tells of. -/
def Bounded (most : Nat) (events : Journal) : Prop :=
  ∀ moment, moment <:+ events → (underway moment).length ≤ most

theorem Bounded.cons {events : Journal} {event : Event} (h : Bounded most events)
    (room : (underway (event :: events)).length ≤ most) : Bounded most (event :: events) := by
  intro moment suffix
  obtain rfl | before := List.suffix_cons_iff.1 suffix
  · exact room
  · exact h moment before

/-- The events since the earlier journal tell of the keys underway and of no more at any moment. -/
theorem Follows.exists_events (h : Follows earlier most keys journal) :
    ∃ events, journal = events ++ earlier ∧ underway events = keys ∧ Bounded most events := by
  induction h with
  | start =>
    refine ⟨[], rfl, rfl, fun moment suffix => ?_⟩
    rw [List.suffix_nil.1 suffix]
    exact Nat.zero_le _
  | @quiet keys journal event _ quiet ih =>
    obtain ⟨events, rfl, rfl, bounded⟩ := ih
    have same := underway_cons_of_isQuiet quiet events
    exact ⟨event :: events, rfl, same, bounded.cons (same ▸ bounded events List.suffix_rfl)⟩
  | @entered keys journal key _ room ih =>
    obtain ⟨events, rfl, rfl, bounded⟩ := ih
    exact ⟨.entered key :: events, rfl, rfl, bounded.cons room⟩
  | @settled keys journal key _ value ih =>
    obtain ⟨events, rfl, same, bounded⟩ := ih
    have fewer : underway (.settled key value :: events) = keys := by
      rw [underway, same, List.erase_cons_head]
    have room := bounded events List.suffix_rfl
    rw [same, List.length_cons] at room
    exact ⟨_, rfl, fewer, bounded.cons (fewer ▸ by omega)⟩
  | @failed keys journal key _ ih =>
    obtain ⟨events, rfl, same, bounded⟩ := ih
    have fewer : underway (.failed key :: events) = keys := by
      rw [underway, same, List.erase_cons_head]
    have room := bounded events List.suffix_rfl
    rw [same, List.length_cons] at room
    exact ⟨_, rfl, fewer, bounded.cons (fewer ▸ by omega)⟩

end Journal

namespace Moment

open ConfigTemplate.Session
open Journal (Follows)

variable {setup : Setup} {m n : Moment} {f : Frame} {s t : Session} {earlier : Journal} {most : Nat}
variable {keys : List String}

theorem follows_asked (h : Follows earlier most keys s.journal) (text : String) (p : Placeholder) :
    Follows earlier most keys (asked setup s text p).journal := by
  unfold asked questions
  dsimp only
  split
  · exact h
  · exact h.quiet trivial
  · exact h.quiet trivial

theorem Ends.follows (h : Ends setup f s t) (follows : Follows earlier most keys s.journal) :
    Follows earlier most keys t.journal := by
  cases h with
  | clean => exact follows
  | stalled => exact ((follows_asked follows ..).quiet (by trivial)).quiet (by trivial)

/-- A further key of the document is one more at most. -/
theorem Orderly.length_cons_le (h : Orderly m) {key : String} (fresh : key ∉ m.keys)
    (mem : key ∈ m.session.flat) : (key :: m.keys).length ≤ m.session.flat.size := by
  have inside : key :: m.keys ⊆ m.session.flat.keys :=
    List.cons_subset.2 ⟨mem, h.mem⟩
  have distinct : (key :: m.keys).Nodup := List.nodup_cons.2 ⟨fresh, h.distinct⟩
  exact Flat.length_keys _ ▸ (List.Nodup.subperm distinct inside).length_le

/-- Whether a moment's journal goes on from an earlier one with the keys that are being resolved
underway, never more than the document has. -/
def Tells (earlier : Journal) (m : Moment) : Prop :=
  Follows earlier m.session.flat.size m.keys m.session.journal

theorem Step.tells (prompt : setup.registry.IsPrompt) (h : Step setup m n) (orderly : Orderly m)
    (tells : Tells earlier m) : Tells earlier n := by
  unfold Tells at tells ⊢
  rw [Flat.size_eq_of_shape h.shape_eq]
  cases h with
  | remark remark => exact tells.quiet remark.isQuiet
  | enter fresh unresolved present =>
    exact tells.entered (orderly.length_cons_le fresh (Flat.mem_of_get? present))
  | take fresh unresolved present =>
    exact (tells.entered (orderly.length_cons_le fresh (Flat.mem_of_get? present))).settled _
  | miss free | begin free | resume free => exact absurd prompt free
  | replace => exact (follows_asked tells ..).quiet trivial
  | settle owner ends =>
    rw [keys_cons_of_some owner] at tells
    exact (ends.follows tells).settled _
  | deliver owner ends =>
    rw [keys_cons_of_none owner] at tells
    exact ends.follows tells
  | stop => exact tells
  | refuse => exact follows_asked tells ..
  | giveUp owner =>
    rw [keys_cons_of_some owner] at tells
    exact tells.failed
  | drop owner =>
    rw [keys_cons_of_none owner] at tells
    exact tells

end Moment

/-! ### Substitutions -/

/-- Whether an event is part of a substitution: a command is run, a variable is read, or a
placeholder is replaced. -/
def Event.IsSubstitution : Event → Prop
  | .replaced .. | .ran .. | .read _ => True
  | _ => False

theorem Event.IsRemark.not_isSubstitution {event : Event} (h : event.IsRemark) :
    ¬ event.IsSubstitution := by
  cases event <;> first | exact id | exact h.elim

/-- Whether an event replaces a placeholder. -/
def Event.isReplacement : Event → Bool
  | .replaced .. => true
  | _ => false

/-- The substitutions that a text has left. -/
def Frame.left (setup : Setup) (f : Frame) : Nat := setup.options.limit.toNat - f.count

namespace Moment

open ConfigTemplate.Session

variable {setup : Setup} {m n : Moment} {f : Frame} {s t : Session} {count : Event → Bool}
variable {key : String}

/-- Whether a way to count events counts nothing but parts of substitutions, and of each
substitution one event at most. -/
structure Counts (setup : Setup) (count : Event → Bool) : Prop where
  only : ∀ event, count event = true → event.IsSubstitution
  once : ∀ text p new,
    (Event.replaced text p new :: questions setup text p).countP count ≤ 1

/-- The keys that may still be entered. -/
def ahead (m : Moment) : Finset String :=
  m.session.flat.keys.toFinset.filter fun key => m.session.mark key ≠ .resolved ∧ key ∉ m.keys

/-- The substitutions that a moment has left: those of the texts underway, and those of the keys
that may still be entered. After a stop there are none. -/
def left (setup : Setup) : Moment → Nat
  | ⟨_, _, true⟩ => 0
  | m@⟨fs, _, false⟩ =>
    (fs.map (Frame.left setup)).sum + setup.options.limit.toNat * m.ahead.card

theorem mem_ahead :
    key ∈ m.ahead ↔ key ∈ m.session.flat ∧ m.session.mark key ≠ .resolved ∧ key ∉ m.keys := by
  rw [ahead, Finset.mem_filter, List.mem_toFinset]
  rfl

theorem card_ahead_le (m : Moment) : m.ahead.card ≤ m.session.flat.size := by
  rw [← Flat.length_keys]
  exact (Finset.card_filter_le ..).trans (List.toFinset_card_le _)

/-- As long as the work is not stopped, no key gets ahead that was not. -/
theorem Step.ahead_subset (prompt : setup.registry.IsPrompt) (h : Step setup m n)
    (going : n.stopped = false) : n.ahead ⊆ m.ahead := by
  intro key mem
  obtain ⟨present, unresolved, fresh⟩ := mem_ahead.1 mem
  refine mem_ahead.2 ⟨(Flat.mem_iff_of_shape h.shape_eq).1 present, ?_⟩
  cases h with
  | remark | replace => exact ⟨unresolved, fresh⟩
  | miss free | begin free | resume free => exact absurd prompt free
  | enter =>
    have apart := List.ne_of_not_mem_cons fresh
    exact ⟨mark_entering_of_ne apart.symm ▸ unresolved, List.not_mem_of_not_mem_cons fresh⟩
  | @take fs s other value =>
    have apart : other ≠ key := by
      rintro rfl
      exact unresolved (Session.mark_marked_self ..)
    rw [mark_settledOn_of_ne apart, mark_entering_of_ne apart] at unresolved
    exact ⟨unresolved, fresh⟩
  | @settle f fs s t other old owner ends =>
    have apart : other ≠ key := by
      rintro rfl
      exact unresolved (Session.mark_marked_self ..)
    have same := (mark_settledOn_of_ne apart (.str f.text)).trans (ends.mark_eq key)
    rw [keys_cons_of_some owner]
    exact ⟨same ▸ unresolved, List.not_mem_cons_of_ne_of_not_mem apart.symm fresh⟩
  | deliver owner ends =>
    rw [keys_cons_of_none owner]
    exact ⟨ends.mark_eq key ▸ unresolved, fresh⟩
  | stop | refuse | giveUp | drop => cases going

/-- A key that is entered leaves one less ahead. -/
theorem card_ahead_enter (prompt : setup.registry.IsPrompt) {fs : List Frame} {text : String}
    (fresh : key ∉ fs.filterMap Frame.owner) (unresolved : s.mark key ≠ .resolved)
    (present : s.flat.get? key = some (.str text)) :
    (ahead ⟨⟨some key, text, 0⟩ :: fs, s.entering key, false⟩).card + 1 ≤
      (ahead ⟨fs, s, false⟩).card := by
  have step : Step setup ⟨fs, s, false⟩ ⟨⟨some key, text, 0⟩ :: fs, s.entering key, false⟩ :=
    .enter fresh unresolved present
  have before : key ∈ ahead ⟨fs, s, false⟩ :=
    mem_ahead.2 ⟨Flat.mem_of_get? present, unresolved, fresh⟩
  have after : key ∉ ahead ⟨⟨some key, text, 0⟩ :: fs, s.entering key, false⟩ :=
    fun mem => (mem_ahead.1 mem).2.2 List.mem_cons_self
  exact Finset.card_lt_card
    ((Finset.ssubset_iff_of_subset (step.ahead_subset prompt rfl)).2 ⟨key, before, after⟩)

theorem left_of_running (fs : List Frame) (s : Session) :
    left setup ⟨fs, s, false⟩ = (fs.map (Frame.left setup)).sum +
      setup.options.limit.toNat * (ahead ⟨fs, s, false⟩).card := rfl

theorem left_of_stopped (fs : List Frame) (s : Session) : left setup ⟨fs, s, true⟩ = 0 := rfl

/-- An event that is no part of a substitution is not counted. -/
theorem Counts.countP_noted (counts : Counts setup count) {event : Event}
    (other : ¬ event.IsSubstitution) (s : Session) :
    (s.noted event).journal.countP count = s.journal.countP count :=
  List.countP_cons_of_neg fun counted => other (counts.only event counted)

theorem Counts.countP_replaced_le (counts : Counts setup count) (s : Session) (text : String)
    (p : Placeholder) (new : String) :
    (replaced setup s text p new).journal.countP count ≤ s.journal.countP count + 1 := by
  have once := counts.once text p new
  change ((Event.replaced text p new :: questions setup text p) ++ s.journal).countP count ≤ _
  rw [List.countP_append]
  omega

theorem Counts.countP_asked_le (counts : Counts setup count) (s : Session) (text : String)
    (p : Placeholder) :
    (asked setup s text p).journal.countP count ≤ s.journal.countP count + 1 := by
  have once := counts.once text p ""
  rw [List.countP_cons] at once
  change (questions setup text p ++ s.journal).countP count ≤ _
  rw [List.countP_append]
  omega

/-- The end of a substitution is paid for by what the text has left. -/
theorem Ends.countP_le (h : Ends setup f s t) (counts : Counts setup count) :
    t.journal.countP count ≤ s.journal.countP count + f.left setup := by
  cases h with
  | clean => exact Nat.le_add_right ..
  | @stalled p new found within =>
    have paid := counts.countP_replaced_le s f.text p new
    rw [counts.countP_noted id]
    unfold Frame.left
    omega

/-- A step is paid for by what is left. -/
theorem Step.countP_add_left_le (prompt : setup.registry.IsPrompt) (h : Step setup m n)
    (counts : Counts setup count) :
    n.session.journal.countP count + left setup n ≤
      m.session.journal.countP count + left setup m := by
  have ahead (going : n.stopped = false) := Nat.mul_le_mul_left setup.options.limit.toNat
    (Finset.card_le_card (h.ahead_subset prompt going))
  cases h with
  | miss free | begin free | resume free => exact absurd prompt free
  | remark remark =>
    dsimp only
    rw [counts.countP_noted remark.not_isSubstitution]
    exact Nat.le_refl _
  | @enter fs s key text fresh unresolved present =>
    have counted : (s.entering key).journal.countP count = s.journal.countP count :=
      counts.countP_noted id _
    have paid := Nat.mul_le_mul_left setup.options.limit.toNat
      (card_ahead_enter prompt fresh unresolved present)
    rw [left_of_running, left_of_running, counted, List.map_cons, List.sum_cons, Frame.left]
    rw [Nat.mul_succ] at paid
    dsimp only
    omega
  | @take fs s key value =>
    have counted : ((s.entering key).settledOn key value).journal.countP count =
        s.journal.countP count :=
      (counts.countP_noted id _).trans (counts.countP_noted id _)
    rw [left_of_running, left_of_running, counted]
    exact Nat.add_le_add_left (Nat.add_le_add_left (ahead rfl) _) _
  | @replace f fs s p new found within =>
    have counted := counts.countP_replaced_le s f.text p new
    have fewer := ahead rfl
    rw [left_of_running, left_of_running, List.map_cons, List.map_cons, List.sum_cons,
      List.sum_cons, Frame.left, Frame.left]
    dsimp only at *
    omega
  | @settle f fs s t key old owner ends =>
    have counted := ends.countP_le counts
    have told : ((t.stored key (.str f.text)).settledOn key (.str f.text)).journal.countP count =
        t.journal.countP count :=
      counts.countP_noted id _
    have fewer := ahead rfl
    rw [left_of_running, left_of_running, List.map_cons, List.sum_cons, told]
    dsimp only at *
    omega
  | deliver owner ends =>
    have counted := ends.countP_le counts
    have fewer := ahead rfl
    rw [left_of_running, left_of_running, List.map_cons, List.sum_cons]
    dsimp only at *
    omega
  | stop => exact Nat.add_le_add_left (Nat.zero_le _) _
  | @refuse f fs s p found within =>
    have counted := counts.countP_asked_le s f.text p
    rw [left_of_running, left_of_stopped, List.map_cons, List.sum_cons, Frame.left]
    dsimp only at *
    omega
  | giveUp owner => exact Nat.add_le_add_right (counts.countP_noted id _).le _
  | drop owner => exact Nat.le_refl _

/-- What a journal counts in the end is paid for by what was left in the beginning. -/
theorem Leads.countP_le (prompt : setup.registry.IsPrompt) (h : Leads setup m n)
    (counts : Counts setup count) :
    n.session.journal.countP count ≤ m.session.journal.countP count + left setup m := by
  have paid : n.session.journal.countP count + left setup n ≤
      m.session.journal.countP count + left setup m :=
    h.keeps (I := fun n => n.session.journal.countP count + left setup n ≤
        m.session.journal.countP count + left setup m)
      (fun step earlier => (step.countP_add_left_le prompt counts).trans earlier) (Nat.le_refl _)
  omega

theorem Leads.tells (prompt : setup.registry.IsPrompt) {earlier : Journal} (h : Leads setup m n)
    (orderly : Orderly m) (tells : Tells earlier m) : Tells earlier n :=
  h.keeps_of_orderly (fun step => step.tells prompt) orderly tells

/-- In the beginning of a call, what is left are the substitutions of one text and of the keys. -/
theorem left_frames_le (setup : Setup) (call : Call) (s : Session) :
    left setup ⟨call.frames, s, false⟩ ≤ setup.options.limit.toNat * (s.flat.size + 1) := by
  have ahead := Nat.mul_le_mul_left setup.options.limit.toNat
    (card_ahead_le ⟨call.frames, s, false⟩)
  have own : (call.frames.map (Frame.left setup)).sum ≤ setup.options.limit.toNat := by
    cases call <;> simp [Call.frames, Frame.left]
  rw [left_of_running, Nat.mul_succ]
  dsimp only at ahead
  omega

theorem counts_isReplacement (setup : Setup) : Counts setup Event.isReplacement where
  only event counted := by
    cases event <;> trivial
  once text p new := by
    unfold questions
    split <;> rfl

theorem counts_command (setup : Setup) : Counts setup fun event => event.command?.isSome where
  only event counted := by
    cases event <;> trivial
  once text p new := by
    unfold questions
    split <;> simp [Event.command?]

end Moment

namespace Session

open ConfigTemplate.Moment

/-- With handlers that reply to a failure in the light of the failure alone, the resolution of a key
goes no deeper than the document has keys. A call appends to the journal, never has more keys
underway than that, and makes no more substitutions than are allowed in as many texts and in one
more. It runs no more commands either. -/
theorem final_within_bounds (setup : Setup) (prompt : setup.registry.IsPrompt) (s : Session)
    (call : Call) (isFor : call.IsFor s) :
    (∀ beyond, unrolledKey setup beyond = resolveKey setup) ∧
      ∃ events, (call.final setup s).journal = events ++ s.journal ∧
        (∀ moment, moment <:+ events → (Journal.underway moment).length ≤ s.flat.size) ∧
        events.countP Event.isReplacement ≤ setup.options.limit.toNat * (s.flat.size + 1) ∧
        (Journal.commands events).length ≤ setup.options.limit.toNat * (s.flat.size + 1) := by
  obtain ⟨stopped, way⟩ := Call.leads setup isFor
  have orderly : Orderly ⟨call.frames, s, false⟩ :=
    orderly_of_keys_eq_nil (Call.filterMap_owner_frames call)
  have begun : Tells s.journal ⟨call.frames, s, false⟩ := by
    unfold Tells Moment.keys
    rw [Call.filterMap_owner_frames]
    exact .start
  obtain ⟨events, journal, _, bounded⟩ := (way.tells prompt orderly begun).exists_events
  have size := Flat.size_eq_of_shape way.shape_eq
  have within {count : Event → Bool} (counts : Counts setup count) :
      events.countP count ≤ setup.options.limit.toNat * (s.flat.size + 1) := by
    have paid := way.countP_le prompt counts
    have most := left_frames_le setup call s
    dsimp only at journal paid
    rw [journal, List.countP_append] at paid
    omega
  refine ⟨unrolledKey_eq_resolveKey prompt.isStraight, events, journal, fun moment suffix => ?_,
    within (counts_isReplacement setup), ?_⟩
  · exact size ▸ bounded moment suffix
  · rw [Journal.commands, List.length_filterMap_eq_countP, List.countP_reverse]
    exact within (counts_command setup)

/-- Two keys that lead to each other, of which the first one is asked for. -/
theorem final_within_bounds_loop :
    let setup : Setup := ⟨.standard, ⟨fun _ _ => .output "1", fun _ => none, false⟩, .standard⟩
    let s := start (Flat.ofList [("a", .str "$(x)$\x7bb\x7d"), ("b", .str "$\x7ba\x7d")])
    setup.registry.IsPrompt ∧ (Call.resolveKey "a").IsFor s ∧
      (∀ beyond, unrolledKey setup beyond = resolveKey setup) ∧
      ∃ events, ((Call.resolveKey "a").final setup s).journal = events ++ s.journal ∧
        (∀ moment, moment <:+ events → (Journal.underway moment).length ≤ 2) ∧
        events.countP Event.isReplacement ≤ 3000 ∧ (Journal.commands events).length ≤ 3000 := by
  intro setup s
  have isFor : (Call.resolveKey "a").IsFor s := by
    rintro key same
    cases same
    decide
  have prompt : setup.registry.IsPrompt := Registry.isPrompt_standard
  exact ⟨prompt, isFor, final_within_bounds setup prompt s (.resolveKey "a") isFor⟩

end Session

end ConfigTemplate
