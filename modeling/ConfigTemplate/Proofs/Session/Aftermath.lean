import ConfigTemplate.Proofs.Session.Marks

/-!
# What a stop leaves behind

A call that is stopped leaves no value behind that is substituted in part. Every key that it marked
as failed and did not resolve afterwards has the value that it had. Every other key is as it was, or
was resolved on the way and has the value that its resolution gave.

The keys that were being resolved where the stop was raised are marked as failed, one after the
other. They are the only ones, unless a handler attempts a call and goes on where that fails: this
leaves the keys of the call marked as failed too.
-/

namespace ConfigTemplate

/-- The key that an act marks as failed. -/
def Act.failed? : Act → Option String
  | .mark key .failed => some key
  | _ => none

/-- The keys that were marked as failed, the latest first. -/
def Watched.failures (e : Watched) : List String := e.acts.filterMap fun done => done.1.failed?

/-- Whether a key is in a later session as it was, or was resolved in between and has the value that
its resolution gave. -/
inductive Session.Intact (s t : Session) (key : String) : Prop where
  | same (mark : t.mark key = s.mark key) (value : t.flat.get? key = s.flat.get? key)
  | settled {value : Json} {events : List Event} (before : s.mark key ≠ .resolved)
    (mark : t.mark key = .resolved) (present : t.flat.get? key = some value)
    (journal : t.journal = events ++ s.journal) (told : .settled key value ∈ events)

/-- Whether a key that was not resolved is marked as failed in a later session and has the value
that it had. -/
structure Session.GivenUp (s t : Session) (key : String) : Prop where
  before : s.mark key ≠ .resolved
  mark : t.mark key = .failed
  value : t.flat.get? key = s.flat.get? key

namespace Session

variable {s t u : Session} {key : String}

/-- What does not concern a key leaves it intact. -/
theorem Intact.next (h : Intact s t key) (events : List Event) (mark : u.mark key = t.mark key)
    (value : u.flat.get? key = t.flat.get? key) (journal : u.journal = events ++ t.journal) :
    Intact s u key := by
  cases h with
  | same mark' value' => exact .same (mark.trans mark') (value.trans value')
  | @settled old earlier before mark' present journal' told =>
    have told : .settled key old ∈ events ++ earlier := List.mem_append_right _ told
    refine .settled before (mark.trans mark') (value.trans present) ?_ told
    rw [journal, journal', List.append_assoc]

/-- A key that is intact and not resolved is as it was. -/
theorem Intact.unresolved (h : Intact s t key) (unresolved : t.mark key ≠ .resolved) :
    s.mark key ≠ .resolved ∧ t.flat.get? key = s.flat.get? key := by
  cases h with
  | same mark value => exact ⟨mark ▸ unresolved, value⟩
  | settled before mark => exact absurd mark unresolved

/-- What does not concern a key leaves it given up. -/
theorem GivenUp.next (h : GivenUp s t key) (mark : u.mark key = t.mark key)
    (value : u.flat.get? key = t.flat.get? key) : GivenUp s u key :=
  ⟨h.before, mark.trans h.mark, value.trans h.value⟩

end Session

namespace Watched

open Session (Intact GivenUp Settled)

theorem failures_acted {act : Act} (other : act.failed? = none) (e : Watched) :
    (e.acted act).failures = e.failures :=
  List.filterMap_cons_none other

/-- What has become of a key that is not on the stack: it is intact, or it was given up and marked
as failed under watch. -/
inductive Whole (s : Session) (e : Watched) (key : String) : Prop where
  | intact (intact : Intact s e.session key)
  | givenUp (givenUp : GivenUp s e.session key) (mem : key ∈ e.failures)

namespace Whole

variable {s : Session} {e e' : Watched} {key : String}

/-- What does not concern a key leaves it accounted for. -/
theorem next (h : Whole s e key) (events : List Event)
    (mark : e'.session.mark key = e.session.mark key)
    (value : e'.session.flat.get? key = e.session.flat.get? key)
    (journal : e'.session.journal = events ++ e.session.journal)
    (failures : e.failures ⊆ e'.failures) : Whole s e' key := by
  cases h with
  | intact intact => exact .intact (intact.next events mark value journal)
  | givenUp givenUp mem => exact .givenUp (givenUp.next mark value) (failures mem)

/-- A key that is not resolved was not resolved before and has its value. -/
theorem unresolved (h : Whole s e key) (unresolved : e.session.mark key ≠ .resolved) :
    s.mark key ≠ .resolved ∧ e.session.flat.get? key = s.flat.get? key := by
  cases h with
  | intact intact => exact intact.unresolved unresolved
  | givenUp givenUp => exact ⟨givenUp.before, givenUp.value⟩

end Whole

/-- What has become of the keys of a session so far: those that are on the stack have their values,
and all others are accounted for. -/
structure Tally (s : Session) (trail : Trail) (e : Watched) : Prop where
  stack : e.stack = trail.stack
  journal : ∃ events, e.session.journal = events ++ s.journal
  underway : ∀ key ∈ trail.keys,
    s.mark key ≠ .resolved ∧ e.session.flat.get? key = s.flat.get? key
  others : ∀ key, key ∉ trail.keys → Whole s e key

namespace Tally

variable {s : Session} {trail longer : Trail} {e e' : Watched} {key : String} {value : Json}

theorem begun (s : Session) : Tally s .empty (.begun s) where
  stack := Trail.stack_empty.symm
  journal := ⟨[], rfl⟩
  underway key mem := by cases mem
  others key _ := .intact (.same rfl rfl)

theorem noted (h : Tally s trail e) (event : Event) : Tally s trail (e.noted event) where
  stack := h.stack
  journal :=
    have ⟨events, journal⟩ := h.journal
    ⟨event :: events, congrArg (event :: ·) journal⟩
  underway := h.underway
  others key off := (h.others key off).next [event] rfl rfl rfl (List.Subset.refl _)

theorem alarmed (h : Tally s trail e) (alarms : List Alarm) : Tally s trail (e.alarmed alarms) :=
  ⟨h.stack, h.journal, h.underway,
    fun key off => (h.others key off).next [] rfl rfl rfl (List.Subset.refl _)⟩

/-- What begins or is refused fails no key. -/
theorem acted (h : Tally s trail e) {act : Act} (other : act.failed? = none) :
    Tally s trail (e.acted act) := by
  refine ⟨h.stack, h.journal, h.underway, fun key off => ?_⟩
  exact (h.others key off).next [] rfl rfl rfl fun _ mem => failures_acted other e ▸ mem

/-- A key that may be pushed was not resolved before and has its value. -/
theorem fresh (h : Tally s trail e) (pushed : trail.push key = .ok longer)
    (unresolved : e.session.mark key ≠ .resolved) :
    s.mark key ≠ .resolved ∧ e.session.flat.get? key = s.flat.get? key :=
  (h.others key (Trail.not_mem_of_push pushed)).unresolved unresolved

/-- A key that is pushed keeps its value. -/
theorem entering (h : Tally s trail e) (pushed : trail.push key = .ok longer)
    (unresolved : e.session.mark key ≠ .resolved) : Tally s longer (e.entering key longer) := by
  have fresh := h.fresh pushed unresolved
  refine ⟨rfl, ?_, Trail.forall_mem_of_push pushed h.underway fresh, fun other off => ?_⟩
  · obtain ⟨events, journal⟩ := h.journal
    exact ⟨.entered key :: events, congrArg (Event.entered key :: ·) journal⟩
  · rw [Trail.mem_keys_of_push pushed, not_or] at off
    exact (h.others other off.1).next [.entered key]
      (Session.mark_marked_of_ne _ (Ne.symm off.2) _) rfl rfl (List.Subset.refl _)

/-- The last key on the stack keeps its value when it is given up. -/
theorem gaveUpOn (h : Tally s longer e) (pushed : trail.push key = .ok longer) :
    Tally s trail (e.gaveUpOn key trail) := by
  have mem {other : String} : other ∈ longer.keys ↔ other ∈ trail.keys ∨ other = key :=
    Trail.mem_keys_of_push pushed
  refine ⟨rfl, ?_, fun other listed => h.underway other (mem.2 (.inl listed)), fun other off => ?_⟩
  · obtain ⟨events, journal⟩ := h.journal
    exact ⟨.failed key :: events, congrArg (Event.failed key :: ·) journal⟩
  · by_cases same : key = other
    · subst same
      obtain ⟨before, value⟩ := h.underway key (mem.2 (.inr rfl))
      exact .givenUp ⟨before, Session.mark_marked_self .., value⟩ List.mem_cons_self
    · have away : other ∉ longer.keys := fun listed => (mem.1 listed).elim off (Ne.symm same)
      exact (h.others other away).next [.failed key] (Session.mark_marked_of_ne _ same _) rfl rfl
        (List.subset_cons_self ..)

/-- The last key on the stack is resolved. -/
theorem settled (h : Tally s longer e) (pushed : trail.push key = .ok longer)
    (stack : e'.stack = trail.stack) (change : Settled e.session key value e'.session)
    (failures : e'.failures = e.failures)
    (journal : e'.session.journal = .settled key value :: e.session.journal) :
    Tally s trail e' := by
  have mem {other : String} : other ∈ longer.keys ↔ other ∈ trail.keys ∨ other = key :=
    Trail.mem_keys_of_push pushed
  have apart {other : String} (listed : other ∈ trail.keys) : key ≠ other := by
    rintro rfl
    exact Trail.not_mem_of_push pushed listed
  obtain ⟨events, earlier⟩ := h.journal
  have told : e'.session.journal = (.settled key value :: events) ++ s.journal :=
    journal.trans (congrArg (Event.settled key value :: ·) earlier)
  refine ⟨stack, ⟨_, told⟩, fun other listed => ?_, fun other off => ?_⟩
  · obtain ⟨before, same⟩ := h.underway other (mem.2 (.inl listed))
    exact ⟨before, (change.values other (apart listed)).trans same⟩
  · by_cases same : key = other
    · subst same
      have before := (h.underway key (mem.2 (.inr rfl))).1
      exact .intact (.settled before change.mark change.value told List.mem_cons_self)
    · have away : other ∉ longer.keys := fun listed => (mem.1 listed).elim off (Ne.symm same)
      exact (h.others other away).next [.settled key value] (change.marks other same)
        (change.values other same) journal fun _ mem => failures ▸ mem

end Tally

end Watched

namespace Sight

open Session (GivenUp settled_settledOn settled_stored)

variable {setup : Setup} {flat : Flat} {asked : String → Prop} {v w : Sight} {s : Session}

/-- Whether the keys of a stop are on a trail or given up, and those of the trail, together with all
that were marked as failed, are the keys of the stop and those that were marked before it. None was
where no handler attempts a call. -/
structure Fails (setup : Setup) (s : Session) (trail : Trail) (stop : Stop) (e : Watched) :
    Prop where
  givenUp : ∀ key ∈ stop.keys, key ∈ trail.keys ∨ GivenUp s e.session key
  failures : ∃ earlier, trail.keys ++ e.failures = stop.keys ++ earlier ∧
    (setup.registry.IsUnguarded → earlier = [])

/-- Whether the keys of a session are accounted for, and those of a stop with them. Where no handler
attempts a call, none was marked as failed while the work goes on. -/
def Accounts (setup : Setup) (s : Session) (v : Sight) : Prop :=
  ∃ trail, v.watched.Tally s trail ∧
    match v.stop with
    | none => setup.registry.IsUnguarded → v.watched.failures = []
    | some stop => Fails setup s trail stop v.watched

/-- A stop that is passed on remains where it was raised. -/
@[simp] theorem keys_nested (stop : Stop) (owner : Option String) (p : Placeholder) :
    (stop.nested owner p).keys = stop.keys := by
  obtain ⟨halt, keys, frames⟩ := stop
  cases halt <;> rfl

/-- A stop has the keys on the stack where it is raised. -/
theorem Accounts.stopped {fs : List Frame} {e : Watched} (h : Accounts setup s ⟨fs, e, none⟩)
    {stop : Stop} (keys : stop.keys = e.stack.order) : Accounts setup s ⟨fs, e, some stop⟩ := by
  obtain ⟨trail, tally, running⟩ := h
  have keys : stop.keys = trail.keys := by rw [keys, tally.stack, Trail.order_stack]
  refine ⟨trail, tally, fun key mem => .inl (keys ▸ mem), e.failures, ?_, running⟩
  rw [keys]

/-- A stop goes on when the last key on the stack is given up: the key goes from the end of the
trail to the front of those that were marked as failed. -/
theorem Fails.gaveUpOn {trail longer : Trail} {stop : Stop} {e : Watched} {key : String}
    (h : Fails setup s longer stop e) (tally : e.Tally s longer)
    (pushed : trail.push key = .ok longer) :
    Fails setup s trail stop (e.gaveUpOn key trail) := by
  obtain ⟨before, value⟩ := tally.underway key ((Trail.mem_keys_of_push pushed).2 (.inr rfl))
  have own : GivenUp s (e.gaveUpOn key trail).session key :=
    ⟨before, Session.mark_marked_self .., value⟩
  constructor
  · intro other listed
    by_cases same : key = other
    · exact .inr (same ▸ own)
    obtain mem | givenUp := h.givenUp other listed
    · exact .inl (((Trail.mem_keys_of_push pushed).1 mem).resolve_right (Ne.symm same))
    · exact .inr (givenUp.next (Session.mark_marked_of_ne _ same _) rfl)
  · obtain ⟨earlier, together, none⟩ := h.failures
    refine ⟨earlier, ?_, none⟩
    rw [← together, Trail.keys_of_push pushed, List.append_assoc]
    rfl

/-- What begins fails no key. -/
theorem failed?_of_begins {act : Act} (begins : act.Begins) : act.failed? = none := by
  cases act with
  | mark | store | push | pop => exact begins.elim
  | _ => rfl

/-- A step keeps the account. -/
theorem Step.accounts (h : Step setup flat asked v w) (accounts : v.Accounts setup s) :
    w.Accounts setup s := by
  obtain ⟨now, tally, account⟩ := accounts
  have same {trail : Trail} (stack : v.watched.stack = trail.stack) : now = trail :=
    Trail.eq_of_stack (tally.stack.symm.trans stack)
  cases h with
  | stop | refuse => exact Accounts.stopped ⟨now, tally, account⟩ rfl
  | loop stack =>
    refine Accounts.stopped ⟨now, tally, account⟩ ?_
    rw [stack, Trail.order_stack]
  | begin | deliver | drop => exact ⟨now, tally, account⟩
  | @ring fs e stop alarms =>
    refine ⟨now, tally.alarmed alarms, ?_⟩
    cases stop with
    | none => exact account
    | some stop => exact ⟨account.givenUp, account.failures⟩
  | note | replace => exact ⟨now, tally.noted _, account⟩
  | @nest f fs e stop p =>
    refine ⟨now, tally, ?_, ?_⟩
    · rw [keys_nested]
      exact account.givenUp
    · rw [keys_nested]
      exact account.failures
  | resume guarded => exact ⟨now, tally, fun unguarded => absurd unguarded guarded⟩
  | @act fs e act begins =>
    have silent := failed?_of_begins begins
    refine ⟨now, tally.acted silent, fun unguarded => ?_⟩
    exact (Watched.failures_acted silent e).trans (account unguarded)
  | reject => exact ⟨now, tally.acted rfl, account⟩
  | enter stack pushed unresolved =>
    obtain rfl := same stack
    exact ⟨_, tally.entering pushed unresolved, account⟩
  | @take fs e trail longer key value stack pushed unresolved present =>
    obtain rfl := same stack
    have change := settled_settledOn (s := e.session.entering key) present
    exact ⟨_, (tally.entering pushed unresolved).settled pushed rfl change rfl rfl, account⟩
  | @miss fs e trail longer key stack pushed unresolved =>
    obtain rfl := same stack
    have entered := tally.entering pushed unresolved
    have begun : Accounts setup s ⟨fs, e.entering key longer, none⟩ := ⟨_, entered, account⟩
    obtain ⟨on, tally', fails⟩ := begun.stopped
      (rfl : (⟨.mishap (.unknownPath key), longer.keys, fs⟩ : Stop).keys = _)
    obtain rfl : longer = on := Trail.eq_of_stack (entered.stack.symm.trans tally'.stack)
    exact ⟨_, entered.gaveUpOn pushed, fails.gaveUpOn entered pushed⟩
  | @settle f fs e trail longer key old owner stack pushed present =>
    obtain rfl := same stack
    have change := settled_stored present f.text
    exact ⟨_, tally.settled pushed rfl change rfl rfl, account⟩
  | giveUp owner stack pushed =>
    obtain rfl := same stack
    exact ⟨_, tally.gaveUpOn pushed, account.gaveUpOn tally pushed⟩

end Sight

namespace Session

open Watched Watching

/-- A call that is stopped was stopped under watch, and the keys of the session are accounted
for. -/
theorem Call.exists_tally (setup : Setup) (s : Session) (call : Call) {halt : Halt}
    (stopped : (call.action setup).result s = .error halt) :
    ∃ stop e, (call.watching setup).result [] (.begun s) = .error stop ∧
      (call.watching setup).final [] (.begun s) = e ∧ stop.halt = halt ∧
      e.session = call.final setup s ∧ e.session.flat.shape = s.flat.shape ∧
      e.Tally s .empty ∧ Sight.Fails setup s .empty stop e := by
  have mirrors := mirrors_call setup call [] (.begun s) Trail.stack_empty.symm
  obtain ⟨stop, result, same⟩ := mirrors.exists_stop stopped
  have final : ((call.watching setup).final [] (.begun s)).session = call.final setup s := by
    rw [mirrors.session, Call.final_action]
    rfl
  have way := call.leads_watching setup (e := .begun s) rfl
  have shape := way.shape_eq
  rw [result] at way
  have begun : Sight.Accounts setup s ⟨call.frames, .begun s, none⟩ :=
    ⟨.empty, .begun s, fun _ => rfl⟩
  obtain ⟨trail, tally, fails⟩ := way.keeps (fun step => step.accounts) begun
  obtain rfl : trail = .empty := Trail.eq_of_stack (tally.stack.symm.trans mirrors.stack)
  exact ⟨stop, _, result, rfl, same, final, shape, tally, fails⟩

end Session

end ConfigTemplate
