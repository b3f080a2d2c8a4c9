import ConfigTemplate.Proofs.Session.Conduct
import ConfigTemplate.Proofs.Session.References
import Mathlib.Data.List.Chain

/-!
# The stack and the marks

The keys that are being resolved are known three times over: by the order of the stack, by its set,
and by the marks. They agree wherever something is begun, and nothing is on the stack between two
calls. Since only keys on the stack change their values or are marked as resolved or failed, what
was resolved once stays as it is.
-/

namespace ConfigTemplate

/-- Whether exactly the keys on the stack are marked as being resolved. -/
def Scene.Agrees (scene : Scene) : Prop :=
  ∀ key, scene.session.mark key = .inProgress ↔ key ∈ scene.stack.order

/-- Whether an act was done with a coherent stack, with which the marks agree if something was
begun. -/
def Act.Kept (done : Act × Scene) : Prop :=
  done.2.stack.Coherent ∧ (done.1.Begins → done.2.Agrees)

namespace Watched

/-- Whether the keys of a trail are on the stack and marked as being resolved, and stack and marks
were kept up at every act. -/
structure Kept (trail : Trail) (e : Watched) : Prop where
  stack : e.stack = trail.stack
  mark_iff : ∀ key, e.session.mark key = .inProgress ↔ key ∈ trail.keys
  recorded : ∀ done ∈ e.acts, Act.Kept done

namespace Kept

variable {trail longer : Trail} {e : Watched} {key : String}

theorem begun {s : Session} (rest : ∀ key, s.mark key ≠ .inProgress) :
    Kept .empty (.begun s) where
  stack := Trail.stack_empty.symm
  mark_iff key := by simp [Watched.begun, rest key]
  recorded done mem := by cases mem

theorem coherent (h : Kept trail e) : e.stack.Coherent := h.stack ▸ trail.coherent_stack

theorem noted (h : Kept trail e) (event : Event) : Kept trail (e.noted event) :=
  ⟨h.stack, h.mark_iff, h.recorded⟩

/-- Stack and marks agree as long as nothing changes. -/
theorem acted (h : Kept trail e) (act : Act) : Kept trail (e.acted act) where
  stack := h.stack
  mark_iff := h.mark_iff
  recorded := by
    refine List.forall_mem_cons.2 ⟨⟨h.coherent, fun _ key => ?_⟩, h.recorded⟩
    dsimp only
    rw [h.mark_iff key, h.stack, Trail.order_stack]

theorem alarmed (h : Kept trail e) (alarms : List Alarm) : Kept trail (e.alarmed alarms) :=
  ⟨h.stack, h.mark_iff, h.recorded⟩

theorem stored (h : Kept trail e) (key : String) (value : Json) : Kept trail (e.stored key value) :=
  have acted := h.acted (.store key value)
  ⟨acted.stack, acted.mark_iff, acted.recorded⟩

/-- The last key on the stack is marked as being resolved. -/
theorem mark_last (h : Kept longer e) (pushed : trail.push key = .ok longer) :
    e.session.mark key = .inProgress :=
  (h.mark_iff key).2 ((Trail.mem_keys_of_push pushed).2 (.inr rfl))

/-- A key that is pushed is marked as being resolved. -/
theorem entering (h : Kept trail e) (pushed : trail.push key = .ok longer) :
    Kept longer (e.entering key longer) where
  stack := rfl
  mark_iff other := by
    change (e.session.marked key .inProgress).mark other = _ ↔ _
    rw [Trail.mem_keys_of_push pushed]
    by_cases same : key = other
    · subst same
      simp
    · rw [Session.mark_marked_of_ne _ same, h.mark_iff other, or_iff_left (Ne.symm same)]
  recorded := by
    refine List.forall_mem_cons.2 ⟨⟨longer.coherent_stack, fun begins => begins.elim⟩, ?_⟩
    exact List.forall_mem_cons.2 ⟨⟨h.coherent, fun begins => begins.elim⟩, h.recorded⟩

/-- The other keys on a stack remain marked when the last one is popped and marked otherwise. -/
theorem mark_iff_of_marked (h : Kept longer e) (pushed : trail.push key = .ok longer) {mark : Mark}
    (other : mark ≠ .inProgress) (key' : String) :
    (e.session.marked key mark).mark key' = .inProgress ↔ key' ∈ trail.keys := by
  by_cases same : key = key'
  · subst same
    rw [Session.mark_marked_self]
    exact iff_of_false other (Trail.not_mem_of_push pushed)
  · rw [Session.mark_marked_of_ne _ same, h.mark_iff key', Trail.mem_keys_of_push pushed,
      or_iff_left (Ne.symm same)]

/-- A key that is given up is marked while it is on the stack still. -/
theorem gaveUpOn (h : Kept longer e) (pushed : trail.push key = .ok longer) :
    Kept trail (e.gaveUpOn key trail) where
  stack := rfl
  mark_iff := h.mark_iff_of_marked pushed (by decide)
  recorded := by
    refine List.forall_mem_cons.2 ⟨⟨h.coherent, fun begins => begins.elim⟩, ?_⟩
    exact List.forall_mem_cons.2 ⟨⟨h.coherent, fun begins => begins.elim⟩, h.recorded⟩

/-- A key that is settled is marked when it is off the stack. -/
theorem settledOn (h : Kept longer e) (pushed : trail.push key = .ok longer) (value : Json) :
    Kept trail (e.settledOn key value trail) where
  stack := rfl
  mark_iff := h.mark_iff_of_marked pushed (by decide)
  recorded := by
    refine List.forall_mem_cons.2 ⟨⟨trail.coherent_stack, fun begins => begins.elim⟩, ?_⟩
    exact List.forall_mem_cons.2 ⟨⟨h.coherent, fun begins => begins.elim⟩, h.recorded⟩

end Kept

end Watched

namespace Sight

variable {setup : Setup} {flat : Flat} {asked : String → Prop} {v w : Sight}

/-- Whether stack and marks are kept up. -/
def Kept (v : Sight) : Prop := ∃ trail, v.watched.Kept trail

/-- A step keeps stack and marks up. -/
theorem Step.kept (h : Step setup flat asked v w) (kept : v.Kept) : w.Kept := by
  obtain ⟨now, kept⟩ := kept
  have same {trail : Trail} (stack : v.watched.stack = trail.stack) : now = trail :=
    Trail.eq_of_stack (kept.stack.symm.trans stack)
  cases h with
  | note | replace => exact ⟨now, kept.noted _⟩
  | act | reject => exact ⟨now, kept.acted _⟩
  | ring => exact ⟨now, kept.alarmed _⟩
  | stop | refuse | loop | nest | begin | deliver | drop | resume => exact ⟨now, kept⟩
  | enter stack pushed =>
    obtain rfl := same stack
    exact ⟨_, kept.entering pushed⟩
  | take stack pushed =>
    obtain rfl := same stack
    exact ⟨_, (kept.entering pushed).settledOn pushed _⟩
  | miss stack pushed =>
    obtain rfl := same stack
    exact ⟨_, (kept.entering pushed).gaveUpOn pushed⟩
  | settle owner stack pushed =>
    obtain rfl := same stack
    exact ⟨_, (kept.stored _ _).settledOn pushed _⟩
  | giveUp owner stack pushed =>
    obtain rfl := same stack
    exact ⟨_, kept.gaveUpOn pushed⟩

theorem Leads.kept (h : Leads setup flat asked v w) (kept : v.Kept) : w.Kept :=
  h.keeps (fun step => step.kept) kept

end Sight

namespace Watched

open Sight Watching
open Session (Call)

variable {setup : Setup} {e : Watched}

/-- After a call nothing is on the stack. -/
theorem Kept.final (h : Kept .empty e) (setup : Setup) (call : Call) :
    Kept .empty ((call.watching setup).final [] e) := by
  have way := call.leads_watching setup (h.stack.trans Trail.stack_empty)
  obtain ⟨trail, kept⟩ := way.kept ⟨.empty, h⟩
  have stack := (mirrors_call setup call [] e h.stack).stack
  obtain rfl := Trail.eq_of_stack (kept.stack.symm.trans stack)
  exact kept

theorem Kept.after (h : Kept .empty e) (setup : Setup) (calls : List Call) :
    Kept .empty (e.after setup calls) := by
  induction calls generalizing e with
  | nil => exact h
  | cons call rest ih => exact ih (h.final setup call)

end Watched

namespace Session

open Watched

/-- At every act of a session, whatever it is used for, the stack holds no key twice and its set is
that of its keys. Whenever a lookup, the resolution of a key, a handler or a call that it makes, a
command or the reading of a variable begins, exactly the keys on the stack are marked as being
resolved. After the last call, whether it was stopped or not, nothing is on the stack and no key is
marked so. -/
theorem stack_kept_after (setup : Setup) (flat : Flat) (calls : List Call) :
    let e := Watched.after setup calls (.begun (start flat))
    e.session = after setup calls (start flat) ∧
      (∀ act scene, (act, scene) ∈ e.acts → scene.stack.Coherent ∧
        (act.Begins → ∀ key, scene.session.mark key = .inProgress ↔ key ∈ scene.stack.order)) ∧
      e.stack = .empty ∧ ∀ key, e.session.mark key ≠ .inProgress := by
  intro e
  have begun : Kept .empty (.begun (start flat)) := .begun (by simp)
  have kept : Kept .empty e := begun.after setup calls
  have same : e.session = after setup calls (start flat) ∧ e.stack = .empty :=
    session_after calls rfl
  refine ⟨same.1, fun act scene mem => kept.recorded _ mem, same.2, fun key underway => ?_⟩
  cases (kept.mark_iff key).1 underway

end Session

/-! ### What was resolved once -/

/-- How the mark of a key may change. -/
inductive Mark.Next : Mark → Mark → Prop where
  | begin : Next .unvisited .inProgress
  | again : Next .failed .inProgress
  | finish : Next .inProgress .resolved
  | fail : Next .inProgress .failed

/-- A key that is not resolved or being resolved may begin to be. -/
theorem Mark.next_inProgress {mark : Mark} (unresolved : mark ≠ .resolved)
    (idle : mark ≠ .inProgress) : Next mark .inProgress := by
  cases mark with
  | unvisited => exact .begin
  | failed => exact .again
  | inProgress => exact absurd rfl idle
  | resolved => exact absurd rfl unresolved

namespace Session

/-- Whether an act may lead from a session to another: marks change as they may, and only a key that
is being resolved changes its value. -/
structure Moves (s t : Session) : Prop where
  marks : ∀ key, t.mark key = s.mark key ∨ Mark.Next (s.mark key) (t.mark key)
  values : ∀ key, t.flat.get? key = s.flat.get? key ∨ s.mark key = .inProgress

variable {s t : Session} {key : String}

theorem Moves.refl (s : Session) : Moves s s := ⟨fun _ => .inl rfl, fun _ => .inl rfl⟩

theorem Moves.marked {mark : Mark} (next : Mark.Next (s.mark key) mark) :
    Moves s (s.marked key mark) where
  marks other := by
    by_cases same : key = other
    · subst same
      rw [mark_marked_self]
      exact .inr next
    · exact .inl (mark_marked_of_ne s same mark)
  values _ := .inl rfl

theorem Moves.stored (underway : s.mark key = .inProgress) (value : Json) :
    Moves s (s.stored key value) where
  marks _ := .inl rfl
  values other := by
    by_cases same : key = other
    · subst same
      exact .inr underway
    · exact .inl (Flat.get?_put_of_ne _ same _)

/-- What is resolved stays so, with its value. -/
theorem Moves.extends (h : Moves s t) : Extends s t := by
  intro key resolved
  constructor
  · obtain same | next := h.marks key
    · exact same.trans resolved
    · rw [resolved] at next
      cases next
  · obtain same | underway := h.values key
    · exact same
    · cases resolved.symm.trans underway

end Session

namespace Watched

open Session (Moves)

/-- The states that a session was in, the latest first: the present one and those in which something
was done. -/
def sessions (e : Watched) : List Session := e.session :: e.acts.map fun done => done.2.session

/-- Whether each act so far led from one state to the next as it may, beginning with a document of
which no key was visited, and resolved keys had values all the time. -/
structure Remembers (flat : Flat) (e : Watched) : Prop where
  moves : e.sessions.IsChain fun later earlier => Moves earlier later
  origin : ∀ s ∈ e.sessions.getLast?, s.flat = flat ∧ ∀ key, s.mark key = .unvisited
  present : ∀ s ∈ e.sessions, ∀ key, s.mark key = .resolved → key ∈ s.flat

namespace Remembers

variable {flat : Flat} {e e' : Watched} {key : String}

theorem begun (flat : Flat) : Remembers flat (.begun (.start flat)) where
  moves := .singleton _
  origin s last := by
    obtain rfl := Option.mem_some.1 last
    exact ⟨rfl, fun key => rfl⟩
  present s mem key resolved := by
    obtain rfl := List.mem_singleton.1 mem
    cases resolved

theorem noted (h : Remembers flat e) (event : Event) : Remembers flat (e.noted event) := by
  -- An event is no act: it takes the place of the present state and lengthens no chain.
  obtain ⟨moves, origin, present⟩ := h
  unfold sessions at moves origin present
  refine ⟨moves.imp_head fun moves => ⟨moves.marks, moves.values⟩, ?_, ?_⟩
  · change ∀ s ∈ (e.session.noted event :: e.acts.map fun done => done.2.session).getLast?, _
    cases acts : e.acts with
    | nil =>
      rw [acts] at origin
      intro s last
      obtain rfl := Option.mem_some.1 last
      exact origin e.session rfl
    | cons done rest =>
      rw [acts] at origin
      exact origin
  · change ∀ s ∈ e.session.noted event :: e.acts.map fun done => done.2.session, _
    rw [List.forall_mem_cons] at present ⊢
    exact present

theorem alarmed (h : Remembers flat e) (alarms : List Alarm) : Remembers flat (e.alarmed alarms) :=
  ⟨h.moves, h.origin, h.present⟩

/-- One more act. -/
theorem next (h : Remembers flat e) {act : Act} (acts : e'.acts = (act, e.toScene) :: e.acts)
    (moves : Moves e.session e'.session)
    (present : ∀ key, e'.session.mark key = .resolved → key ∈ e'.session.flat) :
    Remembers flat e' := by
  have sessions : e'.sessions = e'.session :: e.sessions := by
    unfold Watched.sessions
    rw [acts, List.map_cons]
  constructor
  · rw [sessions]
    exact List.isChain_cons_cons.2 ⟨moves, h.moves⟩
  · rw [sessions]
    exact h.origin
  · rw [sessions]
    exact List.forall_mem_cons.2 ⟨present, h.present⟩

theorem mem_of_resolved (h : Remembers flat e) (resolved : e.session.mark key = .resolved) :
    key ∈ e.session.flat :=
  h.present e.session List.mem_cons_self key resolved

theorem acted (h : Remembers flat e) (act : Act) : Remembers flat (e.acted act) :=
  h.next rfl (.refl _) fun _ => h.mem_of_resolved

theorem stacked (h : Remembers flat e) (act : Act) (stack : Stack) :
    Remembers flat (e.stacked act stack) :=
  h.next rfl (.refl _) fun _ => h.mem_of_resolved

theorem marked (h : Remembers flat e) {mark : Mark} (next : Mark.Next (e.session.mark key) mark)
    (present : mark = .resolved → key ∈ e.session.flat) : Remembers flat (e.marked key mark) := by
  refine h.next rfl (.marked next) fun other resolved => ?_
  change (e.session.marked key mark).mark other = .resolved at resolved
  by_cases same : key = other
  · subst same
    rw [Session.mark_marked_self] at resolved
    exact present resolved
  · rw [Session.mark_marked_of_ne _ same] at resolved
    exact h.mem_of_resolved resolved

theorem stored (h : Remembers flat e) (underway : e.session.mark key = .inProgress) (value : Json) :
    Remembers flat (e.stored key value) := by
  refine h.next rfl (.stored underway value) fun other resolved => ?_
  have apart : key ≠ other := by
    rintro rfl
    cases underway.symm.trans resolved
  obtain ⟨old, present⟩ := Flat.exists_get? (h.mem_of_resolved resolved)
  exact Flat.mem_of_get? ((Flat.get?_put_of_ne _ apart value).trans present)

theorem entering (h : Remembers flat e) (unresolved : e.session.mark key ≠ .resolved)
    (idle : e.session.mark key ≠ .inProgress) (longer : Trail) :
    Remembers flat (e.entering key longer) :=
  have next : Mark.Next (e.session.mark key) .inProgress := Mark.next_inProgress unresolved idle
  ((h.stacked (.push key) longer.stack).marked next fun resolved => by cases resolved).noted _

theorem gaveUpOn (h : Remembers flat e) (underway : e.session.mark key = .inProgress)
    (trail : Trail) : Remembers flat (e.gaveUpOn key trail) := by
  have next : Mark.Next (e.session.mark key) .failed := underway ▸ .fail
  exact ((h.marked next fun resolved => by cases resolved).stacked .pop trail.stack).noted _

theorem settledOn (h : Remembers flat e) (underway : e.session.mark key = .inProgress)
    (present : key ∈ e.session.flat) (value : Json) (trail : Trail) :
    Remembers flat (e.settledOn key value trail) := by
  have next : Mark.Next (e.session.mark key) .resolved := underway ▸ .finish
  exact ((h.stacked .pop trail.stack).marked next fun _ => present).noted _

end Remembers

end Watched

/-- Whether an event tells that a key was resolved. -/
def Event.settles (key : String) : Event → Bool
  | .settled other _ => other = key
  | _ => false

theorem Event.IsQuiet.settles_eq {event : Event} (h : event.IsQuiet) (key : String) :
    event.settles key = false := by
  cases event <;> first | rfl | exact h.elim

namespace Session

/-- Whether the journal tells of no key twice that it was resolved, and of none that is not
resolved. -/
def SettledOnce (s : Session) : Prop :=
  ∀ key, s.journal.countP (Event.settles key) ≤ if s.mark key = .resolved then 1 else 0

namespace SettledOnce

variable {s : Session} {key : String}

theorem start (flat : Flat) : SettledOnce (start flat) := fun _ => Nat.zero_le _

theorem noted (h : SettledOnce s) {event : Event} (other : ∀ key, event.settles key = false) :
    SettledOnce (s.noted event) := by
  intro key
  change (event :: s.journal).countP (Event.settles key) ≤ _
  rw [List.countP_cons_of_neg (by simp [other key])]
  exact h key

/-- A key that is not resolved was never settled. -/
theorem eq_zero (h : SettledOnce s) (unresolved : s.mark key ≠ .resolved) :
    s.journal.countP (Event.settles key) = 0 := by
  have most := h key
  rw [if_neg unresolved] at most
  exact Nat.le_zero.1 most

theorem marked (h : SettledOnce s) (unresolved : s.mark key ≠ .resolved) (mark : Mark) :
    SettledOnce (s.marked key mark) := by
  intro other
  by_cases same : key = other
  · subst same
    change s.journal.countP (Event.settles key) ≤ _
    rw [h.eq_zero unresolved]
    exact Nat.zero_le _
  · rw [mark_marked_of_ne s same]
    exact h other

theorem entering (h : SettledOnce s) (unresolved : s.mark key ≠ .resolved) :
    SettledOnce (s.entering key) :=
  (h.marked unresolved .inProgress).noted fun _ => rfl

theorem gaveUpOn (h : SettledOnce s) (unresolved : s.mark key ≠ .resolved) :
    SettledOnce (s.gaveUpOn key) :=
  (h.marked unresolved .failed).noted fun _ => rfl

theorem settledOn (h : SettledOnce s) (unresolved : s.mark key ≠ .resolved) (value : Json) :
    SettledOnce (s.settledOn key value) := by
  intro other
  change (Event.settled key value :: s.journal).countP (Event.settles other) ≤
    if (s.marked key .resolved).mark other = .resolved then 1 else 0
  by_cases same : key = other
  · subst same
    rw [mark_marked_self, if_pos rfl, List.countP_cons_of_pos (by simp [Event.settles]),
      h.eq_zero unresolved]
  · rw [mark_marked_of_ne s same, List.countP_cons_of_neg (by simp [Event.settles, same])]
    exact h other

end SettledOnce

end Session

namespace Sight

open Session (SettledOnce)

variable {setup : Setup} {flat : Flat} {asked : String → Prop} {v w : Sight}

/-- A key that was not marked as resolved remains so while it is entered. -/
theorem unresolved_of_entering {s : Session} {key : String} :
    (s.entering key).mark key ≠ .resolved := by
  change (s.marked key .inProgress).mark key ≠ .resolved
  rw [Session.mark_marked_self]
  decide

/-- The innermost key on the stack is marked as being resolved. -/
theorem Kept.mark_last {v : Sight} (h : v.Kept) {trail longer : Trail} {key : String}
    (stack : v.watched.stack = longer.stack) (pushed : trail.push key = .ok longer) :
    v.watched.session.mark key = .inProgress := by
  obtain ⟨now, kept⟩ := h
  obtain rfl := Trail.eq_of_stack (stack.symm.trans kept.stack)
  exact kept.mark_last pushed

/-- A key that may be pushed is not marked as being resolved. -/
theorem Kept.idle {v : Sight} (h : v.Kept) {trail longer : Trail} {key : String}
    (stack : v.watched.stack = trail.stack) (pushed : trail.push key = .ok longer) :
    v.watched.session.mark key ≠ .inProgress := by
  obtain ⟨now, kept⟩ := h
  obtain rfl := Trail.eq_of_stack (stack.symm.trans kept.stack)
  exact fun underway => Trail.not_mem_of_push pushed ((kept.mark_iff key).1 underway)

/-- A step changes marks and values as it may. -/
theorem Step.remembers {original : Flat} (h : Step setup flat asked v w) (kept : v.Kept)
    (remembers : v.watched.Remembers original) : w.watched.Remembers original := by
  cases h with
  | note | replace => exact remembers.noted _
  | act | reject => exact remembers.acted _
  | ring => exact remembers.alarmed _
  | stop | refuse | loop | nest | begin | deliver | drop | resume => exact remembers
  | enter stack pushed unresolved =>
    exact remembers.entering unresolved (kept.idle stack pushed) _
  | @take fs e trail longer key value stack pushed unresolved present =>
    have entered := remembers.entering unresolved (kept.idle stack pushed) longer
    exact entered.settledOn (Session.mark_marked_self ..) (Flat.mem_of_get? present) _ _
  | @miss fs e trail longer key stack pushed unresolved =>
    have entered := remembers.entering unresolved (kept.idle stack pushed) longer
    exact entered.gaveUpOn (Session.mark_marked_self ..) _
  | @settle f fs e trail longer key old owner stack pushed =>
    have underway := kept.mark_last stack pushed
    have stored := remembers.stored underway (.str f.text)
    exact stored.settledOn underway (Flat.mem_of_get? (Flat.get?_put_self ..)) _ _
  | giveUp owner stack pushed => exact remembers.gaveUpOn (kept.mark_last stack pushed) _

/-- A step settles no key twice. -/
theorem Step.settledOnce (h : Step setup flat asked v w) (kept : v.Kept)
    (once : v.watched.session.SettledOnce) : w.watched.session.SettledOnce := by
  have last {trail longer : Trail} {key : String} (stack : v.watched.stack = longer.stack)
      (pushed : trail.push key = .ok longer) : v.watched.session.mark key ≠ .resolved := by
    rw [kept.mark_last stack pushed]
    decide
  cases h with
  | note quiet => exact once.noted quiet.settles_eq
  | replace => exact once.noted fun _ => rfl
  | act | ring | reject | stop | refuse | loop | nest | begin | deliver | drop | resume =>
    exact once
  | enter stack pushed unresolved => exact once.entering unresolved
  | take stack pushed unresolved =>
    exact (once.entering unresolved).settledOn unresolved_of_entering _
  | miss stack pushed unresolved =>
    exact (once.entering unresolved).gaveUpOn unresolved_of_entering
  | @settle f fs e trail longer key old owner stack pushed =>
    have stored : (e.session.stored key (.str f.text)).SettledOnce := once
    exact stored.settledOn (last stack pushed) _
  | giveUp owner stack pushed => exact once.gaveUpOn (last stack pushed)

end Sight

namespace Watched

open Sight
open Session (Call SettledOnce)

variable {setup : Setup} {e : Watched}

/-- What every step keeps of a session, with stack and marks kept up, is kept by all calls. -/
theorem after_keeps {I : Watched → Prop}
    (step : ∀ {flat asked v w}, Sight.Step setup flat asked v w → v.Kept → I v.watched →
      I w.watched)
    (kept : Kept .empty e) (holds : I e) (calls : List Call) : I (e.after setup calls) := by
  induction calls generalizing e with
  | nil => exact holds
  | cons call rest ih =>
    have way := call.leads_watching setup (kept.stack.trans Trail.stack_empty)
    have called := way.keeps_of (I := fun v => I v.watched) (fun next => next.kept) step
      ⟨.empty, kept⟩ holds
    exact ih (kept.final setup call) called

end Watched

namespace Session

open Watched

/-- A resolved key gives the value that it has, wherever it is asked for, and nothing changes. -/
theorem resolveOn_of_resolved {s : Session} {key : String} {value : Json} (setup : Setup)
    (resolved : s.mark key = .resolved) (present : s.flat.get? key = some value) (room : Nat)
    (trail : Trail) :
    (resolveOn setup room trail key).result s = .ok value ∧
      (resolveOn setup room trail key).final s = s := by
  obtain ⟨deeper, step, _⟩ := exists_deeper setup room
  rw [step]
  exact resolveStep_of_resolved setup deeper trail resolved present

/-- Whatever a session is used for, it begins with the document and no visited key, and each act
leads from one of its states to the next in such a way that a key begins to be resolved only if it
is unvisited or has failed, and is marked as resolved or failed, or changes its value, only while it
is being resolved. So a resolved key stays resolved with its value in all later states. In each of
them it gives this value wherever it is asked for, and nothing changes: no command is run and no
variable is read. No key is settled twice. -/
theorem memory_after (setup : Setup) (flat : Flat) (calls : List Call) :
    let e := Watched.after setup calls (.begun (start flat))
    e.session = after setup calls (start flat) ∧
      (∀ s ∈ e.sessions.getLast?, s.flat = flat ∧ ∀ key, s.mark key = .unvisited) ∧
      e.sessions.IsChain (fun later earlier => Moves earlier later) ∧
      e.sessions.Pairwise (fun later earlier => Extends earlier later) ∧
      (∀ s ∈ e.sessions, ∀ key, s.mark key = .resolved → ∃ value, s.flat.get? key = some value ∧
        ∀ room trail, (resolveOn setup room trail key).result s = .ok value ∧
          (resolveOn setup room trail key).final s = s) ∧
      ∀ key, (after setup calls (start flat)).journal.countP (Event.settles key) ≤ 1 := by
  intro e
  have begun : Kept .empty (.begun (start flat)) := .begun (by simp)
  have remembers : Remembers flat e :=
    after_keeps (fun step => step.remembers) begun (.begun flat) calls
  have once : SettledOnce e.session :=
    after_keeps (I := fun e => e.session.SettledOnce) (fun step => step.settledOnce) begun
      (.start flat) calls
  have same : e.session = after setup calls (start flat) := (session_after calls rfl).1
  have transitive : Trans (fun later earlier => Extends earlier later)
      (fun later earlier => Extends earlier later) (fun later earlier => Extends earlier later) :=
    ⟨fun second first => first.trans second⟩
  refine ⟨same, remembers.origin, remembers.moves, ?_, fun s mem key resolved => ?_, fun key => ?_⟩
  · exact (remembers.moves.imp fun later earlier moves => moves.extends).pairwise
  · obtain ⟨value, present⟩ := Flat.exists_get? (remembers.present s mem key resolved)
    exact ⟨value, present, resolveOn_of_resolved setup resolved present⟩
  · rw [← same]
    refine (once key).trans ?_
    split
    · exact le_rfl
    · exact Nat.zero_le _

end Session

end ConfigTemplate
