import ConfigTemplate.Failure
import ConfigTemplate.Flat.Lookup
import ConfigTemplate.Session.Event

/-!
# Sessions

A session works on a flat document in place. It remembers for each key how far its resolution has
come, and it keeps a journal. What a session does is an action: it changes the session and gives a
result or is stopped, and the changes it made before it was stopped remain. The keys that are being
resolved are a trail, in the order in which they were reached; no key is on a trail twice: to reach
it again would be a loop.
-/

namespace ConfigTemplate

/-! ### Trails -/

/-- The keys being resolved, in order of discovery. -/
structure Trail where
  keys : List String
  distinct : keys.Nodup

namespace Trail

/-- Nothing is being resolved. -/
def empty : Trail := ⟨[], List.Pairwise.nil⟩

instance : Inhabited Trail := ⟨empty⟩

/-- Whether a key is being resolved. -/
def contains (trail : Trail) (key : String) : Bool := key ∈ trail.keys

/-- The number of keys being resolved. -/
def size (trail : Trail) : Nat := trail.keys.length

/-- Go on to a key. A key that is being resolved closes a loop. -/
def push (trail : Trail) (key : String) : Except Failure Trail :=
  if h : key ∈ trail.keys then .error (.circular key trail.keys)
  else
    .ok ⟨trail.keys ++ [key],
      List.nodup_append.2
        ⟨trail.distinct, by simp, by simpa using fun a ha (e : a = key) => h (e ▸ ha)⟩⟩

/-- Go back from the last key. -/
def pop? (trail : Trail) : Option (String × Trail) :=
  match trail.keys.getLast? with
  | some key =>
    some (key, ⟨trail.keys.dropLast, trail.distinct.sublist (List.dropLast_sublist trail.keys)⟩)
  | none => none

@[simp] theorem keys_empty : empty.keys = [] := rfl

theorem push_of_mem {trail : Trail} {key : String} (h : key ∈ trail.keys) :
    trail.push key = .error (.circular key trail.keys) := by
  simp [push, h]

theorem keys_of_push {trail deeper : Trail} {key : String} (h : trail.push key = .ok deeper) :
    deeper.keys = trail.keys ++ [key] := by
  unfold push at h
  split at h
  · simp at h
  · simp only [Except.ok.injEq] at h
    rw [← h]

end Trail

/-! ### Sessions -/

/-- How far the resolution of a key has come. -/
inductive Mark where
  | unvisited
  | inProgress
  | resolved
  | failed
  deriving DecidableEq, Repr

/-- The name of a mark. -/
def Mark.name : Mark → String
  | unvisited => "unvisited"
  | inProgress => "in_progress"
  | resolved => "resolved"
  | failed => "failed"

/-- A flat document in the course of its resolution. -/
structure Session where
  flat : Flat
  marks : List (String × Mark)
  journal : Journal

namespace Session

/-- A session that has done nothing yet. -/
def start (flat : Flat) : Session := ⟨flat, [], []⟩

/-- How far the resolution of a key has come. -/
def mark (s : Session) (key : String) : Mark := (Entries.get? key s.marks).getD .unvisited

/-- A session with an event added to its journal. -/
def noted (s : Session) (event : Event) : Session := { s with journal := event :: s.journal }

/-- A session with a key marked. -/
def marked (s : Session) (key : String) (mark : Mark) : Session :=
  { s with marks := Entries.put key mark s.marks }

/-- A session with a value stored. -/
def stored (s : Session) (key : String) (value : Json) : Session :=
  { s with flat := s.flat.put key value }

@[simp] theorem mark_start (flat : Flat) (key : String) : (start flat).mark key = .unvisited := rfl

@[simp] theorem mark_marked_self (s : Session) (key : String) (mark : Mark) :
    (s.marked key mark).mark key = mark := by
  simp [Session.mark, marked]

theorem mark_marked_of_ne (s : Session) {key other : String} (h : key ≠ other) (mark : Mark) :
    (s.marked key mark).mark other = s.mark other := by
  simp [Session.mark, marked, Entries.get?_put_of_ne h]

end Session

/-- A piece of work in a session. -/
abbrev Action := ExceptT Halt (StateM Session)

namespace Action

/-- Add an event to the journal. -/
def note (event : Event) : Action Unit := modify (·.noted event)

/-- Mark a key. -/
def mark (key : String) (mark : Mark) : Action Unit := modify (·.marked key mark)

/-- Store a value. -/
def store (key : String) (value : Json) : Action Unit := modify (·.stored key value)

/-- Stop with a failure. -/
def fail {α : Type} (failure : Failure) : Action α := throw (.failure failure)

/-- Stop with a mishap. -/
def breakOff {α : Type} (mishap : Mishap) : Action α := throw (.mishap mishap)

/-- The result of an action that may be stopped. -/
def attempt {α : Type} (action : Action α) : Action (Except Halt α) := ExceptT.lift action.run

/-- Note a path that was taken out of several. -/
def notePick (key : String) (found : Flat.Pick) : Action Unit :=
  match found.candidates with
  | _ :: _ :: _ => note (.chose key found.candidates)
  | _ => pure ()

end Action

end ConfigTemplate
