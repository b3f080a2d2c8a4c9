import ConfigTemplate.Flat.Basic
import ConfigTemplate.Session.Basic
import Mathlib.Data.Finset.Basic
import Mathlib.Data.Finset.Dedup
import Mathlib.Data.List.Perm.Subperm

/-!
# Going on along a trail

A key can be pushed on a trail exactly when it is not on it. A trail of keys of a flat document fits
a room when there are as many places in the room as keys of the document that are not on it; each
push of a key of the document takes up one place.

A stack keeps the keys of a trail twice: as a list, in the order in which they were reached, and as
a set, which is asked whether a key is among them. A push and a pop change both, and lead from the
stack of a trail to that of another.
-/

namespace ConfigTemplate.Trail

variable {trail longer : Trail} {key : String} {flat : Flat} {room : Nat}

/-- A key that cannot be pushed is on the trail, and the failure reports the loop. -/
theorem mem_of_push_eq_error {failure : Failure} (h : trail.push key = .error failure) :
    key ∈ trail.keys ∧ failure = .circular key trail.keys := by
  unfold push at h
  split at h
  next mem => exact ⟨mem, (Except.error.inj h).symm⟩
  · cases h

theorem not_mem_of_push (h : trail.push key = .ok longer) : key ∉ trail.keys := by
  intro mem
  rw [push_of_mem mem] at h
  cases h

theorem exists_push (h : key ∉ trail.keys) : ∃ longer, trail.push key = .ok longer := by
  unfold push
  rw [dif_neg h]
  exact ⟨_, rfl⟩

theorem mem_keys_of_push (h : trail.push key = .ok longer) {other : String} :
    other ∈ longer.keys ↔ other ∈ trail.keys ∨ other = key := by
  rw [keys_of_push h, List.mem_append, List.mem_singleton]

/-- What holds of the keys of a trail and of a key that is pushed holds along the longer trail. -/
theorem forall_mem_of_push {P : String → Prop} (h : trail.push key = .ok longer)
    (earlier : ∀ other ∈ trail.keys, P other) (last : P key) : ∀ other ∈ longer.keys, P other := by
  intro other mem
  obtain before | rfl := (mem_keys_of_push h).1 mem
  · exact earlier other before
  · exact last

/-- Whether a trail leads through keys of a flat document and there is room for the rest of them. -/
structure Fits (flat : Flat) (trail : Trail) (room : Nat) : Prop where
  mem : ∀ key ∈ trail.keys, key ∈ flat
  size : flat.size ≤ trail.keys.length + room

theorem fits_empty {flat : Flat} (enough : flat.size ≤ room) : empty.Fits flat room :=
  ⟨by simp, by simpa using enough⟩

/-- A key of the document that is not on the trail takes up room. -/
theorem Fits.push (fits : trail.Fits flat room) (pushed : trail.push key = .ok longer)
    (mem : key ∈ flat) : ∃ less, room = less + 1 ∧ longer.Fits flat less := by
  have inside : ∀ k ∈ longer.keys, k ∈ flat := forall_mem_of_push pushed fits.mem mem
  have bound : longer.keys.length ≤ flat.keys.length :=
    (List.Nodup.subperm longer.distinct fun k hk => inside k hk).length_le
  have length : flat.keys.length = flat.size := by simp [Flat.keys, Flat.size, Entries.keys]
  have size := fits.size
  have keys := keys_of_push pushed
  rw [keys, List.length_append, List.length_singleton] at bound
  refine ⟨room - 1, by omega, inside, ?_⟩
  rw [keys, List.length_append, List.length_singleton]
  omega

end ConfigTemplate.Trail

namespace ConfigTemplate

/-! ### Stacks -/

/-- The keys being resolved, in order of discovery, and the set of them. -/
structure Stack where
  order : List String
  active : Finset String

namespace Stack

/-- Nothing is being resolved. -/
def empty : Stack := ⟨[], ∅⟩

/-- Go on to a key. A key that is being resolved closes a loop. -/
def push (stack : Stack) (key : String) : Except Failure Stack :=
  if key ∈ stack.active then .error (.circular key stack.order)
  else .ok ⟨stack.order ++ [key], insert key stack.active⟩

/-- Go back from the last key. -/
def pop (stack : Stack) : Except Mishap Stack :=
  match stack.order.getLast? with
  | some key => .ok ⟨stack.order.dropLast, stack.active.erase key⟩
  | none => .error .emptyTrail

/-- Whether no key is on a stack twice and the set of a stack is that of its keys. -/
structure Coherent (stack : Stack) : Prop where
  distinct : stack.order.Nodup
  mem_active : ∀ key, key ∈ stack.active ↔ key ∈ stack.order

end Stack

namespace Trail

/-- The stack of the keys of a trail. -/
def stack (trail : Trail) : Stack := ⟨trail.keys, trail.keys.toFinset⟩

@[simp] theorem order_stack (trail : Trail) : trail.stack.order = trail.keys := rfl

@[simp] theorem mem_active_stack {trail : Trail} {key : String} :
    key ∈ trail.stack.active ↔ key ∈ trail.keys :=
  List.mem_toFinset

theorem coherent_stack (trail : Trail) : trail.stack.Coherent :=
  ⟨trail.distinct, fun _ => mem_active_stack⟩

theorem stack_empty : empty.stack = .empty := by
  simp [stack, empty, Stack.empty]

/-- A stack with the keys of a trail is the stack of the trail. -/
theorem stack_eq {trail : Trail} {order : List String} {active : Finset String}
    (keys : order = trail.keys) (mem : ∀ key, key ∈ active ↔ key ∈ trail.keys) :
    (⟨order, active⟩ : Stack) = trail.stack := by
  subst keys
  rw [stack, Stack.mk.injEq]
  refine ⟨rfl, Finset.ext fun key => ?_⟩
  rw [mem, List.mem_toFinset]

/-- Stacks of the same keys are stacks of the same trail. -/
theorem eq_of_stack {a b : Trail} (h : a.stack = b.stack) : a = b := by
  have keys : a.keys = b.keys := congrArg Stack.order h
  cases a
  cases b
  cases keys
  rfl

/-- A key is pushed on the stack of a trail as it is on the trail. -/
theorem push_stack (trail : Trail) (key : String) :
    trail.stack.push key = (trail.push key).map Trail.stack := by
  by_cases mem : key ∈ trail.keys
  · rw [push_of_mem mem, Stack.push, if_pos (mem_active_stack.2 mem)]
    rfl
  · obtain ⟨longer, pushed⟩ := exists_push mem
    rw [pushed, Stack.push, if_neg (mt mem_active_stack.1 mem)]
    refine congrArg Except.ok (stack_eq (keys_of_push pushed).symm fun other => ?_)
    rw [mem_keys_of_push pushed, Finset.mem_insert, mem_active_stack, or_comm]

/-- A pop takes back a push. -/
theorem pop_stack_of_push {trail longer : Trail} {key : String}
    (pushed : trail.push key = .ok longer) : longer.stack.pop = .ok trail.stack := by
  have keys := keys_of_push pushed
  have fresh := not_mem_of_push pushed
  have last : longer.stack.order.getLast? = some key := by
    rw [order_stack, keys, List.getLast?_concat]
  unfold Stack.pop
  simp only [last]
  refine congrArg Except.ok (stack_eq ?_ fun other => ?_)
  · rw [order_stack, keys, List.dropLast_concat]
  · rw [Finset.mem_erase, mem_active_stack, mem_keys_of_push pushed]
    constructor
    · rintro ⟨apart, mem | same⟩
      · exact mem
      · exact absurd same apart
    · intro mem
      refine ⟨?_, .inl mem⟩
      rintro rfl
      exact fresh mem

end Trail

end ConfigTemplate
