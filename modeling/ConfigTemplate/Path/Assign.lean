import ConfigTemplate.Document

/-!
# Writing at a path

A value is written at the end of a path. Containers that the path needs and the document lacks are
created on the way, each of the kind that the next step asks for; an array is padded with nulls up
to an index beyond its end, and a null in an array gives way to a container.
-/

namespace ConfigTemplate

/-- An empty container of the kind that a step leads into. -/
def Step.emptyContainer : Step → Json
  | name _ => .obj []
  | index _ => .arr []

namespace Path

/-- The items of an array, padded with nulls until there is one at an index. -/
def padded (items : List Json) (index : Nat) : List Json :=
  items ++ List.replicate (index + 1 - items.length) .null

@[simp] theorem length_padded (items : List Json) (index : Nat) :
    (padded items index).length = max items.length (index + 1) := by
  simp [padded]
  omega

/-- The items of an array with a value stored at an index. -/
def storeItem (items : List Json) (index : Nat) (value : Json) : List Json :=
  (padded items index).set index value

/-- The item that a path goes on into. A null counts as none. -/
def item? (items : List Json) (index : Nat) : Option Json :=
  match items[index]? with
  | some .null => none
  | found => found

/-- Write a value below a node that lies at `place`. A path without steps writes nothing. -/
def assignBelow (value : Json) (place : Path) (node : Json) : Path → Except Document.Fault Json
  | [] => .ok node
  | step :: rest =>
    match step, node with
    | .index i, .arr items =>
      match rest with
      | [] => .ok (.arr (storeItem items i value))
      | next :: _ =>
        let child := (item? items i).getD next.emptyContainer
        match assignBelow value (place ++ [step]) child rest with
        | .error fault => .error fault
        | .ok child => .ok (.arr (storeItem items i child))
    | .name s, .obj members =>
      match rest with
      | [] => .ok (.obj (Entries.put s value members))
      | next :: _ =>
        let child := (Entries.get? s members).getD next.emptyContainer
        match assignBelow value (place ++ [step]) child rest with
        | .error fault => .error fault
        | .ok child => .ok (.obj (Entries.put s child members))
    | .index i, _ => .error (.indexOutsideArray i place.signed)
    | .name s, _ => .error (.nameOutsideObject s place.signed)

theorem assignBelow_index (value : Json) (place : Path) (items : List Json) (i : Nat) (next : Step)
    (rest : Path) :
    assignBelow value place (.arr items) (.index i :: next :: rest) =
      (assignBelow value (place ++ [.index i]) ((item? items i).getD next.emptyContainer)
        (next :: rest)).map fun child => .arr (storeItem items i child) := by
  rw [assignBelow]
  split <;> simp_all [Except.map]

theorem assignBelow_name (value : Json) (place : Path) (members : List (String × Json))
    (s : String) (next : Step) (rest : Path) :
    assignBelow value place (.obj members) (.name s :: next :: rest) =
      (assignBelow value (place ++ [.name s]) ((Entries.get? s members).getD next.emptyContainer)
        (next :: rest)).map fun child => .obj (Entries.put s child members) := by
  rw [assignBelow]
  split <;> simp_all [Except.map]

/-- Below an empty container of the right kind nothing stands in the way. -/
theorem exists_assignBelow_emptyContainer (value : Json) (place : Path) (step : Step)
    (rest : Path) :
    ∃ node, assignBelow value place step.emptyContainer (step :: rest) = .ok node := by
  induction rest generalizing place step with
  | nil => cases step <;> simp [assignBelow, Step.emptyContainer]
  | cons next rest ih =>
    cases step with
    | name s =>
      obtain ⟨node, h⟩ := ih (place ++ [.name s]) next
      exact ⟨.obj (Entries.put s node []), by
        rw [Step.emptyContainer, assignBelow_name]; simp [h, Except.map]⟩
    | index i =>
      obtain ⟨node, h⟩ := ih (place ++ [.index i]) next
      exact ⟨.arr (storeItem [] i node), by
        rw [Step.emptyContainer, assignBelow_index]; simp [item?, h, Except.map]⟩

/-- Write a value at a path of a document. -/
def assign (root : Json) (path : Path) (value : Json) : Except Document.Fault Json :=
  assignBelow value [] root path

@[simp] theorem assign_nil (root value : Json) : assign root [] value = .ok root := rfl

/-- The value that a path leads to. -/
def get? : Json → Path → Option Json
  | node, [] => some node
  | .arr items, .index i :: rest =>
    match items[i]? with
    | some item => get? item rest
    | none => none
  | .obj members, .name s :: rest =>
    match Entries.get? s members with
    | some value => get? value rest
    | none => none
  | _, _ => none

@[simp] theorem get?_nil (node : Json) : get? node [] = some node := by
  cases node <;> rfl

end Path

end ConfigTemplate
