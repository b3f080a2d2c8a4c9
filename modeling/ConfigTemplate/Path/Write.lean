import ConfigTemplate.Path.Assign

/-!
# Writing at a place

Writing at a place whose indices may count from the end. Such an index never makes an array longer,
so it may find no item, and then the containers that were created on the way stay. Along a path
without such indices writing is the same as assigning: `write_signed` says that it stops for the
same reasons and then leaves the document as it was.
-/

namespace ConfigTemplate

/-- An empty container of the kind that a step leads into. -/
def SignedStep.emptyContainer : SignedStep → Json
  | name _ => .obj []
  | index _ => .arr []

/-- What stops writing at a place. -/
inductive WriteFault where
  /-- The document does not have the containers that the steps call for. -/
  | document (fault : Document.Fault)
  /-- There is no item to go on into. -/
  | noItem
  /-- There is no item to put the value in place of. -/
  | noItemToReplace
  deriving Repr

/-- The wording of a missing item. -/
def WriteFault.message : WriteFault → String
  | document fault => fault.message
  | noItem => "list index out of range"
  | noItemToReplace => "list assignment index out of range"

namespace SignedPath

/-- The items of an array, padded with nulls until there is one at an index that counts from the
front. -/
def reaching (items : List Json) : Int → List Json
  | .ofNat n => Path.padded items n
  | .negSucc _ => items

/-- Where among some items an index points. -/
def spot? (count : Nat) : Int → Option Nat
  | .ofNat n => if n < count then some n else none
  | .negSucc n => if n < count then some (count - (n + 1)) else none

/-- Write a value below a node that lies at `place`: the node afterwards, and what stopped the
work. -/
def writeBelow (value : Json) (place : SignedPath) (node : Json) :
    SignedPath → Json × Option WriteFault
  | [] => (node, none)
  | step :: rest =>
    match step, node with
    | .index i, .arr items =>
      let items := reaching items i
      match rest with
      | [] =>
        match spot? items.length i with
        | none => (.arr items, some .noItemToReplace)
        | some k => (.arr (items.set k value), none)
      | next :: _ =>
        match spot? items.length i with
        | none => (.arr items, some .noItem)
        | some k =>
          let child := (Path.item? items k).getD next.emptyContainer
          let (child, fault) := writeBelow value (place ++ [step]) child rest
          (.arr (items.set k child), fault)
    | .name s, .obj members =>
      match rest with
      | [] => (.obj (Entries.put s value members), none)
      | next :: _ =>
        let child := (Entries.get? s members).getD next.emptyContainer
        let (child, fault) := writeBelow value (place ++ [step]) child rest
        (.obj (Entries.put s child members), fault)
    | .index i, _ => (node, some (.document (.indexOutsideArray i place)))
    | .name s, _ => (node, some (.document (.nameOutsideObject s place)))

@[simp] theorem spot?_reaching (items : List Json) (n : Nat) :
    spot? (reaching items n).length n = some n := by
  simp only [spot?, reaching, Path.length_padded]
  exact if_pos (by omega)

private theorem item?_padded (items : List Json) (n : Nat) :
    Path.item? (Path.padded items n) n = Path.item? items n := by
  by_cases h : n < items.length
  · simp [Path.item?, Path.padded, List.getElem?_append_left h]
  · have outside : items[n]? = none := by simp; omega
    have filler : (Path.padded items n)[n]? = some .null := by
      rw [Path.padded, List.getElem?_append_right (by omega), List.getElem?_replicate]
      exact if_pos (by omega)
    simp only [Path.item?, outside, filler]

theorem writeBelow_index (value : Json) (place : SignedPath) (items : List Json) (i : Nat)
    (next : SignedStep) (rest : SignedPath) :
    writeBelow value place (.arr items) (.index i :: next :: rest) =
      let below := writeBelow value (place ++ [.index i])
        ((Path.item? items i).getD next.emptyContainer) (next :: rest)
      (.arr (Path.storeItem items i below.1), below.2) := by
  have inside := spot?_reaching items i
  rw [writeBelow]
  simp only [inside]
  rw [show reaching items i = Path.padded items i from rfl, item?_padded]
  rfl

theorem writeBelow_name (value : Json) (place : SignedPath) (members : List (String × Json))
    (s : String) (next : SignedStep) (rest : SignedPath) :
    writeBelow value place (.obj members) (.name s :: next :: rest) =
      let below := writeBelow value (place ++ [.name s])
        ((Entries.get? s members).getD next.emptyContainer) (next :: rest)
      (.obj (Entries.put s below.1 members), below.2) := by
  rw [writeBelow]

/-- Write a value at a place of a document: the document afterwards, and what stopped the work. -/
def write (root : Json) (path : SignedPath) (value : Json) : Json × Option WriteFault :=
  writeBelow value [] root path

private theorem set_padded_item {items : List Json} {n : Nat} {item : Json}
    (h : Path.item? items n = some item) : (Path.padded items n).set n item = items := by
  have found : items[n]? = some item := by
    unfold Path.item? at h
    split at h
    · simp at h
    · exact h
  have inside : n < items.length := (List.getElem?_eq_some_iff.1 found).1
  have same : Path.padded items n = items := by
    simp [Path.padded, show n + 1 - items.length = 0 by omega]
  rw [same]
  obtain ⟨_, rfl⟩ := List.getElem?_eq_some_iff.1 found
  simp

private theorem put_get? {name : String} {members : List (String × Json)} {value : Json}
    (h : Entries.get? name members = some value) : Entries.put name value members = members := by
  fun_induction Entries.put name value members with
  | case1 => simp at h
  | case2 => simp_all [Entries.get?]
  | case3 k v rest hk ih => simp_all [Entries.get?]

private theorem emptyContainer_signed (step : Step) :
    step.signed.emptyContainer = step.emptyContainer := by
  cases step <;> rfl

private theorem writeBelow_signed (value : Json) (place : Path) (node : Json) (path : Path) :
    writeBelow value place.signed node path.signed =
      match Path.assignBelow value place node path with
      | .ok node => (node, none)
      | .error fault => (node, some (.document fault)) := by
  induction path generalizing place node with
  | nil => rfl
  | cons step rest ih =>
    cases step with
    | name s =>
      cases node with
      | obj members =>
        cases rest with
        | nil => rfl
        | cons next rest =>
          have deeper := ih (place ++ [.name s])
            ((Entries.get? s members).getD next.emptyContainer)
          simp only [Path.signed, List.map_append, List.map_cons, List.map_nil,
            Step.signed_name] at deeper ⊢
          rw [writeBelow_name, emptyContainer_signed, deeper, Path.assignBelow_name]
          cases hd : Path.assignBelow value (place ++ [.name s])
              ((Entries.get? s members).getD next.emptyContainer) (next :: rest) with
          | ok child => rfl
          | error fault =>
            cases hm : Entries.get? s members with
            | none =>
              obtain ⟨node, h⟩ :=
                Path.exists_assignBelow_emptyContainer value (place ++ [.name s]) next rest
              simp [hm, h] at hd
            | some child => simp [put_get? hm, Except.map]
      | _ => rfl
    | index i =>
      cases node with
      | arr items =>
        cases rest with
        | nil =>
          have inside := spot?_reaching items i
          simp only [Path.signed, List.map_cons, List.map_nil, Step.signed_index, writeBelow,
            inside]
          rfl
        | cons next rest =>
          have deeper := ih (place ++ [.index i])
            ((Path.item? items i).getD next.emptyContainer)
          simp only [Path.signed, List.map_append, List.map_cons, List.map_nil,
            Step.signed_index] at deeper ⊢
          rw [writeBelow_index, emptyContainer_signed, deeper, Path.assignBelow_index]
          cases hd : Path.assignBelow value (place ++ [.index i])
              ((Path.item? items i).getD next.emptyContainer) (next :: rest) with
          | ok child => rfl
          | error fault =>
            cases hm : Path.item? items i with
            | none =>
              obtain ⟨node, h⟩ :=
                Path.exists_assignBelow_emptyContainer value (place ++ [.index i]) next rest
              simp [hm, h] at hd
            | some child => simp [Path.storeItem, set_padded_item hm, Except.map]
      | _ => rfl

/-- Along a path that counts from the front writing is assigning, and where assigning fails the
document stays as it was. -/
theorem write_signed (root : Json) (path : Path) (value : Json) :
    write root path.signed value =
      match Path.assign root path value with
      | .ok root => (root, none)
      | .error fault => (root, some (.document fault)) :=
  writeBelow_signed value [] root path

end SignedPath

end ConfigTemplate
