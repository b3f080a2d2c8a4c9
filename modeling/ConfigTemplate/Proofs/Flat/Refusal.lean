import ConfigTemplate.Proofs.Flat.Leaves
import ConfigTemplate.Proofs.Path.Leaves

/-!
# Documents that cannot be flattened

Flattening goes through a document depth first and meets the fields of its objects on the way. It is
refused at the first field whose name no path can hold, and a document without such a field is
accepted.
-/

namespace ConfigTemplate

/-! ### Fields in document order -/

namespace Path

/-- Whether a name is one that the text of a path cannot hold. -/
def Unaddressable (name : String) : Prop :=
  name = "" ∨ '.' ∈ name.toList ∨ '[' ∈ name.toList ∨ ']' ∈ name.toList

theorem not_isAddressable_iff {name : String} :
    (!isAddressable name) = true ↔ Unaddressable name := by
  have marks : name.toList.any isMark = true ↔
      '.' ∈ name.toList ∨ '[' ∈ name.toList ∨ ']' ∈ name.toList := by
    simp only [List.any_eq_true, isMark, Bool.or_eq_true, decide_eq_true_eq]
    constructor
    · rintro ⟨c, mem, (rfl | rfl) | rfl⟩ <;> simp [mem]
    · rintro (mem | mem | mem) <;> exact ⟨_, mem, by simp⟩
  rw [isAddressable, Bool.not_and, Bool.not_not, Bool.not_not, Bool.or_eq_true, marks,
    List.isEmpty_iff, String.toList_eq_nil_iff, Unaddressable]

/-- Whether one path is reached before another one when a document is gone through depth first: on
the way to it, or where the two part. -/
def ReachedBefore (document : Json) (path other : Path) : Prop :=
  (path <+: other ∧ path ≠ other) ∨ Precedes document path other

theorem ReachedBefore.cons {value child : Json} {step : Step} {path other : Path}
    (leads : ∀ rest, get? value (step :: rest) = get? child rest)
    (h : ReachedBefore child path other) : ReachedBefore value (step :: path) (step :: other) := by
  obtain ⟨inside, ne⟩ | before := h
  · exact .inl ⟨(List.prefix_cons_inj step).2 inside, fun same => ne (List.cons.inj same).2⟩
  · exact .inr (before.cons leads)

theorem keysDistinct_of_get? {value node : Json} {path : Path} (distinct : value.KeysDistinct)
    (leads : get? value path = some node) : node.KeysDistinct := by
  fun_induction get? value path with
  | case1 =>
    obtain rfl := Option.some.inj leads
    exact distinct
  | case2 items i path item found ih =>
    exact ih (Json.itemsKeysDistinct_iff.1 distinct item (List.mem_of_getElem? found)) leads
  | case3 => cases leads
  | case4 members s path value found ih =>
    exact ih (Json.membersKeysDistinct_iff.1 distinct.2 _ (Entries.mem_of_get? found)) leads
  | case5 => cases leads
  | case6 => cases leads

/-- In a list without repetitions a pair stands in one order only. -/
theorem not_sublist_swap {names : List String} (distinct : names.Nodup) {first second : String}
    (h : [first, second].Sublist names) : ¬ [second, first].Sublist names := by
  obtain ⟨front, back, rfl, inFront, inBack⟩ := List.cons_sublist_iff.1 h
  have apart := (List.nodup_append.1 distinct).2.2
  intro turned
  obtain ⟨left, right, pair, leftSub, rightSub⟩ := List.sublist_append_iff.1 turned
  cases left with
  | nil =>
    obtain rfl := pair
    exact apart _ inFront _ (rightSub.subset (by simp)) rfl
  | cons name names =>
    obtain ⟨rfl, -⟩ := List.cons.inj pair
    exact apart _ (leftSub.subset List.mem_cons_self) _ (inBack.subset (by simp)) rfl

/-- Of two steps of a container only one comes before the other. -/
theorem StepsBefore.asymm {node : Json} (distinct : node.KeysDistinct) {step other : Step}
    (h : StepsBefore node step other) : ¬ StepsBefore node other step := by
  cases node with
  | arr items =>
    cases step with
    | name => exact h.elim
    | index m =>
      cases other with
      | name => exact h.elim
      | index n => exact Nat.lt_asymm h
  | obj members =>
    cases step with
    | index => exact h.elim
    | name first =>
      cases other with
      | index => exact h.elim
      | name second => exact not_sublist_swap distinct.1 h
  | _ => exact h.elim

/-- No step of a container comes before itself. -/
theorem not_stepsBefore_self {node : Json} (distinct : node.KeysDistinct) (step : Step) :
    ¬ StepsBefore node step step := fun before => before.asymm distinct before

/-- A path is not reached before one that it goes on from. -/
theorem not_reachedBefore_of_prefix {document : Document} {path other : Path}
    (further : other <+: path) : ¬ ReachedBefore document path other := by
  rintro (⟨back, ne⟩ | ⟨front, node, step, rest, step', rest', leads, before, rfl, rfl⟩)
  · exact ne (back.eq_of_length_le further.length_le)
  · rw [List.prefix_append_right_inj, List.cons_prefix_cons] at further
    obtain ⟨rfl, -⟩ := further
    exact not_stepsBefore_self (keysDistinct_of_get? document.distinct leads) _ before

/-- Two paths part at one place only. -/
theorem eq_of_parting {front front' : Path} {step other step' other' : Step}
    {rest further rest' further' : Path}
    (one : front ++ step :: rest = front' ++ step' :: rest')
    (two : front ++ other :: further = front' ++ other' :: further') (part : step ≠ other)
    (part' : step' ≠ other') : front = front' := by
  induction front generalizing front' with
  | nil =>
    cases front' with
    | nil => rfl
    | cons => exact absurd ((List.cons.inj one).1.trans (List.cons.inj two).1.symm) part
  | cons first front ih =>
    cases front' with
    | nil => exact absurd ((List.cons.inj one).1.symm.trans (List.cons.inj two).1) part'
    | cons first' front' =>
      obtain ⟨rfl, behind⟩ := List.cons.inj one
      rw [ih behind (List.cons.inj two).2]

/-- Of two paths only one is reached before the other. -/
theorem ReachedBefore.asymm {document : Document} {path other : Path}
    (h : ReachedBefore document path other) : ¬ ReachedBefore document other path := by
  intro back
  obtain ⟨further, -⟩ | ⟨front, node, step, rest, step', rest', leads, before, rfl, rfl⟩ := h
  · exact not_reachedBefore_of_prefix further back
  · obtain ⟨further, ne⟩ |
      ⟨front', node', other, later, other', later', leads', before', two, one⟩ := back
    · exact not_reachedBefore_of_prefix further
        (.inr ⟨front, node, step, rest, step', rest', leads, before, rfl, rfl⟩)
    · have inNode := keysDistinct_of_get? document.distinct leads
      have part : step ≠ step' := by
        rintro rfl
        exact not_stepsBefore_self inNode _ before
      have part' : other' ≠ other := by
        rintro rfl
        exact not_stepsBefore_self (keysDistinct_of_get? document.distinct leads') _ before'
      obtain rfl := eq_of_parting one two part part'
      cases Option.some.inj (leads.symm.trans leads')
      obtain ⟨rfl, -⟩ := List.cons.inj (List.append_cancel_left one)
      obtain ⟨rfl, -⟩ := List.cons.inj (List.append_cancel_left two)
      exact before.asymm inNode before'

end Path

namespace Json

/-- Whether an object at a path in a document has a field of a name. -/
def HasField (document : Json) (object : Path) (name : String) : Prop :=
  ∃ members, Path.get? document object = some (.obj members) ∧ name ∈ Entries.keys members

/-- A field seen from one step further up. -/
def fieldUnder (step : Step) (field : Path × String) : Path × String := (step :: field.1, field.2)

mutual

/-- The fields of all objects in a value, in document order: the path of the object, and the
name. -/
def fields : Json → List (Path × String)
  | arr items => itemFields 0 items
  | obj members => memberFields members
  | _ => []

/-- The fields in the items of an array from an index on. -/
def itemFields (index : Nat) : List Json → List (Path × String)
  | [] => []
  | item :: rest => (fields item).map (fieldUnder (.index index)) ++ itemFields (index + 1) rest

/-- The fields of an object and those in its members. -/
def memberFields : List (String × Json) → List (Path × String)
  | [] => []
  | (name, value) :: rest =>
    ([], name) :: ((fields value).map (fieldUnder (.name name)) ++ memberFields rest)

end

/-- The path of a field. -/
def fieldPath (field : Path × String) : Path := field.1 ++ [.name field.2]

theorem fieldPath_under (step : Step) (field : Path × String) :
    fieldPath (fieldUnder step field) = step :: fieldPath field := rfl

theorem exists_of_mem_itemFields {field : Path × String} {index : Nat} {items : List Json}
    (mem : field ∈ itemFields index items) : ∃ n item inner, items[n]? = some item ∧
      inner ∈ item.fields ∧ field = fieldUnder (.index (index + n)) inner := by
  induction items generalizing index with
  | nil => cases mem
  | cons item items ih =>
    rw [itemFields, List.mem_append, List.mem_map] at mem
    obtain ⟨inner, mem, rfl⟩ | mem := mem
    · exact ⟨0, item, inner, rfl, mem, rfl⟩
    · obtain ⟨n, other, inner, found, inside, same⟩ := ih mem
      exact ⟨n + 1, other, inner, found, inside, by rw [same, Nat.add_right_comm, Nat.add_assoc]⟩

theorem exists_of_mem_memberFields {field : Path × String} {members : List (String × Json)}
    (mem : field ∈ memberFields members) :
    (∃ name ∈ Entries.keys members, field = ([], name)) ∨
      ∃ name value inner, (name, value) ∈ members ∧ inner ∈ value.fields ∧
        field = fieldUnder (.name name) inner := by
  induction members with
  | nil => cases mem
  | cons member members ih =>
    obtain ⟨name, value⟩ := member
    rw [memberFields, List.mem_cons, List.mem_append, List.mem_map] at mem
    obtain rfl | ⟨inner, mem, rfl⟩ | mem := mem
    · exact .inl ⟨name, List.mem_cons_self, rfl⟩
    · exact .inr ⟨name, value, inner, List.mem_cons_self, mem, rfl⟩
    · obtain ⟨other, present, same⟩ | ⟨other, child, inner, present, inside, same⟩ := ih mem
      · exact .inl ⟨other, List.mem_cons_of_mem _ present, same⟩
      · exact .inr ⟨other, child, inner, List.mem_cons_of_mem _ present, inside, same⟩

/-- What is listed is a field of the object that its path leads to. -/
theorem hasField_of_mem_fields {value : Json} (distinct : value.KeysDistinct)
    {field : Path × String} (mem : field ∈ value.fields) : value.HasField field.1 field.2 := by
  obtain ⟨path, name⟩ := field
  induction path generalizing value with
  | nil =>
    cases value with
    | arr items =>
      obtain ⟨_, _, _, _, _, same⟩ := exists_of_mem_itemFields mem
      cases same
    | obj members =>
      obtain ⟨_, present, same⟩ | ⟨_, _, _, _, _, same⟩ := exists_of_mem_memberFields mem
      · cases same
        exact ⟨members, Path.get?_nil _, present⟩
      · cases same
    | _ => cases mem
  | cons step rest ih =>
    cases value with
    | arr items =>
      obtain ⟨n, item, inner, found, inside, same⟩ := exists_of_mem_itemFields mem
      cases same
      rw [Nat.zero_add, HasField, Path.get?_index found]
      exact ih (itemsKeysDistinct_iff.1 distinct item (List.mem_of_getElem? found)) inside
    | obj members =>
      obtain ⟨_, _, same⟩ | ⟨_, child, inner, found, inside, same⟩ :=
        exists_of_mem_memberFields mem
      · cases same
      · cases same
        rw [HasField, Path.get?_name (Entries.get?_of_mem distinct.1 found)]
        exact ih (membersKeysDistinct_iff.1 distinct.2 _ found) inside
    | _ => cases mem

theorem mem_itemFields_of_getElem? {items : List Json} {n : Nat} {item : Json}
    (found : items[n]? = some item) {field : Path × String} (mem : field ∈ item.fields)
    (index : Nat) : fieldUnder (.index (index + n)) field ∈ itemFields index items := by
  induction items generalizing index n with
  | nil => cases found
  | cons first rest ih =>
    rw [itemFields, List.mem_append]
    cases n with
    | zero =>
      obtain rfl := Option.some.inj found
      exact .inl (List.mem_map_of_mem mem)
    | succ n =>
      have later := ih found (index + 1)
      rw [Nat.add_right_comm] at later
      exact .inr later

theorem mem_memberFields_of_mem_keys {members : List (String × Json)} {name : String}
    (present : name ∈ Entries.keys members) : ([], name) ∈ memberFields members := by
  induction members with
  | nil => cases present
  | cons member members ih =>
    obtain ⟨first, value⟩ := member
    rw [memberFields, List.mem_cons, List.mem_append]
    obtain rfl | later := List.mem_cons.1 present
    · exact .inl rfl
    · exact .inr (.inr (ih later))

theorem mem_memberFields_of_get? {members : List (String × Json)} {name : String} {value : Json}
    (found : Entries.get? name members = some value) {field : Path × String}
    (mem : field ∈ value.fields) : fieldUnder (.name name) field ∈ memberFields members := by
  fun_induction Entries.get? name members with
  | case1 => cases found
  | case2 v rest =>
    obtain rfl := Option.some.inj found
    exact List.mem_cons_of_mem _ (List.mem_append_left _ (List.mem_map_of_mem mem))
  | case3 k v rest _ ih => exact List.mem_cons_of_mem _ (List.mem_append_right _ (ih found))

/-- Every field of an object that a path leads to is listed. -/
theorem mem_fields_of_hasField {value : Json} {path : Path} {name : String}
    (h : value.HasField path name) : (path, name) ∈ value.fields := by
  obtain ⟨members, leads, present⟩ := h
  fun_induction Path.get? value path with
  | case1 =>
    obtain rfl := Option.some.inj leads
    exact mem_memberFields_of_mem_keys present
  | case2 items i path item found ih =>
    have inside := mem_itemFields_of_getElem? found (ih leads) 0
    rwa [Nat.zero_add] at inside
  | case3 => cases leads
  | case4 members s path value found ih => exact mem_memberFields_of_get? found (ih leads)
  | case5 => cases leads
  | case6 => cases leads

/-! ### The order of the listing -/

/-- The fields in one part of a value come before those in the parts behind it. -/
theorem pairwise_fieldUnder {value child : Json} {step : Step}
    (leads : ∀ rest, Path.get? value (step :: rest) = Path.get? child rest)
    {fields others : List (Path × String)}
    (inside : fields.Pairwise fun field other =>
      Path.ReachedBefore child (fieldPath field) (fieldPath other))
    (behind : ∀ field ∈ others, ∃ other rest, fieldPath field = other :: rest ∧
      Path.StepsBefore value step other)
    (outside : others.Pairwise fun field other =>
      Path.ReachedBefore value (fieldPath field) (fieldPath other)) :
    (fields.map (fieldUnder step) ++ others).Pairwise fun field other =>
      Path.ReachedBefore value (fieldPath field) (fieldPath other) := by
  rw [List.pairwise_append, List.pairwise_map]
  refine ⟨inside.imp fun h => h.cons leads, outside, ?_⟩
  intro field first other later
  obtain ⟨inner, -, rfl⟩ := List.mem_map.1 first
  obtain ⟨step', rest, same, before⟩ := behind other later
  rw [fieldPath_under, same]
  exact .inr (Path.precedes_of_stepsBefore before _ rest)

mutual

/-- The fields of a value are listed as they are reached. -/
theorem pairwise_fields : ∀ value : Json, value.KeysDistinct →
    value.fields.Pairwise fun field other =>
      Path.ReachedBefore value (fieldPath field) (fieldPath other)
  | .arr items, h => pairwise_itemFields [] items h
  | .obj members, h => pairwise_memberFields [] members h.1 h.2
  | .null, _ | .bool _, _ | .int _, _ | .float _, _ | .str _, _ => List.Pairwise.nil

theorem pairwise_itemFields : ∀ done items : List Json, ItemsKeysDistinct items →
    (itemFields done.length items).Pairwise fun field other =>
      Path.ReachedBefore (.arr (done ++ items)) (fieldPath field) (fieldPath other)
  | _, [], _ => List.Pairwise.nil
  | done, item :: rest, h => by
    have others := pairwise_itemFields (done ++ [item]) rest h.2
    rw [List.length_append, List.append_assoc] at others
    have here : (done ++ item :: rest)[done.length]? = some item := by simp
    rw [itemFields]
    apply pairwise_fieldUnder (Path.get?_index here) (pairwise_fields item h.1) _ others
    intro field mem
    obtain ⟨n, _, inner, _, _, rfl⟩ := exists_of_mem_itemFields mem
    refine ⟨_, _, rfl, ?_⟩
    show done.length < done.length + 1 + n
    omega

theorem pairwise_memberFields : ∀ done members : List (String × Json),
    (Entries.keys (done ++ members)).Nodup → MembersKeysDistinct members →
    (memberFields members).Pairwise fun field other =>
      Path.ReachedBefore (.obj (done ++ members)) (fieldPath field) (fieldPath other)
  | _, [], _, _ => List.Pairwise.nil
  | done, (name, value) :: rest, distinct, h => by
    have others := pairwise_memberFields (done ++ [(name, value)]) rest
      (by rwa [List.append_assoc, List.singleton_append]) h.2
    rw [List.append_assoc] at others
    have mem : (name, value) ∈ done ++ (name, value) :: rest := by simp
    have here := Entries.get?_of_mem distinct mem
    have behind : ∀ field ∈ memberFields rest, ∃ step steps, fieldPath field = step :: steps ∧
        Path.StepsBefore (.obj (done ++ (name, value) :: rest)) (.name name) step := by
      intro field inRest
      have later : ∀ other ∈ Entries.keys rest,
          Path.StepsBefore (.obj (done ++ (name, value) :: rest)) (.name name) (.name other) := by
        intro other present
        show [name, other].Sublist (Entries.keys (done ++ (name, value) :: rest))
        rw [Entries.keys_append, Entries.keys_cons]
        exact ((List.singleton_sublist.2 present).cons_cons name).trans
          (List.sublist_append_right _ _)
      obtain ⟨other, present, rfl⟩ | ⟨other, _, inner, present, _, rfl⟩ :=
        exists_of_mem_memberFields inRest
      · exact ⟨_, _, rfl, later other present⟩
      · exact ⟨_, _, rfl, later other (List.mem_map_of_mem present)⟩
    rw [memberFields, List.pairwise_cons]
    refine ⟨fun field inside => ?_,
      pairwise_fieldUnder (Path.get?_name here) (pairwise_fields value h.1) behind others⟩
    obtain inner | inRest := List.mem_append.1 inside
    · -- the fields inside a member come after the member itself
      obtain ⟨deeper, -, rfl⟩ := List.mem_map.1 inner
      refine .inl ⟨⟨fieldPath deeper, rfl⟩, fun same => ?_⟩
      simp [fieldPath, fieldUnder] at same
    · obtain ⟨step, steps, same, before⟩ := behind field inRest
      rw [same]
      exact .inr (Path.precedes_of_stepsBefore before _ steps)

end

end Json

/-! ### Where flattening stops -/

namespace Flat

/-- The first field that cannot be addressed. -/
def firstRefused? (fields : List (Path × String)) : Option (Path × String) :=
  fields.find? fun field => !Path.isAddressable field.2

/-- Whether flattening a part of a document, whose place has a text, ends as its fields call for. It
stops at the first one that cannot be addressed, and goes through where there is none. -/
def EndsAt (path : String) (fields : List (Path × String))
    (result : Except Document.Fault (List (String × Json))) : Prop :=
  match firstRefused? fields with
  | some field =>
    result = .error (.unaddressableKey (field.1.foldl Path.append path) field.2)
  | none => ∃ pairs, result = .ok pairs

/-- The leaves of one part and then those of another one. -/
def leavesOfBoth (first second : Except Document.Fault (List (String × Json))) :
    Except Document.Fault (List (String × Json)) :=
  match first with
  | .error fault => .error fault
  | .ok here =>
    match second with
    | .error fault => .error fault
    | .ok there => .ok (here ++ there)

variable {path : String} {fields others : List (Path × String)}
  {first second : Except Document.Fault (List (String × Json))}

theorem EndsAt.pure (path : String) (pairs : List (String × Json)) : EndsAt path [] (.ok pairs) :=
  ⟨pairs, rfl⟩

/-- The fields of a part are named from the place of the whole. -/
theorem EndsAt.under {step : Step} (h : EndsAt (Path.append path step) fields first) :
    EndsAt path (fields.map (Json.fieldUnder step)) first := by
  have found : firstRefused? (fields.map (Json.fieldUnder step)) =
      (firstRefused? fields).map (Json.fieldUnder step) := by
    simp [firstRefused?, List.find?_map, Function.comp_def, Json.fieldUnder]
  rw [EndsAt, found]
  rw [EndsAt] at h
  cases inside : firstRefused? fields with
  | none =>
    rw [inside] at h
    exact h
  | some field =>
    rw [inside] at h
    exact h

/-- One part after the other. -/
theorem EndsAt.append (front : EndsAt path fields first) (back : EndsAt path others second) :
    EndsAt path (fields ++ others) (leavesOfBoth first second) := by
  have found : firstRefused? (fields ++ others) =
      (firstRefused? fields).or (firstRefused? others) := List.find?_append ..
  rw [EndsAt, found]
  rw [EndsAt] at front back
  cases inFront : firstRefused? fields with
  | some field =>
    rw [inFront] at front
    subst front
    rfl
  | none =>
    rw [inFront] at front
    obtain ⟨here, rfl⟩ := front
    cases behind : firstRefused? others with
    | some field =>
      rw [behind] at back
      subst back
      rfl
    | none =>
      rw [behind] at back
      obtain ⟨there, rfl⟩ := back
      exact ⟨here ++ there, rfl⟩

mutual

theorem leaves_endsAt (path : String) : ∀ value : Json,
    EndsAt path value.fields (leaves path value)
  | .arr (item :: rest) => itemLeaves_endsAt path 0 (item :: rest)
  | .obj (member :: rest) => memberLeaves_endsAt path (member :: rest)
  | .arr [] | .obj [] | .null | .bool _ | .int _ | .float _ | .str _ => .pure path _

theorem itemLeaves_endsAt (path : String) : ∀ (index : Nat) (items : List Json),
    EndsAt path (Json.itemFields index items) (itemLeaves path index items)
  | _, [] => .pure path _
  | index, item :: rest =>
    ((leaves_endsAt (Path.append path (.index index)) item).under).append
      (itemLeaves_endsAt path (index + 1) rest)

theorem memberLeaves_endsAt (path : String) : ∀ members : List (String × Json),
    EndsAt path (Json.memberFields members) (memberLeaves path members)
  | [] => .pure path _
  | (name, value) :: rest => by
    rw [Json.memberFields, memberLeaves]
    by_cases addressable : Path.isAddressable name = true
    · rw [if_pos addressable, EndsAt, firstRefused?, List.find?_cons_of_neg (by simp [addressable])]
      exact ((leaves_endsAt (Path.append path (.name name)) value).under).append
        (memberLeaves_endsAt path rest)
    · rw [if_neg addressable, EndsAt, firstRefused?, List.find?_cons_of_pos (by simp [addressable])]
      rfl

end

/-- Flattening stops at the first field of a document that cannot be addressed. -/
theorem ofDocument_of_firstRefused? (document : Document) :
    match firstRefused? document.value.fields with
    | some (object, name) =>
      ofDocument document = .error (.unaddressableKey (Path.render object) name)
    | none => ∃ flat, ofDocument document = .ok flat := by
  have ends := leaves_endsAt "" document
  rw [EndsAt] at ends
  rw [ofDocument, Document.ofRoot, if_pos document.container]
  cases found : firstRefused? document.value.fields with
  | some field =>
    rw [found] at ends
    simp only [ends]
    rfl
  | none =>
    rw [found] at ends
    obtain ⟨pairs, ends⟩ := ends
    simp only [ends]
    exact ⟨_, rfl⟩

/-- A field that cannot be addressed and that is reached before all others of its kind. -/
structure FirstUnaddressable (document : Document) (object : Path) (name : String) : Prop where
  hasField : document.value.HasField object name
  unaddressable : Path.Unaddressable name
  reachedBefore : ∀ other name', document.value.HasField other name' → Path.Unaddressable name' →
    (other, name') = (object, name) ∨
      Path.ReachedBefore document (object ++ [.name name]) (other ++ [.name name'])

theorem FirstUnaddressable.eq {document : Document} {object object' : Path} {name name' : String}
    (one : FirstUnaddressable document object name)
    (two : FirstUnaddressable document object' name') : (object, name) = (object', name') := by
  obtain same | before := one.reachedBefore _ _ two.hasField two.unaddressable
  · exact same.symm
  · obtain same | after := two.reachedBefore _ _ one.hasField one.unaddressable
    · exact same
    · exact absurd after before.asymm

theorem firstUnaddressable_of_firstRefused? {document : Document} {object : Path} {name : String}
    (h : firstRefused? document.value.fields = some (object, name)) :
    FirstUnaddressable document object name := by
  obtain ⟨unaddressable, before, after, listed, good⟩ := List.find?_eq_some_iff_append.1 h
  have order := Json.pairwise_fields document document.distinct
  rw [listed, List.pairwise_append, List.pairwise_cons] at order
  have inside : (object, name) ∈ document.value.fields := by simp [listed]
  refine ⟨Json.hasField_of_mem_fields document.distinct inside,
    Path.not_isAddressable_iff.1 unaddressable, fun other name' has bad => ?_⟩
  have mem := Json.mem_fields_of_hasField has
  rw [listed, List.mem_append, List.mem_cons] at mem
  obtain early | same | late := mem
  · have refused := good _ early
    rw [Path.not_isAddressable_iff.2 bad] at refused
    cases refused
  · exact .inl same
  · exact .inr (order.2.1.1 _ late)

/-- A document is refused exactly if some object in it has a field that cannot be addressed, and
the fault names the first of these fields and the path of its object. -/
theorem ofDocument_refused_iff (document : Document) :
    ((∃ fault, ofDocument document = .error fault) ↔
        ∃ object name, document.value.HasField object name ∧ Path.Unaddressable name) ∧
      ∀ fault, ofDocument document = .error fault ↔
        ∃ object name, FirstUnaddressable document object name ∧
          fault = .unaddressableKey (Path.render object) name := by
  have ends := ofDocument_of_firstRefused? document
  cases found : firstRefused? document.value.fields with
  | none =>
    rw [found] at ends
    obtain ⟨flat, ends⟩ := ends
    have clean : ∀ object name,
        document.value.HasField object name → ¬ Path.Unaddressable name := by
      intro object name has bad
      exact List.find?_eq_none.1 found _ (Json.mem_fields_of_hasField has)
        (Path.not_isAddressable_iff.2 bad)
    refine ⟨iff_of_false ?_ ?_, fun fault => iff_of_false ?_ ?_⟩
    · simp [ends]
    · rintro ⟨object, name, has, bad⟩
      exact clean object name has bad
    · simp [ends]
    · rintro ⟨object, name, first, -⟩
      exact clean object name first.hasField first.unaddressable
  | some field =>
    obtain ⟨object, name⟩ := field
    rw [found] at ends
    have first := firstUnaddressable_of_firstRefused? found
    refine ⟨iff_of_true ⟨_, ends⟩ ⟨object, name, first.hasField, first.unaddressable⟩,
      fun fault => ⟨?_, ?_⟩⟩
    · intro refused
      exact ⟨object, name, first, Except.error.inj (refused.symm.trans ends)⟩
    · rintro ⟨object', name', first', rfl⟩
      cases first.eq first'
      exact ends

/-- An object in an array with a field that cannot be addressed, and another one further on. -/
theorem ofDocument_refused_iff_item :
    let document : Document :=
      ⟨.obj [("a", .arr [.null, .obj [("", .null)]]), ("b.c", .null)], rfl, by decide⟩
    (∃ object, FirstUnaddressable document object "" ∧ Path.render object = "a[1]") ∧
      ¬ FirstUnaddressable document [] "b.c" := by
  intro document
  have refused : ofDocument document = .error (.unaddressableKey "a[1]" "") := by cbv
  have named := (ofDocument_refused_iff document).2
  constructor
  · obtain ⟨object, name, first, same⟩ := (named _).1 refused
    obtain ⟨place, rfl⟩ := Document.Fault.unaddressableKey.inj same
    exact ⟨object, first, place.symm⟩
  · intro first
    have other := (named _).2 ⟨_, _, first, rfl⟩
    rw [refused] at other
    have differ : "" ≠ "b.c" := by decide
    exact differ (Document.Fault.unaddressableKey.inj (Except.error.inj other)).2

end Flat

end ConfigTemplate
