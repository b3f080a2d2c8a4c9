import ConfigTemplate.Proofs.Flat.Elements
import ConfigTemplate.Proofs.Flat.Reorder

/-!
# Arrays of a flattened document

The full path of an array addresses that array as long as one of its items is a leaf: then it is
listed among the arrays that have elements, and its own path is preferred. An array of scalars gives
its elements by index, and one with a container is refused.

An array that is empty, or that has containers with something in them only, leaves no element of its
own behind. Its path is then short for whatever other array ends with it.
-/

namespace ConfigTemplate.Flat

variable {document : Document} {flat : Flat} {steps : Path} {items : List Json} {key : String}

/-- The first elements of an array, by index. -/
def elementsUpTo (array : String) (count : Nat) : List Element :=
  (List.range count).map fun n => ⟨array, n, Path.appendIndex array n⟩

/-- The paths of the first elements of an array, by index. -/
def elementPathsUpTo (array : String) (count : Nat) : List String :=
  (List.range count).map (Path.appendIndex array)

theorem map_path_elementsUpTo (array : String) (count : Nat) :
    (elementsUpTo array count).map Element.path = elementPathsUpTo array count := by
  simp [elementsUpTo, elementPathsUpTo, Function.comp_def]

theorem nodup_elementsUpTo (array : String) (count : Nat) : (elementsUpTo array count).Nodup := by
  refine List.nodup_range.map fun m n same => ?_
  exact congrArg Element.index same

/-- Elements by index are sorted. -/
theorem mergeSort_elementsUpTo (array : String) (count : Nat) :
    (elementsUpTo array count).mergeSort Element.le = elementsUpTo array count := by
  refine List.mergeSort_of_pairwise ?_
  rw [elementsUpTo, List.pairwise_map]
  refine List.pairwise_lt_range.imp fun less => ?_
  exact Element.le_iff.2 (.inl less)

theorem nodup_elementsMatching (flat : Flat) (key : String) :
    (flat.elementsMatching key).Nodup := by
  refine List.Nodup.filter _ (flat.nodup_keys.filterMap fun path other e found found' => ?_)
  rw [← path_of_element? found, ← path_of_element? found']

theorem toList_prefix_append (text : String) (step : Step) :
    text.toList <+: (Path.append text step).toList := by
  cases step with
  | index n => simp [Path.append, Path.appendIndex]
  | name s =>
    by_cases root : text = ""
    · simp [root]
    · simp [Path.append, Path.appendName, root]

theorem toList_prefix_foldl_append (text : String) (tail : Path) :
    text.toList <+: (tail.foldl Path.append text).toList := by
  induction tail generalizing text with
  | nil => exact List.prefix_rfl
  | cons step tail ih => exact (toList_prefix_append text step).trans (ih _)

/-- A path that goes on from an element of an array leads into the array. -/
theorem isInside_render (steps : Path) (n : Nat) (tail : Path) :
    isInside (Path.render steps) (Path.render (steps ++ .index n :: tail)) = true := by
  have opening : (Path.render steps ++ "[").toList <+:
      (Path.appendIndex (Path.render steps) n).toList := by
    simp [Path.appendIndex]
  have whole : Path.render (steps ++ .index n :: tail) =
      tail.foldl Path.append (Path.appendIndex (Path.render steps) n) := by
    simp [Path.render, Path.append]
  rw [isInside, List.isPrefixOf_iff_prefix, whole]
  exact opening.trans (toList_prefix_foldl_append _ tail)

/-- A path that leads into an array goes on from its path. -/
theorem exists_tail_of_isInside {path : Path} (addressable : ∀ step ∈ steps, step.Addressable)
    (addressable' : ∀ step ∈ path, step.Addressable)
    (inside : isInside (Path.render steps) (Path.render path) = true) :
    ∃ step tail, path = steps ++ step :: tail := by
  rw [isInside, List.isPrefixOf_iff_prefix] at inside
  obtain ⟨rest, same⟩ := inside
  have chars : (Path.render path).toList = (Path.render steps).toList ++ '[' :: rest := by
    simp [← same]
  have whole : path = steps ++ Path.splitChars ('[' :: rest) := by
    calc path = Path.splitChars (Path.render path).toList :=
          (Path.split_render path addressable').symm
      _ = Path.split (Path.render steps) ++ Path.splitChars ('[' :: rest) := by
          rw [chars, Path.splitChars_append (.inr rfl), Path.split]
      _ = steps ++ Path.splitChars ('[' :: rest) := by rw [Path.split_render steps addressable]
  cases tail : Path.splitChars ('[' :: rest) with
  | nil =>
    rw [tail, List.append_nil] at whole
    simp [whole] at chars
  | cons step tail' => exact ⟨step, tail', by rw [whole, tail]⟩

/-- Below a scalar there is nothing. -/
theorem eq_nil_of_get?_scalar {value node : Json} {path : Path} (scalar : value.isContainer = false)
    (leads : Path.get? value path = some node) : path = [] := by
  cases path with
  | nil => rfl
  | cons step tail => cases value <;> cases step <;> first | cases leads | cases scalar

section Accepted

variable (accepted : ofDocument document = .ok flat)
include accepted

/-- The elements of one array among those that a key addresses. -/
theorem mem_elements_of_array (leads : Path.get? document steps = some (.arr items))
    (short : endsAt key.toList (Path.render steps).toList = true) {e : Element} :
    e ∈ (flat.elementsMatching key).filter (fun e => e.array = Path.render steps) ↔
      ∃ n item, items[n]? = some item ∧ item.isLeaf = true ∧
        e = ⟨Path.render steps, n, Path.appendIndex (Path.render steps) n⟩ := by
  obtain ⟨addressable, -⟩ := ofDocument_eq_ok accepted
  rw [List.mem_filter, mem_elementsMatching_iff accepted]
  constructor
  · rintro ⟨⟨other, n, others, item, leads', found, leaf, -, rfl⟩, same⟩
    have texts : Path.render other = Path.render steps := by simpa using same
    obtain rfl := Path.render_injective (addressable_of_get? addressable leads')
      (addressable_of_get? addressable leads) texts
    obtain rfl : others = items := by
      rw [leads] at leads'
      cases leads'
      rfl
    exact ⟨n, item, found, leaf, rfl⟩
  · rintro ⟨n, item, found, leaf, rfl⟩
    exact ⟨⟨steps, n, items, item, leads, found, leaf, short, rfl⟩, by simp⟩

/-- Where every item is a scalar, the elements of an array are all there is. -/
theorem perm_elementsUpTo (leads : Path.get? document steps = some (.arr items))
    (short : endsAt key.toList (Path.render steps).toList = true)
    (leaves : ∀ item ∈ items, item.isLeaf = true) :
    ((flat.elementsMatching key).filter fun e => e.array = Path.render steps).Perm
      (elementsUpTo (Path.render steps) items.length) := by
  rw [List.perm_ext_iff_of_nodup ((nodup_elementsMatching flat key).filter _)
    (nodup_elementsUpTo _ _)]
  intro e
  rw [mem_elements_of_array accepted leads short, elementsUpTo, List.mem_map]
  constructor
  · rintro ⟨n, item, found, -, rfl⟩
    exact ⟨n, List.mem_range.2 (List.getElem?_eq_some_iff.1 found).1, rfl⟩
  · rintro ⟨n, within, rfl⟩
    have found := List.getElem?_eq_getElem (List.mem_range.1 within)
    exact ⟨n, _, found, leaves _ (List.mem_of_getElem? found), rfl⟩

/-- The elements of an array of scalars, by index. -/
theorem elementPaths_of_scalars (leads : Path.get? document steps = some (.arr items))
    (short : endsAt key.toList (Path.render steps).toList = true)
    (scalars : ∀ item ∈ items, item.isContainer = false) :
    flat.elementPaths key (Path.render steps) =
      .ok (elementPathsUpTo (Path.render steps) items.length) := by
  obtain ⟨addressable, -⟩ := ofDocument_eq_ok accepted
  have leaves : ∀ item ∈ items, item.isLeaf = true := fun item mem =>
    Json.isLeaf_of_not_isContainer (scalars item mem)
  have elements := perm_elementsUpTo accepted leads short leaves
  have given : ∀ e ∈ (flat.elementsMatching key).filter (fun e => e.array = Path.render steps),
      element? e.path = some e := by
    intro e mem
    obtain ⟨n, item, -, -, rfl⟩ := (mem_elements_of_array accepted leads short).1 mem
    exact element?_appendIndex _ n
  unfold elementPaths
  simp only [mergeSort_eq_of_perm elements given, mergeSort_elementsUpTo, map_path_elementsUpTo]
  split
  next text value against =>
    -- what lies inside the array is one of its items, so nothing can speak against them
    obtain ⟨path, below, at_, leaf, rfl⟩ :=
      (mem_entries_iff accepted).1 (List.mem_of_find?_eq_some against)
    suffices outside : isInside (Path.render steps) (Path.render path) = true →
        Path.render path ∈ elementPathsUpTo (Path.render steps) items.length ∧
          value.isContainer = false from
      absurd (List.find?_some against) (by simpa using outside)
    intro inside
    obtain ⟨step, tail, rfl⟩ := exists_tail_of_isInside (addressable_of_get? addressable leads)
      (addressable_of_get? addressable at_) inside
    rw [Path.get?_append, leads, Option.bind_some] at at_
    cases step with
    | name s => cases at_
    | index n =>
      cases found : items[n]? with
      | none =>
        rw [Path.get?, found] at at_
        cases at_
      | some item =>
        have scalar := scalars item (List.mem_of_getElem? found)
        rw [Path.get?_index found] at at_
        obtain rfl := eq_nil_of_get?_scalar scalar at_
        rw [Path.get?_nil] at at_
        obtain rfl := Option.some.inj at_
        rw [Path.render_concat]
        exact ⟨List.mem_map_of_mem (List.mem_range.2 (List.getElem?_eq_some_iff.1 found).1), scalar⟩
  next => rfl

/-- An array with a container for an item is refused. -/
theorem elementPaths_of_container (leads : Path.get? document steps = some (.arr items))
    (short : endsAt key.toList (Path.render steps).toList = true)
    {item : Json} (mem : item ∈ items) (container : item.isContainer = true) :
    ∃ path, flat.elementPaths key (Path.render steps) =
      .error (.keyNotFound key (.notScalar path)) := by
  obtain ⟨addressable, -⟩ := ofDocument_eq_ok accepted
  obtain ⟨n, found⟩ := List.mem_iff_getElem?.1 mem
  -- some leaf lies at the item or below it, and it is no scalar element
  obtain ⟨leaf, inItem⟩ := List.exists_mem_of_ne_nil _ item.leafPaths_ne_nil
  have inDocument := Path.mem_leafPaths_of_get? ((get?_item leads n).trans found) inItem
  have there := Path.get?_of_mem_leafPaths _ document.distinct _ inDocument
  rw [List.append_assoc, List.singleton_append] at inDocument there
  have entry : (Path.render (steps ++ .index n :: leaf.1), leaf.2) ∈ flat.entries :=
    (mem_entries_iff accepted).2
      ⟨_, by simp, there, Json.isLeaf_of_mem_leafPaths _ _ inItem, rfl⟩
  unfold elementPaths
  dsimp only
  split
  next path value _ => exact ⟨path, rfl⟩
  next nothing =>
    have passed := List.find?_eq_none.1 nothing _ entry
    simp only [isInside_render, Bool.true_and, Bool.or_eq_true, Bool.not_eq_true', not_or,
      Bool.not_eq_false, List.contains_iff_mem, List.mem_map, List.mem_mergeSort,
      Bool.not_eq_true] at passed
    obtain ⟨⟨e, isElement, same⟩, scalar⟩ := passed
    obtain ⟨m, other, foundOther, -, rfl⟩ :=
      (mem_elements_of_array accepted leads short).1 isElement
    have texts : Path.render (steps ++ [.index m]) = Path.render (steps ++ .index n :: leaf.1) := by
      rw [Path.render_concat]
      exact same
    have steps_eq := Path.render_injective
      (addressable_of_get? addressable ((get?_item leads m).trans foundOther))
      (addressable_of_get? addressable there) texts
    obtain ⟨-, nil⟩ := List.cons.inj (List.append_cancel_left steps_eq)
    rw [← nil, get?_item leads n, found] at there
    rw [← Option.some.inj there, container] at scalar
    cases scalar

/-- The arrays that a key addresses are those with a leaf among their items whose paths it is short
for. -/
theorem mem_arraysMatching_iff {array : String} : array ∈ flat.arraysMatching key ↔
    ∃ steps items item, Path.get? document steps = some (.arr items) ∧ item ∈ items ∧
      item.isLeaf = true ∧ endsAt key.toList (Path.render steps).toList = true ∧
      array = Path.render steps := by
  rw [arraysMatching, List.mem_eraseDups, List.mem_map]
  constructor
  · rintro ⟨e, mem, rfl⟩
    obtain ⟨steps, n, items, item, leads, found, leaf, short, rfl⟩ :=
      (mem_elementsMatching_iff accepted).1 mem
    exact ⟨steps, items, item, leads, List.mem_of_getElem? found, leaf, short, rfl⟩
  · rintro ⟨steps, items, item, leads, mem, leaf, short, rfl⟩
    obtain ⟨n, found⟩ := List.mem_iff_getElem?.1 mem
    exact ⟨_, (mem_elementsMatching_iff accepted).2
      ⟨steps, n, items, item, leads, found, leaf, short, rfl⟩, rfl⟩

/-- The full path of an array with a leaf among its items addresses that array. -/
theorem pickArray_render (leads : Path.get? document steps = some (.arr items)) {item : Json}
    (mem : item ∈ items) (leaf : item.isLeaf = true) (unique : Bool) :
    flat.pickArray unique (Path.render steps) =
      .ok ⟨Path.render steps, [Path.render steps]⟩ := by
  have listed : Path.render steps ∈ flat.arraysMatching (Path.render steps) :=
    (mem_arraysMatching_iff accepted).2
      ⟨steps, items, item, leads, mem, leaf, by simp [endsAt], rfl⟩
  exact if_pos listed

/-- The full path of an array of scalars gives its elements by index. -/
theorem resolveArray_of_scalars (leads : Path.get? document steps = some (.arr items))
    (nonempty : items ≠ []) (scalars : ∀ item ∈ items, item.isContainer = false) (unique : Bool) :
    flat.resolveArray unique (Path.render steps) =
      .ok (elementPathsUpTo (Path.render steps) items.length) := by
  obtain ⟨item, mem⟩ := List.exists_mem_of_ne_nil _ nonempty
  have leaf := Json.isLeaf_of_not_isContainer (scalars item mem)
  rw [resolveArray, pickArray_render accepted leads mem leaf]
  exact elementPaths_of_scalars accepted leads (by simp [endsAt]) scalars

end Accepted

/-- Some other array of a document has a leaf among its items and a path that the path of an array
is short for. -/
def HasRival (document : Document) (steps : Path) : Prop :=
  ∃ other items item, other ≠ steps ∧ Path.get? document other = some (.arr items) ∧
    item ∈ items ∧ item.isLeaf = true ∧
    endsAt (Path.render steps).toList (Path.render other).toList = true

/-- The full path of an array of scalars gives the paths of its elements by index. The full path of
an array that is empty or has a container for an item leads to nothing, provided that one of its
items is a leaf or no other array competes for its path. -/
theorem resolveArray_render (accepted : ofDocument document = .ok flat)
    (leads : Path.get? document steps = some (.arr items)) (unique : Bool) :
    (items ≠ [] → (∀ item ∈ items, item.isContainer = false) →
      flat.resolveArray unique (Path.render steps) =
        .ok ((List.range items.length).map (Path.appendIndex (Path.render steps)))) ∧
    ((items = [] ∨ ∃ item ∈ items, item.isContainer = true) →
      (∃ item ∈ items, item.isLeaf = true) ∨ ¬ HasRival document steps →
        ∃ reason, flat.resolveArray unique (Path.render steps) =
          .error (.keyNotFound (Path.render steps) reason)) := by
  refine ⟨fun nonempty scalars =>
    resolveArray_of_scalars accepted leads nonempty scalars unique, ?_⟩
  intro refused own
  by_cases leaf : ∃ item ∈ items, item.isLeaf = true
  · obtain ⟨item, mem, leaf⟩ := leaf
    obtain rfl | ⟨container, mem', isContainer⟩ := refused
    · cases mem
    obtain ⟨path, stopped⟩ := elementPaths_of_container accepted leads
      (by simp [endsAt] : endsAt (Path.render steps).toList (Path.render steps).toList = true)
      mem' isContainer
    refine ⟨.notScalar path, ?_⟩
    rw [resolveArray, pickArray_render accepted leads mem leaf]
    exact stopped
  · have alone := own.resolve_left leaf
    have none : flat.arraysMatching (Path.render steps) = [] := by
      rw [List.eq_nil_iff_forall_not_mem]
      intro array listed
      obtain ⟨other, others, item, leads', mem, isLeaf, short, rfl⟩ :=
        (mem_arraysMatching_iff accepted).1 listed
      refine alone ⟨other, others, item, ?_, leads', mem, isLeaf, short⟩
      rintro rfl
      rw [leads] at leads'
      cases leads'
      exact leaf ⟨item, mem, isLeaf⟩
    refine ⟨.unmatched, ?_⟩
    rw [resolveArray, pickArray, none]
    rfl

/-- Beside an array of the same name that has something in it, the full path of an array of scalars
gives the array's own elements, and the full path of the other leads to nothing. -/
theorem resolveArray_render_named :
    let document : Document :=
      ⟨.obj [("b", .obj [("list", .arr [.int 1, .obj [("k", .int 2)]])]),
        ("list", .arr [.str "x", .null, .bool true])], rfl, by decide⟩
    ∃ flat, ofDocument document = .ok flat ∧
      Path.get? document [.name "list"] = some (.arr [.str "x", .null, .bool true]) ∧
      flat.resolveArray true "list" = .ok ["list[0]", "list[1]", "list[2]"] ∧
      Path.get? document [.name "b", .name "list"] =
        some (.arr [.int 1, .obj [("k", .int 2)]]) ∧
      ∃ reason, flat.resolveArray false "b.list" = .error (.keyNotFound "b.list" reason) := by
  intro document
  obtain ⟨flat, accepted⟩ : ∃ flat, ofDocument document = .ok flat := ⟨_, rfl⟩
  have list : Path.get? document [.name "list"] = some (.arr [.str "x", .null, .bool true]) := rfl
  have inner : Path.get? document [.name "b", .name "list"] =
      some (.arr [.int 1, .obj [("k", .int 2)]]) := rfl
  have scalars := (resolveArray_render accepted list true).1 (by simp) (by simp [Json.isContainer])
  have refused := (resolveArray_render accepted inner false).2
    (.inr ⟨.obj [("k", .int 2)], by simp, rfl⟩) (.inl ⟨.int 1, by simp, rfl⟩)
  exact ⟨flat, accepted, list, scalars, inner, refused⟩

/-- Where none of its items is a leaf, an array that competes for the path of another is taken for
it. -/
theorem resolveArray_of_rival (accepted : ofDocument document = .ok flat)
    (leads : Path.get? document steps = some (.arr items))
    (bare : ∀ item ∈ items, item.isLeaf = false) {other : Path} {others : List Json}
    (leads' : Path.get? document other = some (.arr others)) (nonempty : others ≠ [])
    (scalars : ∀ item ∈ others, item.isContainer = false)
    (short : endsAt (Path.render steps).toList (Path.render other).toList = true)
    (only : ∀ third rest item, Path.get? document third = some (.arr rest) → item ∈ rest →
      item.isLeaf = true → endsAt (Path.render steps).toList (Path.render third).toList = true →
        third = other) (unique : Bool) :
    flat.resolveArray unique (Path.render steps) =
      .ok ((List.range others.length).map (Path.appendIndex (Path.render other))) := by
  obtain ⟨addressable, -⟩ := ofDocument_eq_ok accepted
  obtain ⟨item, mem⟩ := List.exists_mem_of_ne_nil _ nonempty
  have leaf := Json.isLeaf_of_not_isContainer (scalars item mem)
  have listed : flat.arraysMatching (Path.render steps) = [Path.render other] := by
    refine List.perm_singleton.1 ((List.perm_ext_iff_of_nodup (nodup_arraysMatching _ _)
      (List.nodup_singleton _)).2 fun array => ?_)
    rw [mem_arraysMatching_iff accepted, List.mem_singleton]
    constructor
    · rintro ⟨third, rest, item', at_, mem', leaf', short', rfl⟩
      rw [only third rest item' at_ mem' leaf' short']
    · rintro rfl
      exact ⟨other, others, item, leads', mem, leaf, short, rfl⟩
  have apart : Path.render steps ≠ Path.render other := by
    intro same
    obtain rfl := Path.render_injective (addressable_of_get? addressable leads)
      (addressable_of_get? addressable leads') same
    rw [leads] at leads'
    cases leads'
    rw [bare item mem] at leaf
    cases leaf
  have taken : flat.pickArray unique (Path.render steps) =
      .ok ⟨Path.render other, [Path.render other]⟩ := by
    rw [pickArray, listed, if_neg (by simpa using apart)]
    rfl
  rw [resolveArray, taken]
  exact elementPaths_of_scalars accepted leads' short scalars

/-- The full path of an array of objects gives the elements of another array. -/
theorem resolveArray_rival_elements :
    let document : Document :=
      ⟨.obj [("a", .arr [.obj [("k", .int 1)]]), ("b", .obj [("a", .arr [.str "v"])])],
        rfl, by decide⟩
    ∃ flat, ofDocument document = .ok flat ∧
      Path.get? document [.name "a"] = some (.arr [.obj [("k", .int 1)]]) ∧
      ∀ unique, flat.resolveArray unique "a" = .ok ["b.a[0]"] := by
  intro document
  obtain ⟨flat, accepted⟩ : ∃ flat, ofDocument document = .ok flat := ⟨_, rfl⟩
  refine ⟨flat, accepted, rfl, fun unique => ?_⟩
  cases accepted
  cases unique <;> cbv

end ConfigTemplate.Flat
