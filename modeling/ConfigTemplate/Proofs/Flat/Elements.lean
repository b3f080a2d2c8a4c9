import ConfigTemplate.Proofs.Flat.Leaves
import ConfigTemplate.Proofs.Flat.Lookup
import ConfigTemplate.Proofs.Path.Leaves

/-!
# The elements of a flattened document

The flat form of a document has one entry for each leaf below the root. A path that ends with an
index is read as an element of the array one step up, and no other path is.
-/

namespace ConfigTemplate.Flat

open Json (located)

/-! ### Reading an element off a path -/

theorem withoutFinalBreak_concat {c : Char} (h : c ≠ '\n') (cs : List Char) :
    withoutFinalBreak (cs ++ [c]) = cs ++ [c] := by
  unfold withoutFinalBreak
  rw [List.reverse_append, List.reverse_singleton, List.singleton_append]
  split
  next same => exact absurd (List.cons.inj same).1 h
  next => rfl

/-- A path that ends with an index is an element of the array one step up. -/
theorem element?_appendIndex (array : String) (n : Nat) :
    element? (Path.appendIndex array n) = some ⟨array, n, Path.appendIndex array n⟩ := by
  have chars : (Path.appendIndex array n).toList =
      (array.toList ++ '[' :: Nat.toDigits 10 n) ++ [']'] := by
    simp [Path.appendIndex]
  have digits : ∀ c ∈ (Nat.toDigits 10 n).reverse, Text.isDigit c = true := fun c mem =>
    Text.isDigit_of_mem_toDigits (List.mem_reverse.1 mem)
  have back : (array.toList ++ '[' :: Nat.toDigits 10 n).reverse =
      (Nat.toDigits 10 n).reverse ++ '[' :: array.toList.reverse := by simp
  have stop : Text.isDigit '[' = false := by decide
  unfold element?
  rw [chars, withoutFinalBreak_concat (by decide), List.reverse_append, List.reverse_singleton,
    List.singleton_append]
  simp only [back, List.takeWhile_append_of_pos digits, List.dropWhile_append_of_pos digits,
    List.takeWhile_cons_of_neg (Bool.eq_false_iff.1 stop),
    List.dropWhile_cons_of_neg (Bool.eq_false_iff.1 stop), List.append_nil]
  cases reversed : (Nat.toDigits 10 n).reverse with
  | nil => exact absurd (List.reverse_eq_nil_iff.1 reversed) Nat.toDigits_ne_nil
  | cons d rest =>
    have value : Text.digitsValue (d :: rest).reverse = n := by
      rw [← reversed, List.reverse_reverse, Text.digitsValue_toDigits]
    simp only [value, List.reverse_reverse, String.ofList_toList]

theorem withoutFinalBreak_append (front : List Char) {cs : List Char} (h : cs ≠ []) :
    withoutFinalBreak (front ++ cs) = front ++ withoutFinalBreak cs := by
  obtain ⟨init, last, rfl⟩ := List.eq_nil_or_concat cs |>.resolve_left h
  by_cases break_ : last = '\n'
  · subst break_
    simp [withoutFinalBreak]
  · rw [List.concat_eq_append, ← List.append_assoc, withoutFinalBreak_concat break_,
      withoutFinalBreak_concat break_, List.append_assoc]

theorem withoutFinalBreak_subset (cs : List Char) : withoutFinalBreak cs ⊆ cs := by
  unfold withoutFinalBreak
  split
  next rest reversed =>
    intro c mem
    rw [← List.mem_reverse, reversed]
    exact List.mem_cons_of_mem _ (List.mem_reverse.1 mem)
  next => exact List.Subset.refl cs

/-- An element's path ends with a bracket. -/
theorem getLast?_of_element? {path : String} {e : Element} (h : element? path = some e) :
    (withoutFinalBreak path.toList).getLast? = some ']' := by
  unfold element? at h
  split at h
  next rest reversed => rw [List.getLast?_eq_head?_reverse, reversed, List.head?_cons]
  next => cases h

/-- A path that ends with a name is no element. -/
theorem element?_appendName (path : String) {name : String}
    (addressable : Path.isAddressable name = true) :
    element? (Path.appendName path name) = none := by
  simp only [Path.isAddressable, Bool.and_eq_true, Bool.not_eq_true', List.isEmpty_eq_false_iff,
    List.any_eq_false, Bool.not_eq_true] at addressable
  obtain ⟨nonempty, unmarked⟩ := addressable
  have noBracket : ']' ∉ withoutFinalBreak name.toList := fun mem =>
    absurd (unmarked _ (withoutFinalBreak_subset _ mem)) (by decide)
  rw [Option.eq_none_iff_forall_ne_some]
  intro e found
  have last := getLast?_of_element? found
  by_cases root : path = ""
  · rw [Path.appendName, if_pos root] at last
    exact noBracket (List.mem_of_getLast? last)
  · have chars : (Path.appendName path name).toList = path.toList ++ ['.'] ++ name.toList := by
      simp [Path.appendName, root]
    rw [chars, withoutFinalBreak_append _ nonempty, List.append_assoc, List.getLast?_append] at last
    rw [Option.or_of_isSome (by simp)] at last
    obtain point | inName := List.mem_cons.1 (List.mem_of_getLast? last)
    · cases point
    · exact noBracket inName

/-! ### The entries of a flattened document -/

section Flattened

variable {document : Document} {flat : Flat} {path : Path} {key : String}

/-- The text of a path can hold every step that leads somewhere. -/
theorem addressable_of_get? {node : Json} (addressable : document.value.Addressable)
    (leads : Path.get? document path = some node) : ∀ step ∈ path, step.Addressable := by
  obtain ⟨leaf, inside⟩ := List.exists_mem_of_ne_nil _ node.leafPaths_ne_nil
  exact fun step mem => addressable _ (Path.mem_leafPaths_of_get? leads inside) step
    (List.mem_append_left _ mem)

/-- The leaves below the root that are listed are those that paths lead to. -/
theorem mem_documentLeaves_iff {value : Json} :
    (path, value) ∈ document.value.documentLeaves ↔
      path ≠ [] ∧ Path.get? document path = some value ∧ value.isLeaf = true := by
  rw [Json.documentLeaves, List.mem_filter]
  constructor
  · rintro ⟨mem, below⟩
    exact ⟨by simpa using below, Path.get?_of_mem_leafPaths _ document.distinct _ mem,
      Json.isLeaf_of_mem_leafPaths _ _ mem⟩
  · rintro ⟨below, leads, leaf⟩
    have itself : ([], value) ∈ value.leafPaths := by simp [Json.leafPaths_of_isLeaf leaf]
    have mem := Path.mem_leafPaths_of_get? leads itself
    rw [List.append_nil] at mem
    exact ⟨mem, by simpa using below⟩

/-- The entries are the leaves below the root, each under the text of its path. -/
theorem mem_entries_iff (accepted : ofDocument document = .ok flat) {value : Json} :
    (key, value) ∈ flat.entries ↔ ∃ path, path ≠ [] ∧
      Path.get? document path = some value ∧ value.isLeaf = true ∧ key = Path.render path := by
  obtain ⟨-, entries⟩ := ofDocument_eq_ok accepted
  rw [entries, List.mem_map]
  constructor
  · rintro ⟨leaf, mem, same⟩
    obtain ⟨rfl, rfl⟩ := Prod.mk.inj same
    obtain ⟨below, leads, isLeaf⟩ := mem_documentLeaves_iff.1 mem
    exact ⟨leaf.1, below, leads, isLeaf, rfl⟩
  · rintro ⟨path, below, leads, leaf, rfl⟩
    exact ⟨(path, value), mem_documentLeaves_iff.2 ⟨below, leads, leaf⟩, rfl⟩

/-- The entries of a flattened document are its leaves in document order, one for each: the text of
an entry spells the names and indices that lead to the leaf, no two entries spell the same, and
every leaf below the root has its entry. -/
theorem entries_in_document_order (accepted : ofDocument document = .ok flat) :
    (flat.entries.map fun entry => (Path.split entry.1, entry.2)) =
        document.value.documentLeaves ∧
      (∀ path value, (path, value) ∈ document.value.documentLeaves ↔
        path ≠ [] ∧ Path.get? document path = some value ∧ value.isLeaf = true) ∧
      (document.value.documentLeaves.map Prod.fst).Pairwise (Path.Precedes document) ∧
      (flat.keys.map Path.split).Nodup := by
  obtain ⟨addressable, entries⟩ := ofDocument_eq_ok accepted
  have spelled := map_split_entries addressable entries
  refine ⟨spelled, fun _ _ => mem_documentLeaves_iff, ?_, ?_⟩
  · rw [List.pairwise_map]
    exact (Path.pairwise_leafPaths document document.distinct).sublist List.filter_sublist
  · have paths : flat.keys.map Path.split = document.value.documentLeaves.map Prod.fst := by
      rw [← spelled, keys, Entries.keys, List.map_map, List.map_map]
      rfl
    rw [paths]
    exact (Json.nodup_leafPaths document document.distinct).sublist
      (List.filter_sublist.map Prod.fst)

/-- A name of digits stays a name, an item of an item is found without a point, and an empty
container is a leaf. -/
theorem entries_in_document_order_digits :
    let document : Document :=
      ⟨.arr [.obj [("0", .arr [.arr [.null], .obj []]), ("$ {a}", .int 1)]], rfl, by decide⟩
    ∃ flat, ofDocument document = .ok flat ∧
      flat.keys = ["[0].0[0][0]", "[0].0[1]", "[0].$ {a}"] ∧
      (flat.entries.map fun entry => (Path.split entry.1, entry.2)) =
        [([.index 0, .name "0", .index 0, .index 0], .null),
          ([.index 0, .name "0", .index 1], .obj []), ([.index 0, .name "$ {a}"], .int 1)] ∧
      (flat.keys.map Path.split).Nodup := by
  intro document
  obtain ⟨flat, accepted⟩ : ∃ flat, ofDocument document = .ok flat := ⟨_, rfl⟩
  have keys : flat.keys = ["[0].0[0][0]", "[0].0[1]", "[0].$ {a}"] := by
    cases accepted
    cbv
  obtain ⟨spelled, -, -, apart⟩ := entries_in_document_order accepted
  exact ⟨flat, accepted, keys, spelled, apart⟩

/-- The keys are the texts of the paths to leaves below the root. -/
theorem mem_keys_iff_of_ofDocument (accepted : ofDocument document = .ok flat) :
    key ∈ flat.keys ↔ ∃ path value, path ≠ [] ∧
      Path.get? document path = some value ∧ value.isLeaf = true ∧ key = Path.render path := by
  rw [keys, Entries.keys, List.mem_map]
  constructor
  · rintro ⟨entry, mem, rfl⟩
    obtain ⟨path, below, leads, leaf, same⟩ := (mem_entries_iff accepted).1 mem
    exact ⟨path, entry.2, below, leads, leaf, same⟩
  · rintro ⟨path, value, below, leads, leaf, rfl⟩
    exact ⟨_, (mem_entries_iff accepted).2 ⟨path, below, leads, leaf, rfl⟩, rfl⟩

/-- An item of an array that a path leads to. -/
theorem get?_item {steps : Path} {items : List Json}
    (leads : Path.get? document steps = some (.arr items)) (n : Nat) :
    Path.get? document (steps ++ [.index n]) = items[n]? := by
  rw [Path.get?_append, leads, Option.bind_some, Path.get?_item]

/-- Where a path leads to that ends with an index, an array is one step up. -/
theorem exists_array_of_get?_concat {steps : Path} {n : Nat} {value : Json}
    (leads : Path.get? document (steps ++ [.index n]) = some value) :
    ∃ items, Path.get? document steps = some (.arr items) ∧ items[n]? = some value := by
  have whole := leads
  rw [Path.get?_append, Option.bind_eq_some_iff] at whole
  obtain ⟨node, up, last⟩ := whole
  cases node with
  | arr items => exact ⟨items, up, get?_item up n ▸ leads⟩
  | _ => cases last

/-- The elements that a key addresses are the leaves among the items of the arrays whose paths it is
short for. -/
theorem mem_elementsMatching_iff (accepted : ofDocument document = .ok flat) {e : Element} :
    e ∈ flat.elementsMatching key ↔ ∃ steps n items item,
      Path.get? document steps = some (.arr items) ∧ items[n]? = some item ∧ item.isLeaf = true ∧
      endsAt key.toList (Path.render steps).toList = true ∧
      e = ⟨Path.render steps, n, Path.appendIndex (Path.render steps) n⟩ := by
  obtain ⟨addressable, -⟩ := ofDocument_eq_ok accepted
  rw [elementsMatching, List.mem_filter, List.mem_filterMap]
  constructor
  · rintro ⟨⟨text, mem, found⟩, short⟩
    obtain ⟨path, value, below, leads, leaf, rfl⟩ :=
      (mem_keys_iff_of_ofDocument accepted).1 mem
    obtain ⟨steps, last, rfl⟩ := (List.eq_nil_or_concat path).resolve_left below
    rw [List.concat_eq_append] at leads found
    rw [Path.render_concat] at found
    cases last with
    | name s =>
      have named : (Step.name s).Addressable := addressable_of_get? addressable leads _ (by simp)
      rw [Path.append, element?_appendName _ named] at found
      cases found
    | index n =>
      rw [Path.append, element?_appendIndex] at found
      obtain rfl := Option.some.inj found
      obtain ⟨items, up, item⟩ := exists_array_of_get?_concat leads
      exact ⟨steps, n, items, value, up, item, leaf, short, rfl⟩
  · rintro ⟨steps, n, items, item, leads, found, leaf, short, rfl⟩
    refine ⟨⟨Path.render (steps ++ [.index n]), ?_, ?_⟩, short⟩
    · exact (mem_keys_iff_of_ofDocument accepted).2
        ⟨_, item, by simp, (get?_item leads n).trans found, leaf, rfl⟩
    · rw [Path.render_concat, Path.append, element?_appendIndex]

end Flattened

end ConfigTemplate.Flat
