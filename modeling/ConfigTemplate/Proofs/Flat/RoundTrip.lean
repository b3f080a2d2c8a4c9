import ConfigTemplate.Proofs.Flat.Leaves
import ConfigTemplate.Proofs.Path.Assign

/-!
# Rebuilding a flattened document

Writing the leaves of a document in order gives the document back. Each item of an array and each
member of an object is written as a whole before the next one, so at any moment one place of the
container is being filled: a `Slot`. The first leaf below a slot creates what stands in it, and the
others go on in there.
-/

namespace ConfigTemplate

namespace Path

/-- Where a node lies matters to the wording of faults only. -/
theorem assignBelow_place {value node result : Json} {place : Path} (other : Path) {path : Path}
    (h : assignBelow value place node path = .ok result) :
    assignBelow value other node path = .ok result := by
  cases path with
  | nil => exact h
  | cons step rest =>
    rw [assignBelow_eq_ok_iff (List.cons_ne_nil step rest)] at h ⊢
    exact h

/-- A write leaves a container. -/
theorem isContainer_of_assign {root value result : Json} {step : Step} {rest : Path}
    (h : assign root (step :: rest) value = .ok result) : result.isContainer = true := by
  have written : Written value ([] ++ step :: rest) root result :=
    (assignBelow_eq_ok_iff (List.cons_ne_nil step rest)).1 h
  obtain ⟨found, here, takes⟩ := written.exists_takes
  rw [get?_nil, Option.some.injEq] at here
  exact here ▸ takes.isContainer

/-- A step from a node to a place in which nothing stands yet. `filled` is the node with a value
there. -/
structure Slot (node : Json) (step : Step) (filled : Json → Json) : Prop where
  /-- A value is stored there. -/
  store (value : Json) : assign node [step] value = .ok (filled value)
  /-- A longer path begins a container there. -/
  create {next : Step} {rest : Path} {value child : Json} :
    assign next.emptyContainer (next :: rest) value = .ok child →
      assign node (step :: next :: rest) value = .ok (filled child)
  /-- A longer path goes on into the container that stands there. -/
  enter {next : Step} {rest : Path} {value old child : Json} : old.isContainer = true →
    assign old (next :: rest) value = .ok child →
      assign (filled old) (step :: next :: rest) value = .ok (filled child)

theorem storeItem_length (items : List Json) (value : Json) :
    storeItem items items.length value = items ++ [value] := by
  simp [storeItem, padded]

theorem storeItem_concat (items : List Json) (old value : Json) :
    storeItem (items ++ [old]) items.length value = items ++ [value] := by
  simp [storeItem, padded]

theorem item?_concat {old : Json} (h : old.isContainer = true) (items : List Json) :
    item? (items ++ [old]) items.length = some old := by
  have notNull : (items ++ [old])[items.length]? ≠ some .null := by
    rw [List.getElem?_concat_length]
    rintro ⟨⟩
    cases h
  rw [item?_of_ne_null notNull, List.getElem?_concat_length]

/-- The place after the last item of an array is a slot. -/
theorem slot_index (items : List Json) :
    Slot (.arr items) (.index items.length) fun value => .arr (items ++ [value]) where
  store value := by rw [assign, assignBelow, storeItem_length]
  create h := by
    have vacant : item? items items.length = none := by simp [item?]
    rw [assign, assignBelow_index, vacant, Option.getD_none, assignBelow_place _ h, Except.map,
      storeItem_length]
  enter container h := by
    rw [assign, assignBelow_index, item?_concat container, Option.getD_some,
      assignBelow_place _ h, Except.map, storeItem_concat]

/-- A key that an object does not have is a slot. -/
theorem slot_name {members : List (String × Json)} {key : String}
    (fresh : key ∉ Entries.keys members) :
    Slot (.obj members) (.name key) fun value => .obj (members ++ [(key, value)]) where
  store value := by rw [assign, assignBelow, Entries.put_of_not_mem fresh]
  create h := by
    rw [assign, assignBelow_name, Entries.get?_of_not_mem fresh, Option.getD_none,
      assignBelow_place _ h, Except.map, Entries.put_of_not_mem fresh]
  enter _ h := by
    have present {old : Json} : Entries.get? key (members ++ [(key, old)]) = some old := by
      rw [Entries.get?_append_of_not_mem fresh, Entries.get?, if_pos rfl]
    rw [assign, assignBelow_name, present, Option.getD_some, assignBelow_place _ h, Except.map,
      Entries.put_append_of_not_mem fresh, Entries.put, if_pos rfl]

end Path

namespace Flat

open Json (under)
open ConfigTemplate.Path (Slot)

theorem assignAll_append_eq (root : Json) (first others : List (Path × Json)) :
    assignAll root (first ++ others) =
      (assignAll root first).bind fun middle => assignAll middle others := by
  induction first generalizing root with
  | nil => rfl
  | cons pair rest ih =>
    obtain ⟨path, value⟩ := pair
    rw [List.cons_append, assignAll, assignAll]
    cases Path.assign root path value with
    | error fault => rfl
    | ok next => exact ih next

theorem assignAll_append {root middle : Json} {first : List (Path × Json)}
    (h : assignAll root first = .ok middle) (others : List (Path × Json)) :
    assignAll root (first ++ others) = assignAll middle others := by
  rw [assignAll_append_eq, h]
  rfl

/-- What is written below the container in a slot is written in the slot. -/
theorem assignAll_filled {node : Json} {step : Step} {filled : Json → Json}
    (slot : Slot node step filled) {leaves : List (Path × Json)} {old result : Json}
    (container : old.isContainer = true) (below : ∀ leaf ∈ leaves, leaf.1 ≠ [])
    (h : assignAll old leaves = .ok result) :
    assignAll (filled old) (leaves.map (under step)) = .ok (filled result) := by
  induction leaves generalizing old with
  | nil => cases h; rfl
  | cons leaf rest ih =>
    obtain ⟨path, value⟩ := leaf
    cases path with
    | nil => exact absurd rfl (below _ List.mem_cons_self)
    | cons next path =>
      simp only [assignAll, List.map_cons, under] at h ⊢
      cases written : Path.assign old (next :: path) value with
      | error fault => simp [written] at h
      | ok child =>
        simp only [written] at h
        simp only [slot.enter container written]
        exact ih (Path.isContainer_of_assign written)
          (fun leaf mem => below leaf (List.mem_cons_of_mem _ mem)) h

/-- An empty container of a value's kind. -/
def emptied : Json → Json
  | .arr _ => .arr []
  | _ => .obj []

theorem isContainer_emptied (value : Json) : (emptied value).isContainer = true := by
  cases value <;> rfl

/-- The leaves of a container that is not empty lie below it, and the first step to each is of the
container's kind. -/
theorem emptyContainer_of_mem_leafPaths {value : Json} (h : value.isLeaf = false)
    {leaf : Path × Json} (mem : leaf ∈ value.leafPaths) :
    ∃ step rest, leaf.1 = step :: rest ∧ step.emptyContainer = emptied value := by
  obtain ⟨isLeaf, _⟩ | ⟨_, n, _, inner, rfl, _, _, rfl⟩ | ⟨_, key, _, inner, rfl, _, _, rfl⟩ :=
    Json.leafPaths_cases mem
  · rw [h] at isLeaf
    cases isLeaf
  · exact ⟨.index n, inner.1, rfl, rfl⟩
  · exact ⟨.name key, inner.1, rfl, rfl⟩

/-- A value whose leaves rebuild it fills a slot by its leaves. -/
theorem assignAll_slot {node : Json} {step : Step} {filled : Json → Json}
    (slot : Slot node step filled) {value : Json}
    (rebuilds : value.isLeaf = false → assignAll (emptied value) value.leafPaths = .ok value) :
    assignAll node (value.leafPaths.map (under step)) = .ok (filled value) := by
  cases leaf : value.isLeaf with
  | true =>
    rw [Json.leafPaths_of_isLeaf leaf]
    simp [assignAll, under, slot.store]
  | false =>
    have rebuilt := rebuilds leaf
    have below : ∀ found ∈ value.leafPaths, found.1 ≠ [] := by
      intro found mem
      obtain ⟨next, rest, path, _⟩ := emptyContainer_of_mem_leafPaths leaf mem
      simp [path]
    cases hl : value.leafPaths with
    | nil => exact absurd hl value.leafPaths_ne_nil
    | cons first others =>
      rw [hl] at rebuilt below
      obtain ⟨next, rest, path, kind⟩ := emptyContainer_of_mem_leafPaths leaf
        (hl ▸ List.mem_cons_self : first ∈ value.leafPaths)
      obtain ⟨steps, scalar⟩ := first
      obtain rfl : steps = next :: rest := path
      simp only [assignAll, List.map_cons, under] at rebuilt ⊢
      rw [← kind] at rebuilt
      cases written : Path.assign next.emptyContainer (next :: rest) scalar with
      | error fault => simp [written] at rebuilt
      | ok child =>
        simp only [written] at rebuilt
        simp only [slot.create written]
        exact assignAll_filled slot (Path.isContainer_of_assign written)
          (fun found mem => below found (List.mem_cons_of_mem _ mem)) rebuilt

mutual

/-- The leaves of a container rebuild it from an empty one. -/
theorem assignAll_leafPaths : ∀ value : Json, value.KeysDistinct → value.isLeaf = false →
    assignAll (emptied value) value.leafPaths = .ok value
  | .arr (item :: rest), h, _ => assignAll_itemLeafPaths [] (item :: rest) h
  | .obj ((key, value) :: rest), h, _ =>
    assignAll_memberLeafPaths [] ((key, value) :: rest) h.1 h.2
  | .arr [], _, h | .obj [], _, h | .null, _, h | .bool _, _, h | .int _, _, h | .float _, _, h
  | .str _, _, h => nomatch h

theorem assignAll_itemLeafPaths : ∀ done items : List Json, Json.ItemsKeysDistinct items →
    assignAll (.arr done) (Json.itemLeafPaths done.length items) = .ok (.arr (done ++ items))
  | done, [], _ => by simp [Json.itemLeafPaths, assignAll]
  | done, item :: rest, h => by
    have written := assignAll_slot (Path.slot_index done) (assignAll_leafPaths item h.1)
    rw [Json.itemLeafPaths, assignAll_append written]
    have others := assignAll_itemLeafPaths (done ++ [item]) rest h.2
    rwa [List.length_append, List.append_assoc] at others

theorem assignAll_memberLeafPaths : ∀ done members : List (String × Json),
    (Entries.keys (done ++ members)).Nodup → Json.MembersKeysDistinct members →
    assignAll (.obj done) (Json.memberLeafPaths members) = .ok (.obj (done ++ members))
  | done, [], _, _ => by simp [Json.memberLeafPaths, assignAll]
  | done, (key, value) :: rest, distinct, h => by
    have fresh : key ∉ Entries.keys done := by
      intro mem
      rw [Entries.keys_append, Entries.keys_cons, List.nodup_append] at distinct
      exact distinct.2.2 key mem key List.mem_cons_self rfl
    have written := assignAll_slot (Path.slot_name fresh) (assignAll_leafPaths value h.1)
    rw [Json.memberLeafPaths, assignAll_append written]
    have others := assignAll_memberLeafPaths (done ++ [(key, value)]) rest
      (by rwa [List.append_assoc, List.singleton_append]) h.2
    rwa [List.append_assoc] at others

end

/-- The root that leaves of a document call for is of the document's kind. -/
theorem initialRoot_of_leafPaths {document : Json} {kind : RootKind} {leaves : List (Path × Json)}
    (notLeaf : document.isLeaf = false) (nonempty : leaves ≠ [])
    (among : ∀ leaf ∈ leaves, leaf ∈ document.leafPaths) :
    initialRoot kind leaves = emptied document := by
  cases leaves with
  | nil => exact absurd rfl nonempty
  | cons first others =>
    obtain ⟨step, rest, path, same⟩ :=
      emptyContainer_of_mem_leafPaths notLeaf (among first List.mem_cons_self)
    obtain ⟨steps, value⟩ := first
    obtain rfl : steps = step :: rest := path
    rw [initialRoot, same]

/-- A flat document that lists the leaves of a document in order stands for that document. -/
theorem toDocument_of_entries {document : Document} {flat : Flat}
    (addressable : document.value.Addressable)
    (h : flat.entries = document.value.documentLeaves.map (Json.located "")) :
    flat.toDocument (.ofRoot document) = .ok document := by
  obtain ⟨document, container, distinct⟩ := document
  rw [toDocument, assignments_eq addressable h]
  dsimp only at addressable h ⊢
  cases leaf : document.isLeaf with
  | true =>
    rw [documentLeaves_of_isLeaf leaf]
    match document, container, leaf with
    | .arr [], _, _ | .obj [], _, _ => rfl
  | false =>
    have rebuilt := assignAll_leafPaths document distinct leaf
    rw [documentLeaves_of_not_isLeaf leaf]
    rw [initialRoot_of_leafPaths leaf document.leafPaths_ne_nil fun _ mem => mem]
    exact rebuilt

/-- Flattening loses nothing: the document is rebuilt from its flat form, with the same values in
the same places and the keys of its objects in the same order. -/
theorem toDocument_ofDocument {document : Document} {flat : Flat}
    (h : ofDocument document = .ok flat) :
    flat.toDocument (.ofRoot document) = .ok document := by
  obtain ⟨addressable, entries⟩ := ofDocument_eq_ok h
  exact toDocument_of_entries addressable entries

/-- Null items, empty containers and a name of digits come back. -/
theorem toDocument_ofDocument_nested :
    let document : Document :=
      ⟨.obj [("a", .arr [.null, .obj [("b", .obj [])], .arr []]), ("0", .arr [.arr [.int 1]])],
        rfl, by decide⟩
    ∃ flat, ofDocument document = .ok flat ∧ flat.toDocument .object = .ok document := by
  intro document
  obtain ⟨flat, accepted⟩ : ∃ flat, ofDocument document = .ok flat := ⟨_, rfl⟩
  exact ⟨flat, accepted, toDocument_ofDocument accepted⟩

end Flat

end ConfigTemplate
