import ConfigTemplate.Json.Basic
import ConfigTemplate.Path.Basic
import Mathlib.Data.List.Nodup

/-!
# The leaves of a value

A leaf is a scalar or an empty container. `leafPaths` lists the leaves of a value in document order
with the paths that lead to them. Every value has a leaf, and where the keys of each object are
distinct no two leaves have the same path.
-/

namespace ConfigTemplate.Json

/-- Whether a value is a leaf: a scalar or an empty container. -/
def isLeaf : Json → Bool
  | arr items => items.isEmpty
  | obj members => members.isEmpty
  | _ => true

/-- A leaf seen from one step further up. -/
def under (step : Step) (leaf : Path × Json) : Path × Json := (step :: leaf.1, leaf.2)

mutual

/-- The leaves of a value with their paths, in document order. -/
def leafPaths : Json → List (Path × Json)
  | arr [] => [([], arr [])]
  | obj [] => [([], obj [])]
  | arr items => itemLeafPaths 0 items
  | obj members => memberLeafPaths members
  | scalar => [([], scalar)]

/-- The leaves of the items of an array from an index on. -/
def itemLeafPaths (index : Nat) : List Json → List (Path × Json)
  | [] => []
  | item :: rest => (leafPaths item).map (under (.index index)) ++ itemLeafPaths (index + 1) rest

/-- The leaves of the members of an object. -/
def memberLeafPaths : List (String × Json) → List (Path × Json)
  | [] => []
  | (key, value) :: rest => (leafPaths value).map (under (.name key)) ++ memberLeafPaths rest

end

/-- The leaves of a document below its root. -/
def documentLeaves (document : Json) : List (Path × Json) :=
  document.leafPaths.filter fun leaf => !leaf.1.isEmpty

theorem leafPaths_of_isLeaf {value : Json} (h : value.isLeaf = true) :
    value.leafPaths = [([], value)] := by
  cases value with
  | arr items => cases items <;> simp_all [isLeaf, leafPaths]
  | obj members => cases members <;> simp_all [isLeaf, leafPaths]
  | _ => rfl

theorem isLeaf_of_not_isContainer {value : Json} (h : value.isContainer = false) :
    value.isLeaf = true := by
  cases value <;> first | rfl | cases h

theorem itemsKeysDistinct_iff {items : List Json} :
    ItemsKeysDistinct items ↔ ∀ item ∈ items, item.KeysDistinct := by
  induction items with
  | nil => simp [ItemsKeysDistinct]
  | cons item items ih => simp [ItemsKeysDistinct, ih]

theorem membersKeysDistinct_iff {members : List (String × Json)} :
    MembersKeysDistinct members ↔ ∀ member ∈ members, member.2.KeysDistinct := by
  induction members with
  | nil => simp [MembersKeysDistinct]
  | cons member members ih =>
    obtain ⟨key, value⟩ := member
    rw [MembersKeysDistinct, ih, List.forall_mem_cons]

theorem keysDistinct_of_isLeaf {value : Json} (h : value.isLeaf = true) : value.KeysDistinct := by
  cases value with
  | arr items => cases items <;> simp_all [isLeaf, KeysDistinct, ItemsKeysDistinct]
  | obj members =>
    cases members <;> simp_all [isLeaf, KeysDistinct, MembersKeysDistinct]
  | _ => trivial

mutual

/-- What a value's leaf paths lead to are leaves. -/
theorem isLeaf_of_mem_leafPaths : ∀ (value : Json), ∀ leaf ∈ value.leafPaths, leaf.2.isLeaf = true
  | arr (item :: rest) => isLeaf_of_mem_itemLeafPaths 0 (item :: rest)
  | obj ((key, value) :: rest) => isLeaf_of_mem_memberLeafPaths ((key, value) :: rest)
  | arr [] | obj [] | null | bool _ | int _ | float _ | str _ => by simp [leafPaths, isLeaf]

theorem isLeaf_of_mem_itemLeafPaths : ∀ (index : Nat) (items : List Json),
    ∀ leaf ∈ itemLeafPaths index items, leaf.2.isLeaf = true
  | _, [] => by simp [itemLeafPaths]
  | index, item :: rest => by
    simp only [itemLeafPaths, List.forall_mem_append, List.forall_mem_map]
    exact ⟨isLeaf_of_mem_leafPaths item, isLeaf_of_mem_itemLeafPaths (index + 1) rest⟩

theorem isLeaf_of_mem_memberLeafPaths : ∀ (members : List (String × Json)),
    ∀ leaf ∈ memberLeafPaths members, leaf.2.isLeaf = true
  | [] => by simp [memberLeafPaths]
  | (key, value) :: rest => by
    simp only [memberLeafPaths, List.forall_mem_append, List.forall_mem_map]
    exact ⟨isLeaf_of_mem_leafPaths value, isLeaf_of_mem_memberLeafPaths rest⟩

end

/-- Every value has a leaf. -/
theorem leafPaths_ne_nil : ∀ value : Json, value.leafPaths ≠ []
  | arr [] | obj [] | null | bool _ | int _ | float _ | str _ => by simp [leafPaths]
  | arr (item :: _) => by simp [leafPaths, itemLeafPaths, leafPaths_ne_nil item]
  | obj ((_, value) :: _) => by simp [leafPaths, memberLeafPaths, leafPaths_ne_nil value]

theorem exists_of_mem_itemLeafPaths {leaf : Path × Json} {index : Nat} {items : List Json}
    (mem : leaf ∈ itemLeafPaths index items) : ∃ n item inner, items[n]? = some item ∧
      inner ∈ item.leafPaths ∧ leaf = under (.index (index + n)) inner := by
  induction items generalizing index with
  | nil => cases mem
  | cons item items ih =>
    rw [itemLeafPaths, List.mem_append, List.mem_map] at mem
    obtain ⟨inner, mem, rfl⟩ | mem := mem
    · exact ⟨0, item, inner, rfl, mem, rfl⟩
    · obtain ⟨n, other, inner, found, inside, same⟩ := ih mem
      exact ⟨n + 1, other, inner, found, inside, by rw [same, Nat.add_right_comm, Nat.add_assoc]⟩

theorem exists_of_mem_memberLeafPaths {leaf : Path × Json} {members : List (String × Json)}
    (mem : leaf ∈ memberLeafPaths members) : ∃ key value inner, (key, value) ∈ members ∧
      inner ∈ value.leafPaths ∧ leaf = under (.name key) inner := by
  induction members with
  | nil => cases mem
  | cons member members ih =>
    obtain ⟨key, value⟩ := member
    rw [memberLeafPaths, List.mem_append, List.mem_map] at mem
    obtain ⟨inner, mem, rfl⟩ | mem := mem
    · exact ⟨key, value, inner, List.mem_cons_self, mem, rfl⟩
    · obtain ⟨other, child, inner, found, inside, same⟩ := ih mem
      exact ⟨other, child, inner, List.mem_cons_of_mem _ found, inside, same⟩

/-- A leaf of a value is the value, or is one of an item or of a member. -/
theorem leafPaths_cases {value : Json} {leaf : Path × Json} (mem : leaf ∈ value.leafPaths) :
    (value.isLeaf = true ∧ leaf = ([], value)) ∨
      (∃ items n item inner, value = arr items ∧ items[n]? = some item ∧
        inner ∈ item.leafPaths ∧ leaf = under (.index n) inner) ∨
      ∃ members key child inner, value = obj members ∧ (key, child) ∈ members ∧
        inner ∈ child.leafPaths ∧ leaf = under (.name key) inner := by
  cases isLeaf : value.isLeaf with
  | true =>
    rw [leafPaths_of_isLeaf isLeaf] at mem
    exact .inl ⟨rfl, List.mem_singleton.1 mem⟩
  | false =>
    match value, isLeaf with
    | arr (item :: items), _ =>
      obtain ⟨n, found, inner, here, inside, same⟩ := exists_of_mem_itemLeafPaths mem
      rw [Nat.zero_add] at same
      exact .inr (.inl ⟨_, n, found, inner, rfl, here, inside, same⟩)
    | obj (member :: members), _ =>
      obtain ⟨key, child, inner, here, inside, same⟩ := exists_of_mem_memberLeafPaths mem
      exact .inr (.inr ⟨_, key, child, inner, rfl, here, inside, same⟩)

theorem map_fst_map_under (step : Step) (leaves : List (Path × Json)) :
    (leaves.map (under step)).map Prod.fst = (leaves.map Prod.fst).map (step :: ·) := by
  simp [under, Function.comp_def]

mutual

/-- The paths to the leaves of a value are distinct. -/
theorem nodup_leafPaths : ∀ value : Json, value.KeysDistinct →
    (value.leafPaths.map Prod.fst).Nodup
  | arr (item :: rest), h => nodup_itemLeafPaths 0 (item :: rest) h
  | obj ((key, value) :: rest), h => nodup_memberLeafPaths ((key, value) :: rest) h.1 h.2
  | arr [], _ | obj [], _ | null, _ | bool _, _ | int _, _ | float _, _ | str _, _ => by
    simp [leafPaths]

theorem nodup_itemLeafPaths : ∀ (index : Nat) (items : List Json), ItemsKeysDistinct items →
    ((itemLeafPaths index items).map Prod.fst).Nodup
  | _, [], _ => by simp [itemLeafPaths]
  | index, item :: rest, h => by
    rw [itemLeafPaths, List.map_append, map_fst_map_under, List.nodup_append]
    refine ⟨(nodup_leafPaths item h.1).map List.cons_injective,
      nodup_itemLeafPaths (index + 1) rest h.2, ?_⟩
    intro path first other others same
    obtain ⟨tail, _, rfl⟩ := List.mem_map.1 first
    obtain ⟨leaf, mem, rfl⟩ := List.mem_map.1 others
    obtain ⟨n, _, inner, _, _, rfl⟩ := exists_of_mem_itemLeafPaths mem
    simp only [under, List.cons.injEq, Step.index.injEq] at same
    omega

theorem nodup_memberLeafPaths : ∀ members : List (String × Json), (Entries.keys members).Nodup →
    MembersKeysDistinct members → ((memberLeafPaths members).map Prod.fst).Nodup
  | [], _, _ => by simp [memberLeafPaths]
  | (key, value) :: rest, distinct, h => by
    rw [Entries.keys_cons, List.nodup_cons] at distinct
    rw [memberLeafPaths, List.map_append, map_fst_map_under, List.nodup_append]
    refine ⟨(nodup_leafPaths value h.1).map List.cons_injective,
      nodup_memberLeafPaths rest distinct.2 h.2, ?_⟩
    intro path first other others same
    obtain ⟨tail, _, rfl⟩ := List.mem_map.1 first
    obtain ⟨leaf, mem, rfl⟩ := List.mem_map.1 others
    obtain ⟨name, _, inner, present, _, rfl⟩ := exists_of_mem_memberLeafPaths mem
    cases same
    exact distinct.1 (List.mem_map_of_mem present)

end

end ConfigTemplate.Json
