import ConfigTemplate.Proofs.Json.Leaves

/-!
# Values that are alike

Two values are alike when they have the same containers and the same scalars and each string of one
stands in a given relation to the string in its place in the other. `mapLeaves` replaces the leaves
of a value and touches nothing else, so replacing leaves by leaves alike gives a value alike.
-/

namespace ConfigTemplate.Json

mutual

/-- A value with its leaves replaced, each in the light of its path. -/
def mapLeaves (f : Path → Json → Json) : Json → Json
  | arr [] => f [] (arr [])
  | obj [] => f [] (obj [])
  | arr items => arr (mapItems f 0 items)
  | obj members => obj (mapMembers f members)
  | scalar => f [] scalar

/-- The items of an array from an index on with their leaves replaced. -/
def mapItems (f : Path → Json → Json) (index : Nat) : List Json → List Json
  | [] => []
  | item :: rest =>
    mapLeaves (fun path => f (.index index :: path)) item :: mapItems f (index + 1) rest

/-- The members of an object with their leaves replaced. -/
def mapMembers (f : Path → Json → Json) : List (String × Json) → List (String × Json)
  | [] => []
  | (key, value) :: rest =>
    (key, mapLeaves (fun path => f (.name key :: path)) value) :: mapMembers f rest

end

mutual

/-- Whether two values have the same containers with the same keys and the same scalars, and
strings of which each stands in a relation to the one in its place. -/
def Alike (r : String → String → Prop) : Json → Json → Prop
  | str a, str b => r a b
  | arr as, arr bs => ItemsAlike r as bs
  | obj as, obj bs => MembersAlike r as bs
  | a, b => a = b

/-- Whether two lists of values are alike item by item. -/
def ItemsAlike (r : String → String → Prop) : List Json → List Json → Prop
  | [], [] => True
  | a :: as, b :: bs => Alike r a b ∧ ItemsAlike r as bs
  | _, _ => False

/-- Whether two lists of members have the same keys in the same order and values alike. -/
def MembersAlike (r : String → String → Prop) :
    List (String × Json) → List (String × Json) → Prop
  | [], [] => True
  | (k, a) :: as, (l, b) :: bs => k = l ∧ Alike r a b ∧ MembersAlike r as bs
  | _, _ => False

end

mutual

/-- The leaves of a value whose leaves were replaced by other leaves. -/
theorem leafPaths_mapLeaves (f : Path → Json → Json) : ∀ value : Json,
    (∀ leaf ∈ value.leafPaths, (f leaf.1 leaf.2).isLeaf = true) →
    (value.mapLeaves f).leafPaths = value.leafPaths.map fun leaf => (leaf.1, f leaf.1 leaf.2)
  | arr (item :: rest), h => by
    have replaced := itemLeafPaths_mapItems f 0 (item :: rest) h
    rwa [mapItems] at replaced
  | obj ((key, value) :: rest), h => by
    have replaced := memberLeafPaths_mapMembers f ((key, value) :: rest) h
    rwa [mapMembers] at replaced
  | arr [], h | obj [], h | null, h | bool _, h | int _, h | float _, h | str _, h => by
    simp only [leafPaths, List.mem_singleton, forall_eq] at h
    simp [mapLeaves, leafPaths_of_isLeaf h, leafPaths]

theorem itemLeafPaths_mapItems (f : Path → Json → Json) : ∀ (index : Nat) (items : List Json),
    (∀ leaf ∈ itemLeafPaths index items, (f leaf.1 leaf.2).isLeaf = true) →
    itemLeafPaths index (mapItems f index items) =
      (itemLeafPaths index items).map fun leaf => (leaf.1, f leaf.1 leaf.2)
  | _, [], _ => rfl
  | index, item :: rest, h => by
    simp only [itemLeafPaths, List.forall_mem_append, List.forall_mem_map] at h
    simp only [mapItems, itemLeafPaths, List.map_append, List.map_map]
    rw [leafPaths_mapLeaves (fun path => f (.index index :: path)) item h.1,
      itemLeafPaths_mapItems f (index + 1) rest h.2, List.map_map]
    rfl

theorem memberLeafPaths_mapMembers (f : Path → Json → Json) :
    ∀ members : List (String × Json),
    (∀ leaf ∈ memberLeafPaths members, (f leaf.1 leaf.2).isLeaf = true) →
    memberLeafPaths (mapMembers f members) =
      (memberLeafPaths members).map fun leaf => (leaf.1, f leaf.1 leaf.2)
  | [], _ => rfl
  | (key, value) :: rest, h => by
    simp only [memberLeafPaths, List.forall_mem_append, List.forall_mem_map] at h
    simp only [mapMembers, memberLeafPaths, List.map_append, List.map_map]
    rw [leafPaths_mapLeaves (fun path => f (.name key :: path)) value h.1,
      memberLeafPaths_mapMembers f rest h.2, List.map_map]
    rfl

end

mutual

/-- Replacing leaves by leaves alike gives a value alike. -/
theorem alike_mapLeaves {r : String → String → Prop} (f : Path → Json → Json) : ∀ value : Json,
    (∀ leaf ∈ value.leafPaths, Alike r leaf.2 (f leaf.1 leaf.2)) → Alike r value (value.mapLeaves f)
  | arr (item :: rest), h => itemsAlike_mapItems f 0 (item :: rest) h
  | obj ((key, value) :: rest), h => membersAlike_mapMembers f ((key, value) :: rest) h
  | arr [], h | obj [], h | null, h | bool _, h | int _, h | float _, h | str _, h => by
    simpa [leafPaths, mapLeaves] using h

theorem itemsAlike_mapItems {r : String → String → Prop} (f : Path → Json → Json) :
    ∀ (index : Nat) (items : List Json),
    (∀ leaf ∈ itemLeafPaths index items, Alike r leaf.2 (f leaf.1 leaf.2)) →
    ItemsAlike r items (mapItems f index items)
  | _, [], _ => trivial
  | index, item :: rest, h => by
    simp only [itemLeafPaths, List.forall_mem_append, List.forall_mem_map] at h
    exact ⟨alike_mapLeaves _ item h.1, itemsAlike_mapItems f (index + 1) rest h.2⟩

theorem membersAlike_mapMembers {r : String → String → Prop} (f : Path → Json → Json) :
    ∀ members : List (String × Json),
    (∀ leaf ∈ memberLeafPaths members, Alike r leaf.2 (f leaf.1 leaf.2)) →
    MembersAlike r members (mapMembers f members)
  | [], _ => trivial
  | (key, value) :: rest, h => by
    simp only [memberLeafPaths, List.forall_mem_append, List.forall_mem_map] at h
    exact ⟨rfl, alike_mapLeaves _ value h.1, membersAlike_mapMembers f rest h.2⟩

end

theorem keys_mapMembers (f : Path → Json → Json) (members : List (String × Json)) :
    Entries.keys (mapMembers f members) = Entries.keys members := by
  induction members with
  | nil => rfl
  | cons member rest ih => rw [mapMembers, Entries.keys_cons, Entries.keys_cons, ih]

mutual

theorem keysDistinct_mapLeaves (f : Path → Json → Json) : ∀ value : Json,
    (∀ leaf ∈ value.leafPaths, (f leaf.1 leaf.2).isLeaf = true) →
    value.KeysDistinct → (value.mapLeaves f).KeysDistinct
  | arr (item :: rest), h, distinct => itemsKeysDistinct_mapItems f 0 (item :: rest) h distinct
  | obj ((key, value) :: rest), h, distinct =>
    ⟨by rw [keys_mapMembers]; exact distinct.1,
      membersKeysDistinct_mapMembers f ((key, value) :: rest) h distinct.2⟩
  | arr [], h, _ | obj [], h, _ | null, h, _ | bool _, h, _ | int _, h, _ | float _, h, _
  | str _, h, _ => by
    simp only [leafPaths, List.mem_singleton, forall_eq] at h
    exact keysDistinct_of_isLeaf h

theorem itemsKeysDistinct_mapItems (f : Path → Json → Json) : ∀ (index : Nat) (items : List Json),
    (∀ leaf ∈ itemLeafPaths index items, (f leaf.1 leaf.2).isLeaf = true) →
    ItemsKeysDistinct items → ItemsKeysDistinct (mapItems f index items)
  | _, [], _, _ => trivial
  | index, item :: rest, h, distinct => by
    simp only [itemLeafPaths, List.forall_mem_append, List.forall_mem_map] at h
    exact ⟨keysDistinct_mapLeaves _ item h.1 distinct.1,
      itemsKeysDistinct_mapItems f (index + 1) rest h.2 distinct.2⟩

theorem membersKeysDistinct_mapMembers (f : Path → Json → Json) :
    ∀ members : List (String × Json),
    (∀ leaf ∈ memberLeafPaths members, (f leaf.1 leaf.2).isLeaf = true) →
    MembersKeysDistinct members → MembersKeysDistinct (mapMembers f members)
  | [], _, _ => trivial
  | (key, value) :: rest, h, distinct => by
    simp only [memberLeafPaths, List.forall_mem_append, List.forall_mem_map] at h
    exact ⟨keysDistinct_mapLeaves _ value h.1 distinct.1,
      membersKeysDistinct_mapMembers f rest h.2 distinct.2⟩

end

end ConfigTemplate.Json
