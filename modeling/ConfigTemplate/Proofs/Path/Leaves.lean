import ConfigTemplate.Path.Assign
import ConfigTemplate.Proofs.Entries
import ConfigTemplate.Proofs.Json.Leaves

/-!
# Walking to a leaf

Where the keys of each object are distinct, the path of a leaf leads to that leaf. What a path leads
to has its own leaves among those of the whole, each at the path put together. The leaves are listed
in document order: where the paths of two of them part, the one in front goes on with the earlier
item or member.
-/

namespace ConfigTemplate.Path

theorem get?_index {items : List Json} {n : Nat} {item : Json} (h : items[n]? = some item)
    (rest : Path) : get? (.arr items) (.index n :: rest) = get? item rest := by
  rw [get?, h]

theorem get?_name {members : List (String × Json)} {key : String} {value : Json}
    (h : Entries.get? key members = some value) (rest : Path) :
    get? (.obj members) (.name key :: rest) = get? value rest := by
  rw [get?, h]

theorem get?_item (items : List Json) (n : Nat) : get? (.arr items) [.index n] = items[n]? := by
  rw [get?]
  cases items[n]? <;> simp

theorem get?_member (members : List (String × Json)) (key : String) :
    get? (.obj members) [.name key] = Entries.get? key members := by
  rw [get?]
  cases Entries.get? key members <;> simp

theorem get?_append (node : Json) (path rest : Path) :
    get? node (path ++ rest) = (get? node path).bind (get? · rest) := by
  fun_induction get? node path with
  | case1 => rfl
  | case2 items i path item found ih => rw [List.cons_append, get?_index found, ih]
  | case3 items i path missing => rw [List.cons_append, get?, missing, Option.bind_none]
  | case4 members s path value found ih => rw [List.cons_append, get?_name found, ih]
  | case5 members s path missing => rw [List.cons_append, get?, missing, Option.bind_none]
  | case6 path node notNil notIndex notName =>
    cases path with
    | nil => exact absurd rfl notNil
    | cons step path => rw [List.cons_append, get?, Option.bind_none] <;> simp_all

/-- The path of a leaf leads to it. -/
theorem get?_of_mem_leafPaths (value : Json) (distinct : value.KeysDistinct) (leaf : Path × Json)
    (mem : leaf ∈ value.leafPaths) : get? value leaf.1 = some leaf.2 := by
  obtain ⟨path, scalar⟩ := leaf
  induction path generalizing value with
  | nil =>
    obtain ⟨_, same⟩ | ⟨_, _, _, _, _, _, _, same⟩ | ⟨_, _, _, _, _, _, _, same⟩ :=
      Json.leafPaths_cases mem
    · cases same
      exact get?_nil _
    · cases same
    · cases same
  | cons step rest ih =>
    obtain ⟨_, same⟩ | ⟨items, n, item, inner, rfl, found, inside, same⟩ |
      ⟨members, key, child, inner, rfl, found, inside, same⟩ := Json.leafPaths_cases mem
    · cases same
    · cases same
      rw [get?_index found]
      exact ih item (Json.itemsKeysDistinct_iff.1 distinct item (List.mem_of_getElem? found)) inside
    · cases same
      rw [get?_name (Entries.get?_of_mem distinct.1 found)]
      exact ih child (Json.membersKeysDistinct_iff.1 distinct.2 _ found) inside

/-! ### The leaves of what a path leads to -/

theorem mem_itemLeafPaths_of_getElem? {items : List Json} {n : Nat} {item : Json}
    (found : items[n]? = some item) {leaf : Path × Json} (mem : leaf ∈ item.leafPaths)
    (index : Nat) :
    Json.under (.index (index + n)) leaf ∈ Json.itemLeafPaths index items := by
  induction items generalizing index n with
  | nil => cases found
  | cons first rest ih =>
    rw [Json.itemLeafPaths, List.mem_append]
    cases n with
    | zero =>
      obtain rfl := Option.some.inj found
      exact .inl (List.mem_map_of_mem mem)
    | succ n =>
      have later := ih found (index + 1)
      rw [Nat.add_right_comm] at later
      exact .inr later

theorem mem_memberLeafPaths_of_get? {members : List (String × Json)} {key : String} {value : Json}
    (found : Entries.get? key members = some value) {leaf : Path × Json}
    (mem : leaf ∈ value.leafPaths) :
    Json.under (.name key) leaf ∈ Json.memberLeafPaths members := by
  fun_induction Entries.get? key members with
  | case1 => cases found
  | case2 v rest =>
    obtain rfl := Option.some.inj found
    exact List.mem_append_left _ (List.mem_map_of_mem mem)
  | case3 k v rest _ ih => exact List.mem_append_right _ (ih found)

/-- The leaves of what a path leads to are leaves of the whole, at the path put together. -/
theorem mem_leafPaths_of_get? {value node : Json} {path : Path}
    (leads : get? value path = some node) {leaf : Path × Json} (mem : leaf ∈ node.leafPaths) :
    (path ++ leaf.1, leaf.2) ∈ value.leafPaths := by
  fun_induction get? value path with
  | case1 =>
    obtain rfl := Option.some.inj leads
    exact mem
  | case2 items i path item found ih =>
    have inside := mem_itemLeafPaths_of_getElem? found (ih leads) 0
    rw [Nat.zero_add] at inside
    cases items with
    | nil => cases found
    | cons first rest => exact inside
  | case3 => cases leads
  | case4 members s path value found ih =>
    have inside := mem_memberLeafPaths_of_get? found (ih leads)
    cases members with
    | nil => cases found
    | cons first rest => exact inside
  | case5 => cases leads
  | case6 => cases leads

/-! ### Document order -/

/-- Whether one step of a container comes before another: items by their index, members as they are
stored. -/
def StepsBefore : Json → Step → Step → Prop
  | .arr _, .index m, .index n => m < n
  | .obj members, .name s, .name t => [s, t].Sublist (Entries.keys members)
  | _, _, _ => False

/-- Whether one path comes before another in document order: where they part, it goes on with an
earlier item or member. -/
def Precedes (document : Json) (path other : Path) : Prop :=
  ∃ front node step rest step' rest', get? document front = some node ∧
    StepsBefore node step step' ∧ path = front ++ step :: rest ∧ other = front ++ step' :: rest'

/-- Paths are in order in the whole as they are in a part of it. -/
theorem Precedes.cons {value child : Json} {step : Step} {path other : Path}
    (leads : ∀ rest, get? value (step :: rest) = get? child rest) (h : Precedes child path other) :
    Precedes value (step :: path) (step :: other) := by
  obtain ⟨front, node, first, rest, second, rest', here, before, rfl, rfl⟩ := h
  have inside : get? value (step :: front) = some node := (leads front).trans here
  exact ⟨step :: front, node, first, rest, second, rest', inside, before, rfl, rfl⟩

theorem precedes_of_stepsBefore {value : Json} {step other : Step}
    (before : StepsBefore value step other) (rest rest' : Path) :
    Precedes value (step :: rest) (other :: rest') :=
  ⟨[], value, step, rest, other, rest', get?_nil value, before, rfl, rfl⟩

/-- The leaves of the parts of a value are in order when the leaves of each part are and when the
parts are. -/
theorem pairwise_under {value child : Json} {step : Step}
    (leads : ∀ rest, get? value (step :: rest) = get? child rest)
    {leaves others : List (Path × Json)}
    (inside : leaves.Pairwise fun leaf other => Precedes child leaf.1 other.1)
    (behind : ∀ leaf ∈ others, ∃ other rest, leaf.1 = other :: rest ∧ StepsBefore value step other)
    (outside : others.Pairwise fun leaf other => Precedes value leaf.1 other.1) :
    (leaves.map (Json.under step) ++ others).Pairwise fun leaf other =>
      Precedes value leaf.1 other.1 := by
  rw [List.pairwise_append, List.pairwise_map]
  refine ⟨inside.imp fun h => h.cons leads, outside, ?_⟩
  intro leaf first other later
  obtain ⟨inner, -, rfl⟩ := List.mem_map.1 first
  obtain ⟨step', rest, same, before⟩ := behind other later
  rw [same]
  exact precedes_of_stepsBefore before inner.1 rest

mutual

/-- The leaves of a value are listed in document order. -/
theorem pairwise_leafPaths : ∀ value : Json, value.KeysDistinct →
    value.leafPaths.Pairwise fun leaf other => Precedes value leaf.1 other.1
  | .arr (item :: rest), h => pairwise_itemLeafPaths [] (item :: rest) h
  | .obj ((key, value) :: rest), h => pairwise_memberLeafPaths [] ((key, value) :: rest) h.1 h.2
  | .arr [], _ | .obj [], _ | .null, _ | .bool _, _ | .int _, _ | .float _, _ | .str _, _ =>
    List.pairwise_singleton _ _

theorem pairwise_itemLeafPaths : ∀ done items : List Json, Json.ItemsKeysDistinct items →
    (Json.itemLeafPaths done.length items).Pairwise fun leaf other =>
      Precedes (.arr (done ++ items)) leaf.1 other.1
  | _, [], _ => List.Pairwise.nil
  | done, item :: rest, h => by
    have others := pairwise_itemLeafPaths (done ++ [item]) rest h.2
    rw [List.length_append, List.append_assoc] at others
    have here : (done ++ item :: rest)[done.length]? = some item := by simp
    rw [Json.itemLeafPaths]
    apply pairwise_under (get?_index here) (pairwise_leafPaths item h.1) _ others
    intro leaf mem
    obtain ⟨n, _, inner, _, _, rfl⟩ := Json.exists_of_mem_itemLeafPaths mem
    refine ⟨_, inner.1, rfl, ?_⟩
    show done.length < done.length + 1 + n
    omega

theorem pairwise_memberLeafPaths : ∀ done members : List (String × Json),
    (Entries.keys (done ++ members)).Nodup → Json.MembersKeysDistinct members →
    (Json.memberLeafPaths members).Pairwise fun leaf other =>
      Precedes (.obj (done ++ members)) leaf.1 other.1
  | _, [], _, _ => List.Pairwise.nil
  | done, (key, value) :: rest, distinct, h => by
    have others := pairwise_memberLeafPaths (done ++ [(key, value)]) rest
      (by rwa [List.append_assoc, List.singleton_append]) h.2
    rw [List.append_assoc] at others
    have mem : (key, value) ∈ done ++ (key, value) :: rest := by simp
    have here := Entries.get?_of_mem distinct mem
    rw [Json.memberLeafPaths]
    apply pairwise_under (get?_name here) (pairwise_leafPaths value h.1) _ others
    intro leaf mem
    obtain ⟨name, _, inner, present, _, rfl⟩ := Json.exists_of_mem_memberLeafPaths mem
    refine ⟨_, inner.1, rfl, ?_⟩
    have later : [name].Sublist (Entries.keys rest) :=
      List.singleton_sublist.2 (List.mem_map_of_mem present)
    show [key, name].Sublist (Entries.keys (done ++ (key, value) :: rest))
    rw [Entries.keys_append, Entries.keys_cons]
    exact (later.cons_cons key).trans (List.sublist_append_right _ _)

end

end ConfigTemplate.Path
