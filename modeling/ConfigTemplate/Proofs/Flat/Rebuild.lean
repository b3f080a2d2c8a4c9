import ConfigTemplate.Proofs.Flat.RoundTrip
import ConfigTemplate.Proofs.Path.Leaves
import Mathlib.Data.List.Perm.Basic
import Mathlib.Data.Set.Insert

/-!
# Rebuilding in any order

The leaves of a document rebuild it in whatever order they are written. What has been rebuilt after
some of them, a value is `Rebuilt` at their paths, is fixed up to the order of members: an array
reaches as far as something was written in it and is padded with nulls, and an object has the keys
below which something was written. Writing one more leaf gives what is rebuilt at one more path, and
what is rebuilt at the paths of all leaves is the document.
-/

namespace ConfigTemplate

namespace Path

/-- The paths that go on behind a step, by what follows it. -/
def beyond (step : Step) (paths : Set Path) : Set Path := {rest | step :: rest ∈ paths}

variable {step other : Step} {rest : Path} {paths : Set Path}

theorem mem_beyond_iff : rest ∈ beyond step paths ↔ step :: rest ∈ paths := Iff.rfl

@[simp] theorem beyond_empty (step : Step) : beyond step ∅ = ∅ := rfl

theorem beyond_insert_self :
    beyond step (insert (step :: rest) paths) = insert rest (beyond step paths) := by
  ext path
  simp [mem_beyond_iff]

theorem beyond_insert_of_ne (h : other ≠ step) :
    beyond other (insert (step :: rest) paths) = beyond other paths := by
  ext path
  simp [mem_beyond_iff, h]

end Path

namespace Json

open ConfigTemplate.Path (beyond)

/-- Whether two values are equal up to the order of members: leaves are the same, arrays are equal
item by item, and objects have the same keys with equal values under each. -/
inductive Rearranged : Json → Json → Prop
  | leaf {value : Json} (leaf : value.isLeaf = true) : Rearranged value value
  | arr {items others : List Json} (length : items.length = others.length)
      (each : ∀ (n : Nat) item other, items[n]? = some item → others[n]? = some other →
        Rearranged item other) :
      Rearranged (.arr items) (.arr others)
  | obj {members others : List (String × Json)}
      (keys : (Entries.keys members).Perm (Entries.keys others))
      (each : ∀ key value other, Entries.get? key members = some value →
        Entries.get? key others = some other → Rearranged value other) :
      Rearranged (.obj members) (.obj others)

/-- Whether a node is what is rebuilt of a value once the leaves at some paths are written. -/
inductive Rebuilt : Set Path → Json → Json → Prop
  /-- A leaf is there when it was written. -/
  | leaf {written : Set Path} {value : Json} (leaf : value.isLeaf = true) (here : [] ∈ written) :
      Rebuilt written value value
  /-- An item in which nothing was written is padding. -/
  | padding {written : Set Path} {value : Json} (none : written = ∅) : Rebuilt written value .null
  | arr {written : Set Path} {items nodes : List Json} (short : nodes.length ≤ items.length)
      (reached : ∀ n, (beyond (.index n) written).Nonempty → n < nodes.length)
      (each : ∀ (n : Nat) item node, items[n]? = some item → nodes[n]? = some node →
        Rebuilt (beyond (.index n) written) item node) :
      Rebuilt written (.arr items) (.arr nodes)
  | obj {written : Set Path} {members nodes : List (String × Json)}
      (distinct : (Entries.keys nodes).Nodup)
      (known : ∀ key ∈ Entries.keys nodes, key ∈ Entries.keys members)
      (reached : ∀ key, key ∈ Entries.keys nodes ↔ (beyond (.name key) written).Nonempty)
      (each : ∀ key value node, Entries.get? key members = some value →
        Entries.get? key nodes = some node → Rebuilt (beyond (.name key) written) value node) :
      Rebuilt written (.obj members) (.obj nodes)

namespace Rebuilt

variable {written : Set Path} {value node element child : Json} {items nodes : List Json} {n : Nat}
variable {members fields : List (String × Json)} {key : String} {rest : Path}

/-- Of a container that is not empty nothing is rebuilt at first. -/
theorem start (notLeaf : value.isLeaf = false) : Rebuilt ∅ value (Flat.emptied value) := by
  match value, notLeaf with
  | .arr items, _ => exact .arr (Nat.zero_le _) (by simp) (by simp)
  | .obj members, _ => exact .obj (by simp) (by simp) (by simp) (by simp)

theorem eq_null_or_isContainer (h : Rebuilt written value node) (notLeaf : value.isLeaf = false) :
    written = ∅ ∧ node = .null ∨ node.isContainer = true := by
  cases h with
  | leaf leaf => exact absurd leaf (by simp [notLeaf])
  | padding none => exact .inl ⟨none, rfl⟩
  | arr => exact .inr rfl
  | obj => exact .inr rfl

theorem of_item (h : Rebuilt written (.arr items) (.arr nodes)) (found : items[n]? = some element) :
    nodes.length ≤ items.length ∧
      (∀ m, (beyond (.index m) written).Nonempty → m < nodes.length) ∧
      ∀ (m : Nat) item node, items[m]? = some item → nodes[m]? = some node →
        Rebuilt (beyond (.index m) written) item node := by
  cases h with
  | leaf leaf =>
    obtain rfl : items = [] := by simpa [isLeaf] using leaf
    cases found
  | arr short reached each => exact ⟨short, reached, each⟩

theorem of_member (h : Rebuilt written (.obj members) (.obj fields))
    (found : Entries.get? key members = some element) :
    (Entries.keys fields).Nodup ∧
      (∀ key ∈ Entries.keys fields, key ∈ Entries.keys members) ∧
      (∀ key, key ∈ Entries.keys fields ↔ (beyond (.name key) written).Nonempty) ∧
      ∀ key value node, Entries.get? key members = some value →
        Entries.get? key fields = some node → Rebuilt (beyond (.name key) written) value node := by
  cases h with
  | leaf leaf =>
    obtain rfl : members = [] := by simpa [isLeaf] using leaf
    cases found
  | obj distinct known reached each => exact ⟨distinct, known, reached, each⟩

theorem exists_items (h : Rebuilt written (.arr items) node) (container : node.isContainer = true) :
    ∃ nodes, node = .arr nodes := by
  cases h with
  | leaf => exact ⟨items, rfl⟩
  | padding => cases container
  | arr => exact ⟨_, rfl⟩

theorem exists_fields (h : Rebuilt written (.obj members) node)
    (container : node.isContainer = true) : ∃ fields, node = .obj fields := by
  cases h with
  | leaf => exact ⟨members, rfl⟩
  | padding => cases container
  | obj => exact ⟨_, rfl⟩

/-- The item in which writing goes on: what is rebuilt of it, or a new container. -/
theorem item (h : Rebuilt written (.arr items) (.arr nodes)) (found : items[n]? = some element)
    (notLeaf : element.isLeaf = false) :
    let child := (Path.item? nodes n).getD (Flat.emptied element)
    Rebuilt (beyond (.index n) written) element child ∧ child.isContainer = true := by
  obtain ⟨_, reached, each⟩ := h.of_item found
  cases present : nodes[n]? with
  | none =>
    have untouched : beyond (.index n) written = ∅ :=
      Set.not_nonempty_iff_eq_empty.1 fun some =>
        absurd (reached n some) (Nat.not_lt.2 (List.getElem?_eq_none_iff.1 present))
    simp only [Path.item?, present, Option.getD_none, untouched]
    exact ⟨start notLeaf, Flat.isContainer_emptied element⟩
  | some node =>
    have rebuilt := each n element node found present
    obtain ⟨untouched, rfl⟩ | container := rebuilt.eq_null_or_isContainer notLeaf
    · simp only [Path.item?, present, Option.getD_none, untouched]
      exact ⟨start notLeaf, Flat.isContainer_emptied element⟩
    · have notNull : nodes[n]? ≠ some .null := by
        rw [present]
        rintro ⟨⟩
        cases container
      rw [Path.item?_of_ne_null notNull, present]
      exact ⟨rebuilt, container⟩

/-- What is rebuilt with one more leaf in an item. -/
theorem storeItem (h : Rebuilt written (.arr items) (.arr nodes))
    (found : items[n]? = some element)
    (stored : Rebuilt (insert rest (beyond (.index n) written)) element child) :
    Rebuilt (insert (Step.index n :: rest) written) (.arr items)
      (.arr (Path.storeItem nodes n child)) := by
  obtain ⟨short, reached, each⟩ := h.of_item found
  have inside : n < items.length := (List.getElem?_eq_some_iff.1 found).1
  have length : (Path.storeItem nodes n child).length = max nodes.length (n + 1) := by
    simp [Path.storeItem]
  refine .arr (by omega) (fun m some => ?_) (fun m other node there present => ?_)
  · by_cases same : m = n
    · omega
    · rw [Path.beyond_insert_of_ne (by simpa using same)] at some
      have within := reached m some
      omega
  · by_cases same : m = n
    · subst same
      rw [Path.getElem?_storeItem_self] at present
      obtain rfl := Option.some.inj present
      obtain rfl := Option.some.inj (found.symm.trans there)
      rwa [Path.beyond_insert_self]
    · rw [Path.beyond_insert_of_ne (by simpa using same)]
      obtain kept | ⟨missing, -, null⟩ := Path.getElem?_storeItem_of_ne same nodes child
      · exact each m other node there (kept ▸ present)
      · obtain rfl := Option.some.inj (null.symm.trans present)
        exact .padding (Set.not_nonempty_iff_eq_empty.1 fun some =>
          absurd (reached m some) (Nat.not_lt.2 (List.getElem?_eq_none_iff.1 missing)))

/-- The member in which writing goes on: what is rebuilt of it, or a new container. -/
theorem member (h : Rebuilt written (.obj members) (.obj fields))
    (found : Entries.get? key members = some element) (notLeaf : element.isLeaf = false) :
    let child := (Entries.get? key fields).getD (Flat.emptied element)
    Rebuilt (beyond (.name key) written) element child ∧ child.isContainer = true := by
  obtain ⟨_, _, reached, each⟩ := h.of_member found
  cases present : Entries.get? key fields with
  | none =>
    have untouched : beyond (.name key) written = ∅ :=
      Set.not_nonempty_iff_eq_empty.1 fun some => by
        have mem := (reached key).2 some
        rw [Entries.mem_keys_iff, present] at mem
        cases mem
    rw [untouched]
    exact ⟨start notLeaf, Flat.isContainer_emptied element⟩
  | some node =>
    have rebuilt := each key element node found present
    obtain ⟨untouched, _⟩ | container := rebuilt.eq_null_or_isContainer notLeaf
    · have mem := Entries.mem_keys_iff.2 (Option.isSome_of_eq_some present)
      rw [reached, untouched] at mem
      exact absurd mem Set.not_nonempty_empty
    · exact ⟨rebuilt, container⟩

/-- What is rebuilt with one more leaf in a member. -/
theorem put (h : Rebuilt written (.obj members) (.obj fields))
    (found : Entries.get? key members = some element)
    (stored : Rebuilt (insert rest (beyond (.name key) written)) element child) :
    Rebuilt (insert (Step.name key :: rest) written) (.obj members)
      (.obj (Entries.put key child fields)) := by
  obtain ⟨distinct, known, reached, each⟩ := h.of_member found
  have listed (other : String) : other ∈ Entries.keys (Entries.put key child fields) ↔
      other = key ∨ other ∈ Entries.keys fields := by
    by_cases same : other = key
    · simp [Entries.mem_keys_iff, same]
    · simp [Entries.mem_keys_iff, same, Entries.get?_put_of_ne (Ne.symm same)]
  refine .obj (Entries.nodup_keys_put distinct child) (fun other mem => ?_) (fun other => ?_)
    (fun other value node there present => ?_)
  · obtain rfl | mem := (listed other).1 mem
    · exact Entries.mem_keys_iff.2 (Option.isSome_of_eq_some found)
    · exact known other mem
  · rw [listed, reached]
    by_cases same : other = key
    · subst same
      simp [Path.beyond_insert_self]
    · simp [Path.beyond_insert_of_ne, same]
  · by_cases same : other = key
    · subst same
      rw [Entries.get?_put_self] at present
      obtain rfl := Option.some.inj present
      obtain rfl := Option.some.inj (found.symm.trans there)
      rwa [Path.beyond_insert_self]
    · rw [Entries.get?_put_of_ne (Ne.symm same)] at present
      rw [Path.beyond_insert_of_ne (by simpa using same)]
      exact each other value node there present

/-- A leaf is written, and one more leaf is rebuilt. -/
theorem assignBelow {leaf : Json} {path : Path} (h : Rebuilt written value node)
    (distinct : value.KeysDistinct) (notLeaf : value.isLeaf = false)
    (container : node.isContainer = true) (mem : (path, leaf) ∈ value.leafPaths) (place : Path) :
    ∃ result, Path.assignBelow leaf place node path = .ok result ∧
      Rebuilt (insert path written) value result ∧ result.isContainer = true := by
  induction path generalizing written value node place with
  | nil =>
    obtain ⟨_, _, impossible, _⟩ := Flat.emptyContainer_of_mem_leafPaths notLeaf mem
    cases impossible
  | cons step rest ih =>
    obtain ⟨isLeaf, _⟩ | ⟨items, n, element, inner, rfl, found, inside, same⟩ |
      ⟨members, key, element, inner, rfl, found, inside, same⟩ := leafPaths_cases mem
    · rw [notLeaf] at isLeaf
      cases isLeaf
    · obtain ⟨nodes, rfl⟩ := h.exists_items container
      cases same
      cases isLeaf : element.isLeaf with
      | true =>
        rw [leafPaths_of_isLeaf isLeaf, List.mem_singleton] at inside
        rw [inside]
        exact ⟨_, rfl, h.storeItem found (.leaf isLeaf (Set.mem_insert _ _)), rfl⟩
      | false =>
        have distinct := itemsKeysDistinct_iff.1 distinct element (List.mem_of_getElem? found)
        obtain ⟨next, tail, path, kind⟩ := Flat.emptyContainer_of_mem_leafPaths isLeaf inside
        obtain ⟨rebuilt, isContainer⟩ := h.item found isLeaf
        obtain ⟨child, written, stored, _⟩ :=
          ih rebuilt distinct isLeaf isContainer inside (place ++ [.index n])
        rw [path] at written ⊢
        rw [Path.assignBelow_index, kind, written]
        exact ⟨_, rfl, path ▸ h.storeItem found stored, rfl⟩
    · obtain ⟨fields, rfl⟩ := h.exists_fields container
      cases same
      have found := Entries.get?_of_mem distinct.1 found
      cases isLeaf : element.isLeaf with
      | true =>
        rw [leafPaths_of_isLeaf isLeaf, List.mem_singleton] at inside
        rw [inside]
        exact ⟨_, rfl, h.put found (.leaf isLeaf (Set.mem_insert _ _)), rfl⟩
      | false =>
        have distinct := membersKeysDistinct_iff.1 distinct.2 _ (Entries.mem_of_get? found)
        obtain ⟨next, tail, path, kind⟩ := Flat.emptyContainer_of_mem_leafPaths isLeaf inside
        obtain ⟨rebuilt, isContainer⟩ := h.member found isLeaf
        obtain ⟨child, written, stored, _⟩ :=
          ih rebuilt distinct isLeaf isContainer inside (place ++ [.name key])
        rw [path] at written ⊢
        rw [Path.assignBelow_name, kind, written]
        exact ⟨_, rfl, path ▸ h.put found stored, rfl⟩

/-- Where the paths of all leaves of a value are written, those of a part are. -/
theorem all_beyond {part : Json} {step : Step} (leads : Path.get? value [step] = some part)
    (all : ∀ leaf ∈ value.leafPaths, leaf.1 ∈ written) :
    (∀ leaf ∈ part.leafPaths, leaf.1 ∈ beyond step written) ∧ (beyond step written).Nonempty := by
  have inner : ∀ leaf ∈ part.leafPaths, leaf.1 ∈ beyond step written := fun leaf mem =>
    all _ (Path.mem_leafPaths_of_get? leads mem)
  obtain ⟨leaf, mem⟩ := List.exists_mem_of_ne_nil _ part.leafPaths_ne_nil
  exact ⟨inner, leaf.1, inner leaf mem⟩

/-- What is rebuilt at the paths of all leaves is the value, up to the order of members. -/
theorem rearranged (h : Rebuilt written value node) (distinct : value.KeysDistinct)
    (all : ∀ leaf ∈ value.leafPaths, leaf.1 ∈ written) : Rearranged value node := by
  induction h with
  | leaf leaf => exact .leaf leaf
  | @padding _ value none =>
    obtain ⟨leaf, mem⟩ := List.exists_mem_of_ne_nil _ value.leafPaths_ne_nil
    exact absurd (all leaf mem) (by simp [none])
  | @arr written items nodes short reached each ih =>
    have inside {n : Nat} {element : Json} (found : items[n]? = some element) := by
      have leads : Path.get? (.arr items) [.index n] = some element := by
        rw [Path.get?_index found, Path.get?_nil]
      exact all_beyond leads all
    refine .arr (Nat.le_antisymm ?_ short) fun n element node found present =>
      ih n element node found present
        (itemsKeysDistinct_iff.1 distinct element (List.mem_of_getElem? found)) (inside found).1
    by_contra shorter
    have last : nodes.length < items.length := by omega
    exact Nat.lt_irrefl _ (reached _ (inside (List.getElem?_eq_getElem last)).2)
  | @obj written members nodes nodup known reached each ih =>
    have inside {key : String} {element : Json}
        (found : Entries.get? key members = some element) := by
      have leads : Path.get? (.obj members) [.name key] = some element := by
        rw [Path.get?_name found, Path.get?_nil]
      exact all_beyond leads all
    have keys : (Entries.keys members).Perm (Entries.keys nodes) := by
      refine (List.perm_ext_iff_of_nodup distinct.1 nodup).2 fun key => ⟨fun mem => ?_, known key⟩
      obtain ⟨element, found⟩ := Option.isSome_iff_exists.1 (Entries.mem_keys_iff.1 mem)
      exact (reached key).2 (inside found).2
    exact .obj keys fun key element node found present => ih key element node found present
      (membersKeysDistinct_iff.1 distinct.2 _ (Entries.mem_of_get? found)) (inside found).1

end Rebuilt

end Json

namespace Flat

variable {document : Document} {flat other : Flat}

open Json (Rebuilt)

/-- Some leaves of a document are written in any order, and what is rebuilt at their paths is
there. -/
theorem exists_assignAll_rebuilt (notLeaf : document.value.isLeaf = false)
    {leaves : List (Path × Json)} (among : ∀ leaf ∈ leaves, leaf ∈ document.value.leafPaths)
    {written : Set Path} {root : Json} (h : Rebuilt written document root)
    (container : root.isContainer = true) :
    ∃ result, assignAll root leaves = .ok result ∧
      Rebuilt (written ∪ {path | path ∈ leaves.map Prod.fst}) document result := by
  induction leaves generalizing written root with
  | nil => exact ⟨root, rfl, by simpa using h⟩
  | cons leaf rest ih =>
    obtain ⟨path, value⟩ := leaf
    obtain ⟨next, stored, rebuilt, isContainer⟩ :=
      h.assignBelow document.distinct notLeaf container (among _ List.mem_cons_self) []
    obtain ⟨result, others, whole⟩ :=
      ih (fun leaf mem => among leaf (List.mem_cons_of_mem _ mem)) rebuilt isContainer
    refine ⟨result, ?_, ?_⟩
    · rw [assignAll, Path.assign, stored]
      exact others
    · convert whole using 1
      ext other
      simp only [List.map_cons, List.mem_cons, Set.mem_union, Set.mem_ofPred_eq, Set.mem_insert_iff]
      tauto

theorem assignments_perm (perm : other.entries.Perm flat.entries) :
    other.assignments.Perm flat.assignments :=
  (perm.map _).filter _

/-- The entries of a flattened document rebuild it in whatever order they stand: every array item by
item, and every object with the same members. -/
theorem toDocument_of_perm (nonempty : document.value.isLeaf = false)
    (accepted : ofDocument document = .ok flat) (perm : other.entries.Perm flat.entries)
    (kind : RootKind) :
    ∃ rebuilt, other.toDocument kind = .ok rebuilt ∧ document.value.Rearranged rebuilt := by
  obtain ⟨addressable, entries⟩ := ofDocument_eq_ok accepted
  have leaves : other.assignments.Perm document.value.leafPaths := by
    have same := assignments_perm perm
    rwa [assignments_eq addressable entries, documentLeaves_of_not_isLeaf nonempty] at same
  have among : ∀ leaf ∈ other.assignments, leaf ∈ document.value.leafPaths :=
    fun _ => leaves.mem_iff.1
  have some : other.assignments ≠ [] := fun none =>
    document.value.leafPaths_ne_nil (List.nil_perm.1 (none ▸ leaves))
  obtain ⟨rebuilt, written, whole⟩ := exists_assignAll_rebuilt nonempty among
    (Rebuilt.start nonempty) (isContainer_emptied document)
  refine ⟨rebuilt, ?_, whole.rearranged document.distinct fun leaf mem => ?_⟩
  · rw [toDocument, initialRoot_of_leafPaths nonempty some among, written]
  · exact .inr (List.mem_map_of_mem (leaves.mem_iff.2 mem))

/-- Entries from the last to the first rebuild a document in which nulls, empty containers and the
members of two objects are interleaved. -/
theorem toDocument_of_perm_reverse :
    let document : Document :=
      ⟨.obj [("a", .arr [.null, .obj [("b", .obj []), ("c", .int 1)], .null]),
        ("0", .arr [.arr [.int 2]])], rfl, by decide⟩
    document.value.isLeaf = false ∧ ∃ flat other : Flat,
      ofDocument document = .ok flat ∧ other.entries = flat.entries.reverse ∧
        ∃ rebuilt, other.toDocument .object = .ok rebuilt ∧ document.value.Rearranged rebuilt := by
  intro document
  obtain ⟨flat, accepted⟩ : ∃ flat, ofDocument document = .ok flat := ⟨_, rfl⟩
  have reversed : (Entries.keys flat.entries.reverse).Nodup := by
    rw [Entries.keys, List.map_reverse]
    exact List.nodup_reverse.2 flat.distinct
  exact ⟨rfl, flat, ⟨_, reversed⟩, accepted, rfl,
    toDocument_of_perm rfl accepted (List.reverse_perm _) .object⟩

end Flat

end ConfigTemplate
