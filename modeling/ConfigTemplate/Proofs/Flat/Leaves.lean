import ConfigTemplate.Flat.ToDocument
import ConfigTemplate.Flat.OfDocument
import ConfigTemplate.Proofs.Entries
import ConfigTemplate.Proofs.Json.Leaves
import ConfigTemplate.Proofs.Path.Text

/-!
# Flat documents and leaves

Flattening lists the leaves of a document below its root, each under the text of its path. The
paths that the texts spell are those of the leaves, so nothing is stored twice and nothing is lost.
-/

namespace ConfigTemplate

namespace Json

/-- A leaf under the text of its path, seen from a place with a text of its own. -/
def located (path : String) (leaf : Path × Json) : String × Json :=
  (leaf.1.foldl Path.append path, leaf.2)

/-- Whether the text of a path can hold every step to a leaf of a value. -/
def Addressable (value : Json) : Prop :=
  ∀ leaf ∈ value.leafPaths, ∀ step ∈ leaf.1, step.Addressable

theorem map_located_under (path : String) (step : Step) (leaves : List (Path × Json)) :
    (leaves.map (under step)).map (located path) =
      leaves.map (located (Path.append path step)) := by
  simp [located, under, Function.comp_def]

end Json

namespace Flat

open Json (located)

theorem appendIndex_ne_empty (path : String) (n : Nat) : Path.appendIndex path n ≠ "" := by
  simp [Path.appendIndex]

theorem appendName_ne_empty (path : String) {key : String} (h : Path.isAddressable key = true) :
    Path.appendName path key ≠ "" := by
  have nonempty : key ≠ "" := by
    rintro rfl
    exact absurd h (by decide)
  by_cases root : path = "" <;> simp [Path.appendName, root, nonempty]

/-- What the members of an object need: the first key is addressable and its value has leaves, and
so have the rest. -/
theorem memberLeaves_cons_eq_ok {path key : String} {value : Json}
    {rest : List (String × Json)} {pairs : List (String × Json)}
    (h : memberLeaves path ((key, value) :: rest) = .ok pairs) :
    Path.isAddressable key = true ∧ ∃ first others,
      leaves (Path.appendName path key) value = .ok first ∧
        memberLeaves path rest = .ok others ∧ pairs = first ++ others := by
  rw [memberLeaves] at h
  split at h
  next addressable =>
    refine ⟨addressable, ?_⟩
    cases hf : leaves (Path.appendName path key) value with
    | error fault => simp [hf] at h
    | ok first =>
      cases ho : memberLeaves path rest with
      | error fault => simp [hf, ho] at h
      | ok others =>
        simp only [hf, ho, Except.ok.injEq] at h
        exact ⟨first, others, rfl, rfl, h.symm⟩
  next => cases h

theorem itemLeaves_cons_eq_ok {path : String} {index : Nat} {item : Json} {rest : List Json}
    {pairs : List (String × Json)} (h : itemLeaves path index (item :: rest) = .ok pairs) :
    ∃ first others, leaves (Path.appendIndex path index) item = .ok first ∧
      itemLeaves path (index + 1) rest = .ok others ∧ pairs = first ++ others := by
  rw [itemLeaves] at h
  cases hf : leaves (Path.appendIndex path index) item with
  | error fault => simp [hf] at h
  | ok first =>
    cases ho : itemLeaves path (index + 1) rest with
    | error fault => simp [hf, ho] at h
    | ok others =>
      simp only [hf, ho, Except.ok.injEq] at h
      exact ⟨first, others, rfl, rfl, h.symm⟩

mutual

/-- Below the root the pairs of a value are its leaves. -/
theorem leaves_eq_ok {path : String} {pairs : List (String × Json)} : ∀ value : Json,
    leaves path value = .ok pairs → (path = "" → value.isLeaf = false) →
    pairs = value.leafPaths.map (located path) ∧ value.Addressable
  | .arr (item :: rest), h, _ => itemLeaves_eq_ok 0 (item :: rest) h
  | .obj ((key, value) :: rest), h, _ => memberLeaves_eq_ok ((key, value) :: rest) h
  | .arr [], h, below | .obj [], h, below => by
    have notRoot : path ≠ "" := fun root => absurd (below root) (by decide)
    rw [leaves, if_neg notRoot] at h
    cases h
    exact ⟨rfl, by simp [Json.Addressable, Json.leafPaths]⟩
  | .null, h, _ | .bool _, h, _ | .int _, h, _ | .float _, h, _ | .str _, h, _ => by
    cases h
    exact ⟨rfl, by simp [Json.Addressable, Json.leafPaths]⟩

theorem itemLeaves_eq_ok {path : String} {pairs : List (String × Json)} :
    ∀ (index : Nat) (items : List Json), itemLeaves path index items = .ok pairs →
    pairs = (Json.itemLeafPaths index items).map (located path) ∧
      ∀ leaf ∈ Json.itemLeafPaths index items, ∀ step ∈ leaf.1, step.Addressable
  | _, [], h => by
    cases h
    exact ⟨rfl, by simp [Json.itemLeafPaths]⟩
  | index, item :: rest, h => by
    obtain ⟨first, others, hf, ho, rfl⟩ := itemLeaves_cons_eq_ok h
    obtain ⟨rfl, inner⟩ := leaves_eq_ok item hf fun root =>
      absurd root (appendIndex_ne_empty path index)
    obtain ⟨rfl, outer⟩ := itemLeaves_eq_ok (index + 1) rest ho
    rw [Json.itemLeafPaths, List.map_append, Json.map_located_under]
    refine ⟨rfl, ?_⟩
    simp only [List.forall_mem_append, List.forall_mem_map]
    exact ⟨fun leaf mem => List.forall_mem_cons.2 ⟨trivial, inner leaf mem⟩, outer⟩

theorem memberLeaves_eq_ok {path : String} {pairs : List (String × Json)} :
    ∀ members : List (String × Json), memberLeaves path members = .ok pairs →
    pairs = (Json.memberLeafPaths members).map (located path) ∧
      ∀ leaf ∈ Json.memberLeafPaths members, ∀ step ∈ leaf.1, step.Addressable
  | [], h => by
    cases h
    exact ⟨rfl, by simp [Json.memberLeafPaths]⟩
  | (key, value) :: rest, h => by
    obtain ⟨addressable, first, others, hf, ho, rfl⟩ := memberLeaves_cons_eq_ok h
    obtain ⟨rfl, inner⟩ := leaves_eq_ok value hf fun root =>
      absurd root (appendName_ne_empty path addressable)
    obtain ⟨rfl, outer⟩ := memberLeaves_eq_ok rest ho
    rw [Json.memberLeafPaths, List.map_append, Json.map_located_under]
    refine ⟨rfl, ?_⟩
    simp only [List.forall_mem_append, List.forall_mem_map]
    exact ⟨fun leaf mem => List.forall_mem_cons.2 ⟨addressable, inner leaf mem⟩, outer⟩

end

/-- In a container that is not empty no leaf is the root. -/
theorem documentLeaves_of_not_isLeaf {document : Json} (h : document.isLeaf = false) :
    document.documentLeaves = document.leafPaths := by
  rw [Json.documentLeaves, List.filter_eq_self]
  intro leaf mem
  obtain ⟨isLeaf, _⟩ | ⟨_, _, _, _, _, _, _, rfl⟩ | ⟨_, _, _, _, _, _, _, rfl⟩ :=
    Json.leafPaths_cases mem
  · rw [h] at isLeaf
    cases isLeaf
  · rfl
  · rfl

theorem documentLeaves_of_isLeaf {document : Json} (h : document.isLeaf = true) :
    document.documentLeaves = [] := by
  simp [Json.documentLeaves, Json.leafPaths_of_isLeaf h]

theorem split_located {document : Json} (h : document.Addressable) {leaf : Path × Json}
    (mem : leaf ∈ document.documentLeaves) : Path.split (located "" leaf).1 = leaf.1 :=
  Path.split_render leaf.1 (h leaf (List.mem_of_mem_filter mem))

theorem nodup_keys_located {document : Json} (distinct : document.KeysDistinct)
    (h : document.Addressable) :
    (Entries.keys (document.documentLeaves.map (located ""))).Nodup := by
  have paths : (document.documentLeaves.map Prod.fst).Nodup :=
    (Json.nodup_leafPaths document distinct).sublist (List.filter_sublist.map _)
  have texts : (document.documentLeaves.map (located "")).map (Path.split ·.1) =
      document.documentLeaves.map Prod.fst := by
    rw [List.map_map]
    exact List.map_congr_left fun leaf mem => split_located h mem
  refine List.Nodup.of_map Path.split ?_
  rw [Entries.keys, List.map_map]
  exact texts ▸ paths

/-- Flattening lists the leaves below the root, in document order and each under the text of its
path. -/
theorem ofDocument_eq_ok {document : Document} {flat : Flat} (h : ofDocument document = .ok flat) :
    document.value.Addressable ∧
      flat.entries = document.value.documentLeaves.map (located "") := by
  obtain ⟨document, container, distinct⟩ := document
  rw [ofDocument, Document.ofRoot, if_pos container] at h
  cases hl : leaves "" document with
  | error fault => simp [hl] at h
  | ok pairs =>
    simp only [hl, Except.ok.injEq] at h
    subst h
    cases leaf : document.isLeaf with
    | false =>
      obtain ⟨rfl, addressable⟩ := leaves_eq_ok document hl fun _ => leaf
      refine ⟨addressable, ?_⟩
      have keys := nodup_keys_located distinct addressable
      rw [documentLeaves_of_not_isLeaf leaf] at keys ⊢
      exact Entries.ofList_of_nodup keys
    | true =>
      have none : pairs = [] := by
        cases document with
        | arr items => cases items <;> simp_all [leaves, Json.isLeaf]
        | obj members => cases members <;> simp_all [leaves, Json.isLeaf]
        | _ => cases container
      subst none
      refine ⟨?_, by rw [documentLeaves_of_isLeaf leaf]; rfl⟩
      rw [Json.Addressable, Json.leafPaths_of_isLeaf leaf]
      simp

/-- The texts of the entries spell the paths of the leaves. -/
theorem map_split_entries {document : Json} {flat : Flat} (addressable : document.Addressable)
    (h : flat.entries = document.documentLeaves.map (located "")) :
    (flat.entries.map fun entry => (Path.split entry.1, entry.2)) = document.documentLeaves := by
  rw [h, List.map_map]
  refine (List.map_congr_left fun leaf mem => ?_).trans (List.map_id _)
  exact Prod.ext (split_located addressable mem) rfl

/-- The values to write are the leaves at their paths. -/
theorem assignments_eq {document : Json} {flat : Flat} (addressable : document.Addressable)
    (h : flat.entries = document.documentLeaves.map (located "")) :
    flat.assignments = document.documentLeaves := by
  calc flat.assignments
    _ = (flat.entries.map fun entry => (Path.split entry.1, entry.2)).filter fun pair =>
        !pair.1.isEmpty := rfl
    _ = document.documentLeaves.filter fun pair => !pair.1.isEmpty := by
      rw [map_split_entries addressable h]
    _ = document.documentLeaves := by simp [Json.documentLeaves]

end Flat

end ConfigTemplate
