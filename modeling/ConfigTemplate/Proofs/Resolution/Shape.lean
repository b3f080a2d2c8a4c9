import ConfigTemplate.Proofs.Flat.RoundTrip
import ConfigTemplate.Proofs.Json.Alike
import ConfigTemplate.Proofs.Session.Invariant
import ConfigTemplate.Resolution
import Mathlib

/-!
# The shape of a resolved document

A resolved document is the document with some of its strings replaced: it has the same containers
with the same keys in the same order and the same scalars, and a string without placeholders is the
same string. A document without placeholders is the same document.
-/

namespace ConfigTemplate

namespace Json

/-- Two strings of which the second may have come out of the first by substitution: without
placeholders it is the same. -/
def Substituted (kinds : List Placeholder.Kind) (text new : String) : Prop :=
  Placeholder.scan kinds text = none → new = text

/-- Whether no string of a value has a placeholder of some kinds. -/
def IsPlain (kinds : List Placeholder.Kind) (value : Json) : Prop :=
  ∀ leaf ∈ value.leafPaths, Session.isPending kinds leaf.2 = false

variable {kinds : List Placeholder.Kind} {value new : Json}

theorem Becomes.isLeaf (h : value.Becomes kinds new) (leaf : value.isLeaf = true) :
    new.isLeaf = true := by
  cases h with
  | kept => exact leaf
  | substituted => rfl

theorem Becomes.alike (h : value.Becomes kinds new) (leaf : value.isLeaf = true) :
    Alike (Substituted kinds) value new := by
  cases h with
  | substituted occurs => exact fun clean => absurd clean occurs
  | kept =>
    cases value with
    | str text => exact fun _ => rfl
    | arr items =>
      cases items with
      | nil => trivial
      | cons => cases leaf
    | obj members =>
      cases members with
      | nil => trivial
      | cons => cases leaf
    | _ => rfl

end Json

namespace Flat

open Json (located)

/-- The value that a flat document has at a path now, or else the old one. -/
def current (flat : Flat) (path : Path) (old : Json) : Json := (flat.get? path.render).getD old

variable {document : Json} {flat final : Flat}

/-- A flat document with the keys of another one lists the leaves of its document, each with its
current value. -/
theorem entries_eq_of_keys (entries : flat.entries = document.documentLeaves.map (located ""))
    (keys : final.keys = flat.keys) :
    final.entries = (document.documentLeaves.map fun leaf =>
      (leaf.1, final.current leaf.1 leaf.2)).map (located "") := by
  rw [Entries.eq_map_get? final.distinct keys, entries, List.map_map, List.map_map]
  rfl

/-- A document without leaves below its root is as it was. -/
theorem mapLeaves_current_of_isLeaf (leaf : document.isLeaf = true)
    (entries : flat.entries = document.documentLeaves.map (located ""))
    (keys : final.keys = flat.keys) : document.mapLeaves final.current = document := by
  have none : final.entries = [] := by
    rw [entries_eq_of_keys entries keys, documentLeaves_of_isLeaf leaf]
    rfl
  have root : document.mapLeaves final.current = final.current [] document := by
    cases document with
    | arr items =>
      cases items with
      | nil => rfl
      | cons => cases leaf
    | obj members =>
      cases members with
      | nil => rfl
      | cons => cases leaf
    | _ => rfl
  rw [root, current, get?, none]
  rfl

/-- The leaves below the root of a document with its leaves replaced. -/
theorem documentLeaves_mapLeaves {f : Path → Json → Json}
    (leaves : ∀ leaf ∈ document.leafPaths, (f leaf.1 leaf.2).isLeaf = true) :
    (document.mapLeaves f).documentLeaves =
      document.documentLeaves.map fun leaf => (leaf.1, f leaf.1 leaf.2) := by
  rw [Json.documentLeaves, Json.documentLeaves, Json.leafPaths_mapLeaves f document leaves,
    List.filter_map]
  rfl

/-- A flat document with the keys of a document stands for the document with its leaves replaced
by their current values. -/
theorem toDocument_mapLeaves {document : Document} (addressable : document.value.Addressable)
    (entries : flat.entries = document.value.documentLeaves.map (located ""))
    (keys : final.keys = flat.keys)
    (leaves : ∀ leaf ∈ document.value.leafPaths, (final.current leaf.1 leaf.2).isLeaf = true) :
    final.toDocument (.ofRoot document) = .ok (document.value.mapLeaves final.current) := by
  obtain ⟨document, container, distinct⟩ := document
  dsimp only at addressable entries leaves ⊢
  have root : (document.mapLeaves final.current).isContainer = true ∧
      RootKind.ofRoot document = .ofRoot (document.mapLeaves final.current) := by
    match document, container, entries with
    | .arr (_ :: _), _, _ | .obj (_ :: _), _, _ => exact ⟨rfl, rfl⟩
    | .arr [], _, entries | .obj [], _, entries =>
      rw [mapLeaves_current_of_isLeaf rfl entries keys]
      exact ⟨rfl, rfl⟩
  let mapped : Document :=
    ⟨document.mapLeaves final.current, root.1, Json.keysDistinct_mapLeaves _ _ leaves distinct⟩
  rw [root.2]
  change final.toDocument (.ofRoot mapped) = .ok mapped
  refine toDocument_of_entries ?_ ?_
  · intro leaf mem step
    rw [Json.leafPaths_mapLeaves _ _ leaves, List.mem_map] at mem
    obtain ⟨old, mem, rfl⟩ := mem
    exact addressable old mem step
  · rw [documentLeaves_mapLeaves leaves]
    exact entries_eq_of_keys entries keys

end Flat

namespace Resolution

open Json (located)

variable {setup : Setup} {flat : Flat} {document resolved : Json}

theorem result_ofFlat_eq_ok {kind : Flat.RootKind}
    (h : (ofFlat setup flat kind).result = .ok resolved) :
    ((Session.resolveAll setup).final (.start flat)).flat.toDocument kind = .ok resolved := by
  unfold ofFlat at h
  split at h
  · cases h
  next s run =>
    have final : (Session.resolveAll setup).final (.start flat) = s := congrArg Prod.snd run
    rw [final]
    unfold rebuilt at h
    dsimp only at h
    split at h
    · next rebuilt => rw [rebuilt, Except.ok.inj h]
    · cases h

theorem result_ofDocument_eq_ok {observe : Bool}
    (h : (ofDocument setup observe document).result = .ok resolved) :
    ∃ flat, Flat.ofDocument document = .ok flat ∧
      (ofFlat setup flat (.ofRoot document)).result = .ok resolved := by
  unfold ofDocument at h
  split at h
  · cases h
  next flat accepted =>
    refine ⟨flat, accepted, ?_⟩
    dsimp only at h
    split at h
    · unfold observed at h
      dsimp only at h
      split at h
      · split at h
        · cases h
        · exact h
      · exact h
    · exact h

/-- What a session retains, seen from the leaves of the document that it began with. -/
theorem becomes_current {kinds : List Placeholder.Kind} {s : Session}
    (entries : flat.entries = document.documentLeaves.map (located ""))
    (retains : Session.Retains kinds flat s) {leaf : Path × Json}
    (mem : leaf ∈ document.leafPaths) :
    leaf.2.Becomes kinds (s.flat.current leaf.1 leaf.2) := by
  by_cases below : leaf ∈ document.documentLeaves
  · have listed : located "" leaf ∈ flat.entries := entries ▸ List.mem_map_of_mem below
    obtain ⟨new, found, became⟩ := retains.values _ _ (Entries.get?_of_mem flat.distinct listed)
    have now : s.flat.current leaf.1 leaf.2 = new := congrArg (Option.getD · leaf.2) found
    rw [now]
    exact became
  · have unlisted : document.isLeaf = true := by
      by_contra inner
      rw [Flat.documentLeaves_of_not_isLeaf (Bool.eq_false_iff.2 inner)] at below
      exact below mem
    have none : s.flat.entries = [] := by
      rw [Flat.entries_eq_of_keys entries retains.keys, Flat.documentLeaves_of_isLeaf unlisted]
      rfl
    have now : s.flat.current leaf.1 leaf.2 = leaf.2 := by
      rw [Flat.current, Flat.get?, none]
      rfl
    rw [now]
    exact .kept _

/-- What a resolved document is made of: the document with each leaf replaced by what it may have
become. -/
theorem eq_mapLeaves_of_ofDocument {observe : Bool} {document : Document}
    (h : (ofDocument setup observe document).result = .ok resolved) :
    ∃ f : Path → Json → Json, resolved = document.value.mapLeaves f ∧
      ∀ leaf ∈ document.value.leafPaths,
        leaf.2.Becomes (Session.kinds setup) (f leaf.1 leaf.2) := by
  obtain ⟨flat, accepted, whole⟩ := result_ofDocument_eq_ok h
  obtain ⟨addressable, entries⟩ := Flat.ofDocument_eq_ok accepted
  have retains := Session.retains_final_resolveAll setup flat
  have became : ∀ leaf ∈ document.value.leafPaths, _ := fun leaf mem =>
    becomes_current entries retains mem
  refine ⟨_, ?_, became⟩
  have rebuilt := Flat.toDocument_mapLeaves addressable entries retains.keys
    fun leaf mem => (became leaf mem).isLeaf (Json.isLeaf_of_mem_leafPaths document leaf mem)
  rw [result_ofFlat_eq_ok whole] at rebuilt
  exact Except.ok.inj rebuilt

/-- Without placeholders there is nothing to resolve. -/
theorem pending_of_isPlain (entries : flat.entries = document.documentLeaves.map (located ""))
    (plain : document.IsPlain (Session.kinds setup)) :
    Session.pending setup (.start flat) = [] := by
  rw [Session.pending, List.map_eq_nil_iff, List.filter_eq_nil_iff]
  intro entry mem
  change entry ∈ flat.entries at mem
  rw [entries, List.mem_map] at mem
  obtain ⟨leaf, mem, rfl⟩ := mem
  simp [located, plain leaf (List.mem_of_mem_filter mem)]

/-- A value without placeholders has no references either. -/
theorem isPlain_withoutExternal (plain : document.IsPlain (Session.kinds setup)) :
    document.IsPlain (Session.kinds (withoutExternal setup)) := by
  intro leaf mem
  have none := plain leaf mem
  cases value : leaf.2 with
  | str text =>
    rw [value] at none
    simp only [Session.isPending, Placeholder.occurs, Option.isSome_eq_false_iff,
      Option.isNone_iff_eq_none, Placeholder.scan, List.findSome?_eq_none_iff] at none ⊢
    intro kind mem
    refine none kind ?_
    simp only [withoutExternal, Session.kinds, Placeholder.Kind.internal] at mem
    obtain rfl : kind = .reference := by simpa using mem
    unfold Session.kinds
    split <;> decide
  | _ => rfl

theorem result_ofFlat_of_pending_nil {kind : Flat.RootKind}
    (h : Session.pending setup (.start flat) = []) :
    (ofFlat setup flat kind).result = rebuilt flat kind := by
  rw [ofFlat, Session.resolveAll_of_pending_nil h]
  rfl

theorem result_observed_of_pending_nil {rest : Resolution}
    (h : Session.pending (withoutExternal setup) (.start flat) = []) :
    (observed setup flat rest).result = rest.result := by
  unfold observed
  dsimp only
  split
  · rw [Session.resolveAll_of_pending_nil h]
    rfl
  · rfl

/-- Resolving keeps the shape of a document: where it succeeds, the result has the same containers
with the same keys in the same order, the same scalars, and strings in place of strings, and a
string without placeholders is the same. A document that has none comes out as it is. -/
theorem alike_of_ofDocument (setup : Setup) (observe : Bool) (document : Document) :
    (∀ resolved, (ofDocument setup observe document).result = .ok resolved →
      Json.Alike (Json.Substituted (Session.kinds setup)) document resolved) ∧
    ((∃ flat, Flat.ofDocument document = .ok flat) →
      document.value.IsPlain (Session.kinds setup) →
      (ofDocument setup observe document).result = .ok document) := by
  refine ⟨fun resolved h => ?_, ?_⟩
  · obtain ⟨f, rfl, became⟩ := eq_mapLeaves_of_ofDocument h
    exact Json.alike_mapLeaves f document fun leaf mem =>
      (became leaf mem).alike (Json.isLeaf_of_mem_leafPaths document leaf mem)
  · rintro ⟨flat, accepted⟩ plain
    obtain ⟨addressable, entries⟩ := Flat.ofDocument_eq_ok accepted
    have same : (ofFlat setup flat (.ofRoot document)).result = .ok document := by
      rw [result_ofFlat_of_pending_nil (pending_of_isPlain entries plain), rebuilt,
        Flat.toDocument_of_entries addressable entries]
    rw [ofDocument, accepted]
    dsimp only
    split
    · rw [result_observed_of_pending_nil
        (pending_of_isPlain entries (isPlain_withoutExternal plain)), same]
    · exact same

/-- An array keeps its null and its empty object when a variable and a reference are substituted
around them, and a price is no placeholder. -/
theorem alike_of_ofDocument_variable :
    let setup : Setup := ⟨.standard, ⟨fun _ _ => .output "", fun _ => some "1", false⟩, .standard⟩
    let document : Document :=
      ⟨.obj [("a", .arr [.str "$X", .null, .obj []]), ("b", .str "$\x7ba[0]\x7d!"), ("c", .int 2)],
        rfl, by decide⟩
    let price : Document := ⟨.arr [.str "$5", .arr []], rfl, by decide⟩
    Json.Alike (Json.Substituted (Session.kinds setup)) document
        (.obj [("a", .arr [.str "1", .null, .obj []]), ("b", .str "1!"), ("c", .int 2)]) ∧
      (ofDocument setup true price).result = .ok price := by
  intro setup document price
  constructor
  · exact (alike_of_ofDocument setup true document).1 _ (by cbv)
  · refine (alike_of_ofDocument setup true price).2 ⟨_, rfl⟩ ?_
    intro leaf mem
    obtain rfl | rfl : leaf = ([.index 0], .str "$5") ∨ leaf = ([.index 1], .arr []) := by
      simpa [price, Json.leafPaths, Json.itemLeafPaths, Json.under] using mem
    · cbv
    · rfl

end Resolution

end ConfigTemplate
