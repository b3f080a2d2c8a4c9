import ConfigTemplate.Proofs.Json.Reader
import ConfigTemplate.Proofs.Path.Leaves
import ConfigTemplate.Proofs.Resolution.Shape
import ConfigTemplate.Proofs.Session.Conclusion

/-!
# A document and its keys

A document can be resolved as a whole exactly when each of its keys can be resolved alone, and what
a key is resolved to alone is what the resolved document has in its place. Both come down to the
values of the keys, which do not depend on what was resolved before. A key without placeholders has
the value that it holds.
-/

namespace ConfigTemplate

namespace Session

open ConfigTemplate.Action

variable {setup : Setup} {flat : Flat} {key : String} {value : Json} {s : Session}

/-- A value without placeholders is the value of its key. -/
theorem hasValue_of_not_pending (present : flat.get? key = some value)
    (clean : isPending (kinds setup) value = false) : HasValue setup flat key value := by
  refine ⟨1, ?_⟩
  have held : (start flat).flat.get? key = some value := present
  rw [valueWithin]
  obtain ⟨text, rfl⟩ | other := value.eq_str_or
  · have none : Placeholder.scan (kinds setup) text = none := by
      simpa [isPending, Placeholder.occurs] using clean
    rw [result_resolveValue_of_str held, substituteAll, substitute_of_scan none]
    rfl
  · exact result_resolveValue_of_ne_str held other

theorem hasValue_of_not_mem_pending (present : flat.get? key = some value)
    (settled : key ∉ pending setup (start flat)) : HasValue setup flat key value := by
  have unresolved : (start flat).mark key ≠ .resolved := by simp
  exact hasValue_of_not_pending present (Bool.eq_false_iff.2 fun waits =>
    settled (mem_pending_iff.2 ⟨unresolved, value, present, waits⟩))

section Oblivious

variable (oblivious : setup.IsOblivious) (loops : ¬ setup.registry.RecoversLoops)

include oblivious loops

/-- Keys can be resolved one after the other exactly if each of them has a value. -/
theorem result_resolveEach_eq_ok_iff (faithful : Faithful setup flat [] s) {keys : List String} :
    (resolveEach (atRest setup) keys).result s = .ok () ↔
      ∀ key ∈ keys, ∃ value, HasValue setup flat key value := by
  induction keys generalizing s with
  | nil => simp [resolveEach]
  | cons key rest ih =>
    have kept := (isSound_atRest oblivious loops flat key s faithful).1
    rw [List.forall_mem_cons, ← ih kept, resolveEach]
    have first_iff (value : Json) : (atRest setup key).result s = .ok value ↔ _ :=
      result_resolveKey_eq_ok_iff oblivious loops faithful
    cases first : (atRest setup key).result s with
    | error halt =>
      rw [result_bind_of_error first]
      constructor
      · intro done
        cases done
      · rintro ⟨⟨value, known⟩, _⟩
        rw [(first_iff value).2 known] at first
        cases first
    | ok value =>
      rw [result_bind_of_ok first]
      exact (and_iff_right ⟨value, (first_iff value).1 first⟩).symm

/-- Everything can be resolved exactly if each key has a value. -/
theorem result_resolveAll_eq_ok_iff :
    (resolveAll setup).result (start flat) = .ok () ↔
      ∀ key ∈ flat, ∃ value, HasValue setup flat key value := by
  have others : (∀ key ∈ pending setup (start flat), ∃ value, HasValue setup flat key value) ↔
      ∀ key ∈ flat, ∃ value, HasValue setup flat key value := by
    constructor
    · intro valued key mem
      by_cases listed : key ∈ pending setup (start flat)
      · exact valued key listed
      · obtain ⟨value, present⟩ := Flat.exists_get? mem
        exact ⟨value, hasValue_of_not_mem_pending present listed⟩
    · intro valued key listed
      exact valued key (mem_of_mem_pending listed)
  have faithful := faithful_start setup flat
  rw [← others, resolveAll, resolvePending, result_bind_of_ok (result_get _), final_get]
  dsimp only
  split
  next empty =>
    rw [List.isEmpty_iff.1 empty]
    simp
  · rw [result_bind_of_ok (result_note ..), final_note]
    exact result_resolveEach_eq_ok_iff oblivious loops (faithful.noted _)

/-- After everything was resolved each key holds its value. -/
theorem get?_final_resolveAll (done : (resolveAll setup).result (start flat) = .ok ())
    (mem : key ∈ flat) :
    ∃ value, ((resolveAll setup).final (start flat)).flat.get? key = some value ∧
      HasValue setup flat key value := by
  have faithful : Faithful setup flat [] ((resolveAll setup).final (start flat)) :=
    faithful_final oblivious loops .resolveAll (faithful_start setup flat)
  by_cases resolved : ((resolveAll setup).final (start flat)).mark key = .resolved
  · exact faithful.resolved key resolved
  · obtain ⟨value, present⟩ := Flat.exists_get? mem
    have settled : key ∉ pending setup (start flat) := fun listed =>
      resolved (mark_resolveAll done key listed)
    exact ⟨value, (faithful.others key resolved).trans present,
      hasValue_of_not_mem_pending present settled⟩

end Oblivious

end Session

namespace Resolution

open ConfigTemplate.Action ConfigTemplate.Session
open Json (located)

variable {setup : Setup} {flat : Flat} {document : Document} {resolved value : Json}
variable {source : Document.Source} {path : String}

/-- To resolve a single key of a document is to resolve the key. -/
theorem result_ofKey (accepted : Flat.ofSource source = .ok flat) (mem : path ∈ flat) :
    (ofKey setup source path).result =
      (resolveKey setup path).result ((start flat).noted (.requested path)) := by
  have looked : (lookup setup path).result ((start flat).noted (.requested path)) =
      (resolveKey setup path).result ((start flat).noted (.requested path)) := by
    let s := (start flat).noted (.requested path)
    have found : s.flat.resolve setup.options.uniqueMatch path = .ok ⟨path, [path]⟩ :=
      Flat.resolve_of_mem mem _
    rw [lookup, follow, result_bind_of_ok (result_get _), final_get, found]
    rfl
  rw [← looked, ofKey, accepted]
  rfl

/-- A flat document is resolved exactly if its values are and it can be rebuilt from them. -/
theorem result_ofFlat_eq_ok_iff {kind : Flat.RootKind} :
    (ofFlat setup flat kind).result = .ok resolved ↔
      (resolveAll setup).result (start flat) = .ok () ∧
        ((resolveAll setup).final (start flat)).flat.toDocument kind = .ok resolved := by
  refine ⟨fun h => ⟨?_, result_ofFlat_eq_ok h⟩, fun ⟨done, rebuilds⟩ => ?_⟩
  · unfold ofFlat at h
    split at h
    · cases h
    next run => exact congrArg Prod.fst run
  · have run : (resolveAll setup).run (start flat) =
        (.ok (), (resolveAll setup).final (start flat)) := Prod.ext done rfl
    rw [ofFlat, run]
    simp only [rebuilt, rebuilds]

/-- The document that is rebuilt has the values that the session holds in place of the leaves. -/
theorem toDocument_final_resolveAll (setup : Setup)
    (accepted : Flat.ofDocument document = .ok flat) :
    let final := ((resolveAll setup).final (start flat)).flat
    final.toDocument (.ofRoot document) = .ok (document.value.mapLeaves final.current) ∧
      (document.value.mapLeaves final.current).KeysDistinct ∧
      (document.value.mapLeaves final.current).leafPaths =
        document.value.leafPaths.map fun leaf => (leaf.1, final.current leaf.1 leaf.2) := by
  intro final
  obtain ⟨addressable, entries⟩ := Flat.ofDocument_eq_ok accepted
  have retains := retains_final_resolveAll setup flat
  have leaves : ∀ leaf ∈ document.value.leafPaths, (final.current leaf.1 leaf.2).isLeaf = true :=
    fun leaf mem => (becomes_current entries retains mem).isLeaf
      (Json.isLeaf_of_mem_leafPaths document leaf mem)
  exact ⟨Flat.toDocument_mapLeaves addressable entries retains.keys leaves,
    Json.keysDistinct_mapLeaves _ _ leaves document.distinct, Json.leafPaths_mapLeaves _ _ leaves⟩

/-- The path of a key leads to what the session holds for the key. -/
theorem get?_mapLeaves_current (accepted : Flat.ofDocument document = .ok flat) (mem : path ∈ flat)
    (present : ((resolveAll setup).final (start flat)).flat.get? path = some value) :
    Path.get? (document.value.mapLeaves ((resolveAll setup).final (start flat)).flat.current)
      (Path.split path) = some value := by
  obtain ⟨addressable, entries⟩ := Flat.ofDocument_eq_ok accepted
  obtain ⟨_, sameDistinct, leaves⟩ := toDocument_final_resolveAll setup accepted
  obtain ⟨entry, listed, rfl⟩ := List.mem_map.1 mem
  rw [entries] at listed
  obtain ⟨leaf, below, rfl⟩ := List.mem_map.1 listed
  rw [Flat.split_located addressable below]
  have leads := Path.get?_of_mem_leafPaths _ sameDistinct (leaf.1, _)
    (leaves ▸ List.mem_map_of_mem (List.mem_of_mem_filter below))
  have current : ((resolveAll setup).final (start flat)).flat.current leaf.1 leaf.2 = value :=
    congrArg (Option.getD · leaf.2) present
  rw [leads, current]

/-- A document can be resolved as a whole exactly if each of its keys can be resolved alone. The
value that a key is resolved to is then what the path of the key leads to in the resolved
document. -/
theorem ofSource_iff_ofKey (oblivious : setup.IsOblivious)
    (loops : ¬ setup.registry.RecoversLoops) (distinct : source.KeysDistinct)
    (accepted : Flat.ofSource source = .ok flat) :
    ((∃ resolved, (ofSource setup false source).result = .ok resolved) ↔
      ∀ path ∈ flat, ∃ value, (ofKey setup source path).result = .ok value) ∧
    ∀ resolved, (ofSource setup false source).result = .ok resolved →
      ∀ path ∈ flat, ∃ value, (ofKey setup source path).result = .ok value ∧
        Path.get? resolved (Path.split path) = some value := by
  obtain ⟨document, loaded, flattened⟩ : ∃ document : Document,
      Document.load source = .ok document ∧ Flat.ofDocument document = .ok flat := by
    unfold Flat.ofSource at accepted
    split at accepted
    · cases accepted
    next root loaded =>
      obtain ⟨document, rfl⟩ := Document.exists_of_load distinct loaded
      exact ⟨document, loaded, accepted⟩
  have whole : (ofSource setup false source).result =
      (ofFlat setup flat (.ofRoot document)).result := by
    simp [ofSource, loaded, ofDocument, flattened]
  have single {path : String} (mem : path ∈ flat) (value : Json) :
      (ofKey setup source path).result = .ok value ↔ HasValue setup flat path value := by
    rw [result_ofKey accepted mem]
    exact result_resolveKey_eq_ok_iff oblivious loops ((faithful_start setup flat).noted _)
  obtain ⟨rebuilds, _⟩ := toDocument_final_resolveAll setup flattened
  refine ⟨?_, fun resolved done path mem => ?_⟩
  · have all : (∃ resolved, (ofSource setup false source).result = .ok resolved) ↔
        (resolveAll setup).result (start flat) = .ok () := by
      simp only [whole, result_ofFlat_eq_ok_iff]
      exact ⟨fun ⟨_, done, _⟩ => done, fun done => ⟨_, done, rebuilds⟩⟩
    rw [all, result_resolveAll_eq_ok_iff oblivious loops]
    exact forall₂_congr fun path mem => exists_congr fun value => (single mem value).symm
  · obtain ⟨finished, rebuilt⟩ := result_ofFlat_eq_ok_iff.1 (whole ▸ done)
    obtain rfl := Except.ok.inj (rebuilds.symm.trans rebuilt)
    obtain ⟨value, present, known⟩ := get?_final_resolveAll oblivious loops finished mem
    exact ⟨value, (single mem value).2 known,
      get?_mapLeaves_current flattened mem present⟩

/-- A key that refers to an item of an array has the same value alone and in the document. -/
theorem ofSource_iff_ofKey_item :
    let setup : Setup := ⟨.standard, ⟨fun _ _ => .output "", fun _ => some "1", false⟩, .standard⟩
    let source : Document.Source :=
      .value (.obj [("a", .str "$\x7bb[0]\x7d!"), ("b", .arr [.str "$X", .null])])
    let resolved : Json := .obj [("a", .str "1!"), ("b", .arr [.str "1", .null])]
    setup.IsOblivious ∧ ¬ setup.registry.RecoversLoops ∧ source.KeysDistinct ∧
      (ofSource setup false source).result = .ok resolved ∧
      ∃ value, (ofKey setup source "a").result = .ok value ∧
        Path.get? resolved (Path.split "a") = some value := by
  intro setup source resolved
  have oblivious : setup.IsOblivious := ⟨fun _ _ => rfl, Registry.isStraight_standard⟩
  have loops : ¬ setup.registry.RecoversLoops := by
    rintro ⟨respond, registered, _⟩
    cases registered
  have distinct : source.KeysDistinct := by
    change Json.KeysDistinct _
    decide
  have done : (ofSource setup false source).result = .ok resolved := by cbv
  obtain ⟨flat, accepted, mem⟩ : ∃ flat, Flat.ofSource source = .ok flat ∧ "a" ∈ flat :=
    ⟨_, rfl, by decide⟩
  exact ⟨oblivious, loops, distinct, done,
    (ofSource_iff_ofKey oblivious loops distinct accepted).2 resolved done "a" mem⟩

end Resolution

end ConfigTemplate
