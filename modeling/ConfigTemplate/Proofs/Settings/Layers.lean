import ConfigTemplate.Proofs.Settings.Access
import ConfigTemplate.Proofs.Yaml.Keys
import ConfigTemplate.Settings.Load
import Mathlib

/-!
# Layers of settings

A later layer of settings takes precedence path by path. Where it has a mapping, the mapping of the
layer below shows through at the keys that it does not have; where it has anything else, nothing of
the layer below is left; and where it has nothing, everything is.
-/

namespace ConfigTemplate

namespace Settings

open Yaml (Key Value Mapping)

/-! ### Values at paths -/

/-- Whether a layer says nothing about a path: on the way there is a mapping without the next
key. -/
def Silent (layer : Mapping) (path : List Key) : Prop :=
  ∃ front entries key rest, path = front ++ key :: rest ∧
    reach front (.map layer) = some (.map entries) ∧ Mapping.get? key entries = none

theorem reach_append (path rest : List Key) (value : Value) :
    reach (path ++ rest) value = (reach path value).bind (reach rest) := by
  induction path generalizing value with
  | nil => simp
  | cons key path ih =>
    cases value with
    | map entries =>
      rw [List.cons_append, reach_cons_map, reach_cons_map, Option.bind_assoc]
      congr 1
      exact funext ih
    | _ => rfl

theorem keysDistinct_of_reach {path : List Key} {value inner : Value}
    (distinct : value.KeysDistinct) (leads : reach path value = some inner) :
    inner.KeysDistinct := by
  induction path generalizing value with
  | nil =>
    rw [reach_nil] at leads
    exact Option.some.inj leads ▸ distinct
  | cons key rest ih =>
    cases value with
    | map entries =>
      rw [reach_cons_map, Option.bind_eq_some_iff] at leads
      obtain ⟨next, found, further⟩ := leads
      exact ih (distinct.of_get? found) further
    | _ => cases leads

/-! ### One layer over another -/

/-- The mapping that a value is; an empty one for another value, or none. -/
def asMapping (value : Option Value) : Mapping := (value.bind Value.mapping?).getD []

theorem eq_map_of_mapping?_eq_some {value : Value} {entries : Mapping}
    (h : value.mapping? = some entries) : value = .map entries := by
  cases value with
  | map inner => rw [Option.some.inj h]
  | _ => cases h

theorem merged_of_mapping?_eq_none {value : Value} (h : value.mapping? = none)
    (base : Option Value) : merged base value = value := by
  cases value with
  | map entries => cases h
  | _ => simp [merged]

/-- A value in the place of one that is no mapping. -/
theorem merged_of_base {base : Option Value} (h : base.bind Value.mapping? = none)
    (value : Value) : merged base value = value := by
  cases value with
  | map entries =>
    rw [merged]
    rintro present rfl
    cases h
  | _ => simp [merged]

theorem merged_map_map (present entries : Mapping) :
    merged (some (.map present)) (.map entries) = .map (merge present entries) := by
  rw [merged]

theorem get?_merge {layer : Mapping} (distinct : (Mapping.keys layer).Nodup) (base : Mapping)
    (key : Key) :
    Mapping.get? key (merge base layer) =
      match Mapping.get? key layer with
      | some value => some (merged (Mapping.get? key base) value)
      | none => Mapping.get? key base := by
  induction layer generalizing base with
  | nil => rw [merge_nil, Mapping.get?_nil]
  | cons entry rest ih =>
    obtain ⟨name, value⟩ := entry
    rw [Mapping.keys_cons, List.nodup_cons] at distinct
    rw [merge, ih distinct.2, Mapping.get?_cons]
    by_cases same : name.canonical = key.canonical
    · have once : Mapping.get? key rest = none :=
        Mapping.get?_eq_none_iff.2 (same ▸ distinct.1)
      rw [once, if_pos same, Mapping.get?_congr same.symm, Mapping.get?_put_self,
        Mapping.get?_congr same.symm]
    · rw [if_neg same, Mapping.get?_put_of_ne same]

/-- What is at a path at which the later layer has a value. -/
theorem reach_merge_of_reach {layer : Mapping} (distinct : (Value.map layer).KeysDistinct)
    {path : List Key} {value : Value} (said : reach path (.map layer) = some value)
    (base : Mapping) :
    reach path (.map (merge base layer)) = some (merged (reach path (.map base)) value) := by
  induction path generalizing base layer with
  | nil =>
    rw [reach_nil] at said
    obtain rfl := Option.some.inj said
    rw [reach_nil, reach_nil, merged_map_map]
  | cons key rest ih =>
    rw [reach_cons_map, Option.bind_eq_some_iff] at said
    obtain ⟨next, found, said⟩ := said
    have nextDistinct := distinct.of_get? found
    rw [Value.KeysDistinct] at distinct
    rw [reach_cons_map, reach_cons_map, get?_merge distinct.1, found, Option.bind_some]
    cases nextKind : next.mapping? with
    | none =>
      -- nothing is below a value that is no mapping, so the path ends here
      cases rest with
      | cons => rw [reach_cons_of_mapping?_eq_none nextKind] at said; cases said
      | nil =>
        rw [reach_nil] at said
        obtain rfl := Option.some.inj said
        rw [merged_of_mapping?_eq_none nextKind, merged_of_mapping?_eq_none nextKind, reach_nil]
    | some entries =>
      obtain rfl : next = .map entries := eq_map_of_mapping?_eq_some nextKind
      cases below : Mapping.get? key base with
      | none => rw [merged_of_base rfl, Option.bind_none, said, merged_of_base rfl]
      | some present =>
        cases presentKind : present.mapping? with
        | none =>
          have under : (reach rest present).bind Value.mapping? = none := by
            cases rest with
            | nil => simpa using presentKind
            | cons => rw [reach_cons_of_mapping?_eq_none presentKind, Option.bind_none]
          rw [merged_of_base (by simpa using presentKind), said, Option.bind_some,
            merged_of_base under]
        | some inner =>
          obtain rfl : present = .map inner := eq_map_of_mapping?_eq_some presentKind
          rw [merged_map_map, Option.bind_some]
          exact ih nextDistinct said inner

/-- What is at a path about which the later layer says nothing. -/
theorem reach_merge_of_silent {layer : Mapping} (distinct : (Value.map layer).KeysDistinct)
    {path : List Key} (silent : Silent layer path) (base : Mapping) :
    reach path (.map (merge base layer)) = reach path (.map base) := by
  obtain ⟨front, entries, key, rest, rfl, leads, absent⟩ := silent
  have inside := keysDistinct_of_reach distinct leads
  rw [Value.KeysDistinct] at inside
  rw [reach_append, reach_append, reach_merge_of_reach distinct leads, Option.bind_some]
  cases below : (reach front (.map base)).bind Value.mapping? with
  | none =>
    rw [merged_of_base below, reach_cons_map, absent, Option.bind_none]
    cases there : reach front (.map base) with
    | none => rfl
    | some present =>
      rw [there, Option.bind_some] at below
      rw [Option.bind_some, reach_cons_of_mapping?_eq_none below]
  | some inner =>
    obtain ⟨present, there, same⟩ := Option.bind_eq_some_iff.1 below
    obtain rfl := eq_map_of_mapping?_eq_some same
    rw [there, merged_map_map, Option.bind_some, reach_cons_map, reach_cons_map,
      get?_merge inside.1, absent]

/-! ### A layer over nothing, and over itself -/

/-- A layer whose keys are all new comes behind what is there. -/
theorem merge_of_disjoint {layer : Mapping} (distinct : (Mapping.keys layer).Nodup)
    {base : Mapping} (disjoint : ∀ key ∈ Mapping.keys layer, key ∉ Mapping.keys base) :
    merge base layer = base ++ layer := by
  induction layer generalizing base with
  | nil => rw [merge_nil, List.append_nil]
  | cons entry rest ih =>
    obtain ⟨key, value⟩ := entry
    rw [Mapping.keys_cons, List.nodup_cons] at distinct
    have missing := disjoint _ (Mapping.keys_cons (key, value) rest ▸ List.mem_cons_self)
    have later : ∀ other ∈ Mapping.keys rest, other ∉ Mapping.keys (base ++ [(key, value)]) := by
      intro other mem
      have old := disjoint other (List.mem_cons_of_mem _ mem)
      have new : other ≠ key.canonical := fun same => distinct.1 (same ▸ mem)
      simp only [Mapping.keys, List.map_append, List.mem_append, List.map_cons, List.map_nil,
        List.mem_singleton, not_or]
      exact ⟨old, new⟩
    rw [merge, Mapping.get?_eq_none_iff.2 missing, merged_of_base rfl,
      Mapping.put_of_not_mem missing, ih distinct.2 later, List.append_assoc,
      List.singleton_append]

theorem merge_nil_left {layer : Mapping} (distinct : (Mapping.keys layer).Nodup) :
    merge [] layer = layer :=
  merge_of_disjoint distinct fun _ _ => List.not_mem_nil

theorem merged_map {base : Option Value} {entries : Mapping}
    (distinct : (Mapping.keys entries).Nodup) :
    merged base (.map entries) = .map (merge (asMapping base) entries) := by
  cases kind : base.bind Value.mapping? with
  | none => rw [merged_of_base kind, asMapping, kind, Option.getD_none, merge_nil_left distinct]
  | some inner =>
    obtain ⟨present, rfl, same⟩ := Option.bind_eq_some_iff.1 kind
    obtain rfl := eq_map_of_mapping?_eq_some same
    rw [merged_map_map, asMapping, kind, Option.getD_some]

/-- A layer all of whose values are there already changes nothing. -/
theorem merge_eq_self {base layer : Mapping}
    (there : ∀ entry ∈ layer, ∃ value, Mapping.get? entry.1 base = some value ∧
      merged (some value) entry.2 = value) : merge base layer = base := by
  induction layer with
  | nil => exact merge_nil base
  | cons entry rest ih =>
    obtain ⟨key, value⟩ := entry
    obtain ⟨⟨present, found, same⟩, others⟩ := List.forall_mem_cons.1 there
    rw [merge, found, same, Mapping.put_eq_self found, ih others]

mutual

/-- A value that was merged in is there, to merge it in again. -/
theorem merged_merged : ∀ {value : Value}, value.KeysDistinct → ∀ base : Option Value,
    merged (some (merged base value)) value = merged base value
  | .map entries, distinct, base => by
    rw [Value.KeysDistinct] at distinct
    have again := entries_merged_merged distinct.2
    have once : merged base (.map entries) = .map (merge (asMapping base) entries) :=
      merged_map distinct.1
    rw [once, merged_map_map]
    congr 1
    refine merge_eq_self fun entry mem => ?_
    refine ⟨merged (Mapping.get? entry.1 (asMapping base)) entry.2, ?_, again entry mem _⟩
    rw [get?_merge distinct.1, Mapping.get?_of_mem distinct.1 mem]
  | .null, _, _ | .bool _, _, _ | .int _, _, _ | .float _, _, _ | .str _, _, _ | .bytes _, _, _
  | .date _, _, _ | .time _, _, _ | .seq _, _, _ | .set _, _, _ | .pair _ _, _, _
  | .again _, _, _ => by simp only [merged]

theorem entries_merged_merged : ∀ {entries : List (Key × Value)},
    Yaml.EntriesKeysDistinct entries → ∀ entry ∈ entries, ∀ base : Option Value,
      merged (some (merged base entry.2)) entry.2 = merged base entry.2
  | [], _ => fun _ mem => absurd mem List.not_mem_nil
  | (key, value) :: rest, distinct => by
    rw [Yaml.EntriesKeysDistinct] at distinct
    rw [List.forall_mem_cons]
    exact ⟨merged_merged distinct.1, entries_merged_merged distinct.2⟩

end

/-- To merge a layer in twice is to merge it in once. -/
theorem merge_merge {layer : Mapping} (distinct : (Value.map layer).KeysDistinct)
    (base : Mapping) : merge (merge base layer) layer = merge base layer := by
  have twice := merged_merged distinct (some (.map base))
  rw [merged_map_map, merged_map_map] at twice
  exact Value.map.inj twice

/-! ### The rule -/

/-- Whether a mapping is what one layer leaves of another one, path by path. -/
structure Overlays (base layer result : Mapping) : Prop where
  /-- A value that is no mapping replaces what was there. -/
  replaced : ∀ path value, reach path (.map layer) = some value → value.mapping? = none →
    reach path (.map result) = some value
  /-- Below such a value there is nothing. -/
  ended : ∀ path value rest, reach path (.map layer) = some value → value.mapping? = none →
    rest ≠ [] → reach (path ++ rest) (.map result) = none
  /-- Where the layer says nothing, all is as it was. -/
  kept : ∀ path, Silent layer path → reach path (.map result) = reach path (.map base)
  /-- A mapping is merged with the one that was there, or with an empty one. -/
  merged : ∀ path entries, reach path (.map layer) = some (.map entries) →
    reach path (.map result) =
      some (.map (merge (asMapping (reach path (.map base))) entries))

theorem overlays_merge {layer : Mapping} (distinct : (Value.map layer).KeysDistinct)
    (base : Mapping) : Overlays base layer (merge base layer) where
  replaced path value said kind := by
    rw [reach_merge_of_reach distinct said, merged_of_mapping?_eq_none kind]
  ended path value rest said kind below := by
    rw [reach_append, reach_merge_of_reach distinct said, merged_of_mapping?_eq_none kind,
      Option.bind_some]
    cases rest with
    | nil => exact absurd rfl below
    | cons key rest => exact reach_cons_of_mapping?_eq_none kind key rest
  kept path silent := reach_merge_of_silent distinct silent base
  merged path entries said := by
    have inside := keysDistinct_of_reach distinct said
    rw [Value.KeysDistinct] at inside
    rw [reach_merge_of_reach distinct said, merged_map inside.1]

/-- At every path a layer has a value, or it has one that is no mapping over it, or it says
nothing. -/
theorem said_or_ended_or_silent (layer : Mapping) (path : List Key) :
    (∃ value, reach path (.map layer) = some value) ∨
      (∃ front value rest, path = front ++ rest ∧ rest ≠ [] ∧
        reach front (.map layer) = some value ∧ value.mapping? = none) ∨
      Silent layer path := by
  induction path using List.reverseRecOn with
  | nil => exact .inl ⟨_, reach_nil _⟩
  | append_singleton path key ih =>
    obtain ⟨value, said⟩ | ⟨front, value, rest, rfl, below, said, kind⟩ | silent := ih
    · cases kind : value.mapping? with
      | none =>
        exact .inr (.inl ⟨path, value, [key], rfl, List.cons_ne_nil _ _, said, kind⟩)
      | some entries =>
        obtain rfl := eq_map_of_mapping?_eq_some kind
        cases found : Mapping.get? key entries with
        | none => exact .inr (.inr ⟨path, entries, key, [], rfl, said, found⟩)
        | some inner =>
          refine .inl ⟨inner, ?_⟩
          rw [reach_append, said, Option.bind_some, reach_cons_map, found, Option.bind_some,
            reach_nil]
    · refine .inr (.inl ⟨front, value, rest ++ [key], ?_, ?_, said, kind⟩)
      · rw [List.append_assoc]
      · exact List.append_ne_nil_of_right_ne_nil _ (List.cons_ne_nil _ _)
    · obtain ⟨front, entries, next, rest, rfl, leads, absent⟩ := silent
      refine .inr (.inr ⟨front, entries, next, rest ++ [key], ?_, leads, absent⟩)
      rw [List.append_assoc, List.cons_append]

/-- The rule says what is at every path. -/
theorem Overlays.reach_eq {base layer first second : Mapping} (one : Overlays base layer first)
    (other : Overlays base layer second) (path : List Key) :
    reach path (.map first) = reach path (.map second) := by
  obtain ⟨value, said⟩ | ⟨front, value, rest, rfl, below, said, kind⟩ | silent :=
    said_or_ended_or_silent layer path
  · cases kind : value.mapping? with
    | none => rw [one.replaced path value said kind, other.replaced path value said kind]
    | some entries =>
      obtain rfl := eq_map_of_mapping?_eq_some kind
      rw [one.merged path entries said, other.merged path entries said]
  · rw [one.ended front value rest said kind below, other.ended front value rest said kind below]
  · rw [one.kept path silent, other.kept path silent]

/-! ### The layers of loaded settings -/

/-- The mapping in the settings file; an empty one where there is none. -/
def fileMapping (files : Files) (given fromEnvironment : Option String) : Mapping :=
  match findFile files given fromEnvironment with
  | none => []
  | some location =>
    match readFile files location with
    | .ok layer => asMapping (some layer.file.value)
    | .error _ => []

/-- Whether no two places in the settings file hold the same container. -/
def NothingShared (files : Files) (given fromEnvironment : Option String) : Prop :=
  ∀ location layer, findFile files given fromEnvironment = some location →
    readFile files location = .ok layer → layer.file.isTree = true

theorem keysDistinct_asMapping {value : Value} (distinct : value.KeysDistinct) :
    (Value.map (asMapping (some value))).KeysDistinct := by
  cases kind : value.mapping? with
  | none =>
    rw [asMapping, Option.bind_some, kind, Option.getD_none, Value.KeysDistinct]
    exact ⟨List.nodup_nil, trivial⟩
  | some entries =>
    rw [asMapping, Option.bind_some, kind, Option.getD_some]
    exact eq_map_of_mapping?_eq_some kind ▸ distinct

theorem Layer.keysDistinct_none : Layer.none.file.KeysDistinct :=
  ⟨fun _ mem => absurd mem (Array.not_mem_empty _), trivial⟩

theorem Layer.keysDistinct_of_ofFile {file : Yaml.Linked} {layer : Layer}
    (distinct : file.KeysDistinct) (h : Layer.ofFile file = .ok layer) :
    layer.file.KeysDistinct := by
  unfold Layer.ofFile at h
  split at h
  · cases h
    exact keysDistinct_none
  · split at h
    · cases h
    · split at h <;> cases h
      exact distinct

theorem Layer.keysDistinct_of_ofText {name : String} {text : List Char} {layer : Layer}
    (h : Layer.ofText name text = .ok layer) : layer.file.KeysDistinct := by
  unfold Layer.ofText at h
  split at h
  · cases h
  · cases h
  · next file read =>
    exact keysDistinct_of_ofFile (Yaml.Linked.keysDistinct_of_ofText read)
      (Yaml.Constructor.ok_of_mapError h)

theorem keysDistinct_of_readFile {files : Files} {location : Location} {layer : Layer}
    (h : readFile files location = .ok layer) : layer.file.KeysDistinct := by
  unfold readFile at h
  split at h
  · cases h
  · cases h
  · split at h
    · cases h
    · exact Layer.keysDistinct_of_ofText h
  · cases h
    exact Layer.keysDistinct_none
  · cases h

theorem keysDistinct_fileMapping (files : Files) (given fromEnvironment : Option String) :
    (Value.map (fileMapping files given fromEnvironment)).KeysDistinct := by
  have nothing : (Value.map []).KeysDistinct := ⟨List.nodup_nil, trivial⟩
  unfold fileMapping
  split
  · exact nothing
  · split
    · next layer read =>
      exact keysDistinct_asMapping (Yaml.Linked.keysDistinct_value (keysDistinct_of_readFile read))
    · exact nothing

theorem eq_of_checked {settings result : Settings} (h : settings.checked = .ok result) :
    result = settings := by
  unfold checked at h
  split at h <;> cases h
  rfl

/-- The layers of settings that were loaded. -/
theorem data_of_load {files : Files} {given fromEnvironment : Option String}
    {overrides : Mapping} {settings : Settings}
    (unshared : NothingShared files given fromEnvironment)
    (h : load files given fromEnvironment overrides = .ok settings) :
    settings.data =
      merge (merge standard.data (fileMapping files given fromEnvironment)) overrides := by
  cases found : findFile files given fromEnvironment with
  | none =>
    simp only [load, found] at h
    simp only [fileMapping, found, merge_nil]
    rw [eq_of_checked h, overriddenBy]
  | some location =>
    simp only [load, found] at h
    cases read : readFile files location with
    | error halt =>
      rw [read] at h
      cases h
    | ok layer =>
      simp only [read] at h
      simp only [fileMapping, found, read]
      rw [eq_of_checked h, layered, if_pos (unshared location layer found read)]
      rfl

/-! ### Two settings files -/

/-- Files with nothing but a settings file in the working directory, whose text is ASCII. -/
def withFile (text : String) : Files :=
  ⟨[], [([fileName], .file (text.toList.map fun c => UInt8.ofNat c.toNat))]⟩

theorem find_withFile (text : String) : (withFile text).find (.ofText fileName) =
    .ok (.file (text.toList.map fun c => UInt8.ofNat c.toNat)) := by
  have place : (withFile text).place (.ofText fileName) = .ok [fileName] := by rfl
  have there : Files.entry? (withFile text) [fileName] =
      some (.file (text.toList.map fun c => UInt8.ofNat c.toNat)) := by
    simp [withFile, Files.entry?, Entries.get?]
  simp only [Files.find, place, there]

theorem findFile_withFile (text : String) :
    findFile (withFile text) none none = some (.ofText fileName) := by
  simp only [findFile, Files.isFile, find_withFile]
  rfl

theorem eq_ok_of_toOption {ε α : Type} {result : Except ε α} {x : α}
    (h : result.toOption = some x) : result = .ok x := by
  cases result with
  | error => cases h
  | ok y => rw [Option.some.inj h]

/-- The document of some tokens. -/
def graphOf? (tokens : List Yaml.Token) : Option Yaml.Graph :=
  match Yaml.Composer.document.run ⟨tokens, none, #[], []⟩ with
  | .ok (some root, s) => some ⟨s.nodes, root⟩
  | _ => none

/-- The layer in a settings file, by way of its tokens and its document. -/
theorem readFile_withFile {text : String} {tokens : List Yaml.Token} {graph : Yaml.Graph}
    {layer : Layer}
    (decoded : Text.Encoding.decodeFrom .utf8 0 (text.toList.map fun c => UInt8.ofNat c.toNat) =
      .ok text.toList)
    (read : Yaml.Token.ofText (Text.unifyBreaks text.toList) = (tokens, none))
    (composed : graphOf? tokens = some graph)
    (valued : Yaml.Linked.ofGraph graph = .ok layer.file)
    (isRoot : Layer.ofFile layer.file = .ok layer) :
    readFile (withFile text) (.ofText fileName) = .ok layer := by
  have document : Yaml.Graph.ofText (Text.unifyBreaks text.toList) = .ok (some graph) := by
    rw [Yaml.Graph.ofText, read]
    unfold graphOf? at composed
    split at composed
    next root s run =>
      cases composed
      simp only [run]
    next => cases composed
  simp only [readFile, find_withFile, decoded, Layer.ofText, Yaml.Linked.ofText, document, valued,
    isRoot]
  rfl

section

open Yaml Yaml.Constructor

theorem standardTag_eqs : standardTag "map" = "tag:yaml.org,2002:map" ∧
    standardTag "merge" = "tag:yaml.org,2002:merge" ∧
    standardTag "value" = "tag:yaml.org,2002:value" := by
  decide +kernel

theorem collectionTags_eqs : "tag:yaml.org,2002:map" ∈ collectionTags ∧
    "tag:yaml.org,2002:str" ∉ collectionTags ∧ "tag:yaml.org,2002:int" ∉ collectionTags ∧
    "tag:yaml.org,2002:null" ∉ collectionTags := by
  decide +kernel

theorem kind_eqs :
    (Scalar.Kind.all.find? fun kind => standardTag kind.name = "tag:yaml.org,2002:str") =
        some .str ∧
      (Scalar.Kind.all.find? fun kind => standardTag kind.name = "tag:yaml.org,2002:int") =
        some .int ∧
      (Scalar.Kind.all.find? fun kind => standardTag kind.name = "tag:yaml.org,2002:null") =
        some .null := by
  decide +kernel

/-- The document of a file in which a section is null. -/
def nullGraph : Graph :=
  ⟨#[.map "tag:yaml.org,2002:map" [(1, 2)], .scalar "tag:yaml.org,2002:str" "output",
    .scalar "tag:yaml.org,2002:null" ""], 0⟩

/-- The document of a file in which two places hold the same mapping. -/
def sharedGraph : Graph :=
  ⟨#[.map "tag:yaml.org,2002:map" [(1, 2), (5, 2)], .scalar "tag:yaml.org,2002:str" "x",
    .map "tag:yaml.org,2002:map" [(3, 4)], .scalar "tag:yaml.org,2002:str" "k",
    .scalar "tag:yaml.org,2002:int" "1", .scalar "tag:yaml.org,2002:str" "y"], 0⟩

set_option maxRecDepth 20000 in
/-- The values of both documents. -/
theorem ofGraph_eqs :
    Linked.ofGraph nullGraph =
        .ok ⟨#[.map [(.str "output", .own .null)], .seq [], .seq []], .shared 0⟩ ∧
      Linked.ofGraph sharedGraph =
        .ok ⟨#[.map [(.str "x", .shared 2), (.str "y", .shared 2)], .seq [],
          .map [(.str "k", .own (.int 1))], .seq [], .seq [], .seq []], .shared 0⟩ := by
  have one : Scalar.integer "1" = .ok 1 := eq_ok_of_toOption (by decide +kernel)
  constructor
  all_goals
    simp [nullGraph, sharedGraph, Linked.ofGraph, slot, fillFrom, containerOf, mergedEntries,
      Constructor.merge, takenOver, entriesOf, tag, node, Graph.entryCount, standardTag_eqs,
      collectionTags_eqs, kind_eqs, one, StateT.run, StateT.bind, StateT.pure, bind, Except.bind,
      pure, Except.pure, getThe, MonadState.get, MonadStateOf.get, StateT.get, modify, modifyGet,
      MonadStateOf.modifyGet, StateT.modifyGet, Node.tag, Constructor.entries, key, keyOf,
      Constructor.scalar, scalarText, scalarValue, Except.map, Except.mapError, Functor.map,
      Value.toKey?, Mapping.put]
    rfl

/-- A settings file in which a section is null. -/
theorem readFile_null : readFile (withFile "output:\n") (.ofText fileName) =
    .ok ⟨⟨#[.map [(.str "output", .own .null)], .seq [], .seq []], .shared 0⟩,
      [(.str "output", .own .null)]⟩ := by
  have tokens : Token.ofText (Text.unifyBreaks "output:\n".toList) =
      ([.blockMappingStart, .key, .scalar "output" true, .value, .blockEnd], none) := by cbv
  have graph :
      graphOf? [.blockMappingStart, .key, .scalar "output" true, .value, .blockEnd] =
        some nullGraph := by
    decide +kernel
  exact readFile_withFile (by cbv) tokens graph ofGraph_eqs.1 (by cbv)

set_option maxRecDepth 20000 in
/-- A settings file in which two places hold the same mapping. -/
theorem readFile_shared : readFile (withFile "x: &a {k: 1}\ny: *a\n") (.ofText fileName) =
    .ok ⟨⟨#[.map [(.str "x", .shared 2), (.str "y", .shared 2)], .seq [],
        .map [(.str "k", .own (.int 1))], .seq [], .seq [], .seq []], .shared 0⟩,
      [(.str "x", .shared 2), (.str "y", .shared 2)]⟩ := by
  have tokens : Token.ofText (Text.unifyBreaks "x: &a {k: 1}\ny: *a\n".toList) =
      ([.blockMappingStart, .key, .scalar "x" true, .value, .anchor "a", .flowMappingStart, .key,
        .scalar "k" true, .value, .scalar "1" true, .flowMappingEnd, .key, .scalar "y" true,
        .value, .alias "a", .blockEnd], none) := by cbv
  have graph :
      graphOf? [.blockMappingStart, .key, .scalar "x" true, .value, .anchor "a",
          .flowMappingStart, .key, .scalar "k" true, .value, .scalar "1" true, .flowMappingEnd,
          .key, .scalar "y" true, .value, .alias "a", .blockEnd] =
        some sharedGraph := by
    decide +kernel
  exact readFile_withFile (by cbv) tokens graph ofGraph_eqs.2 (by cbv)

end

theorem fileMapping_null :
    fileMapping (withFile "output:\n") none none = [(.str "output", .null)] := by
  simp only [fileMapping, findFile_withFile, readFile_null]
  cbv

theorem fileMapping_shared : fileMapping (withFile "x: &a {k: 1}\ny: *a\n") none none =
    [(.str "x", .map [(.str "k", .int 1)]), (.str "y", .map [(.str "k", .int 1)])] := by
  simp only [fileMapping, findFile_withFile, readFile_shared]
  cbv

/-! ### Loaded settings -/

/-- Layers compose path by path, each of them counts once, and loaded settings are the standard
ones with the settings file over them and the overrides over both. -/
theorem layers_path_by_path {overrides : Mapping} (distinct : (Value.map overrides).KeysDistinct) :
    (∀ base, Overlays base overrides (merge base overrides)) ∧
      (∀ base, merge (merge base overrides) overrides = merge base overrides) ∧
      ∀ files given fromEnvironment settings,
        load files given fromEnvironment overrides = .ok settings →
        NothingShared files given fromEnvironment →
        ∃ below, Overlays standard.data (fileMapping files given fromEnvironment) below ∧
          Overlays below overrides settings.data ∧
          ∀ path, Silent (fileMapping files given fromEnvironment) path →
            Silent overrides path →
            reach path (.map settings.data) = reach path (.map standard.data) := by
  refine ⟨overlays_merge distinct, merge_merge distinct, ?_⟩
  intro files given fromEnvironment settings loaded unshared
  have file := overlays_merge (keysDistinct_fileMapping files given fromEnvironment) standard.data
  have above := overlays_merge distinct
    (merge standard.data (fileMapping files given fromEnvironment))
  rw [← data_of_load unshared loaded] at above
  refine ⟨_, file, above, fun path silent unsaid => ?_⟩
  rw [above.kept path unsaid, file.kept path silent]

/-- A mapping over a section that the settings file sets to null. -/
theorem layers_path_by_path_null : ∃ settings,
    load (withFile "output:\n") none none [(.str "output", .map [(.str "indent", .int 4)])] =
        .ok settings ∧
      reach [.str "output", .str "indent"] (.map settings.data) = some (.int 4) ∧
      reach [.str "resolver", .str "external"] (.map settings.data) = some (.bool true) := by
  have distinct : (Value.map [(.str "output", .map [(.str "indent", .int 4)])]).KeysDistinct := by
    simp [Value.KeysDistinct, Yaml.EntriesKeysDistinct, Mapping.keys]
  obtain ⟨settings, loaded⟩ : ∃ settings,
      load (withFile "output:\n") none none [(.str "output", .map [(.str "indent", .int 4)])] =
        .ok settings := by
    simp only [load, findFile_withFile, readFile_null]
    exact ⟨_, by cbv⟩
  have unshared : NothingShared (withFile "output:\n") none none := by
    intro location layer found read
    cases (findFile_withFile _).symm.trans found
    cases readFile_null.symm.trans read
    cbv
  obtain ⟨below, -, above, kept⟩ :=
    (layers_path_by_path distinct).2.2 _ none none settings loaded unshared
  refine ⟨settings, loaded, ?_, ?_⟩
  · exact above.replaced _ (.int 4) (by cbv) rfl
  · rw [kept [.str "resolver", .str "external"] ?_ ⟨[], _, _, _, rfl, reach_nil _, by cbv⟩]
    · cbv
    · rw [fileMapping_null]
      exact ⟨[], _, _, _, rfl, reach_nil _, by cbv⟩

/-- Where two places in the settings file hold the same mapping, a value that overrides set at one
of them is found at the other one, too. -/
theorem not_layered_of_shared : ∃ settings,
    load (withFile "x: &a {k: 1}\ny: *a\n") none none [(.str "x", .map [(.str "k", .int 2)])] =
        .ok settings ∧
      ¬ ∃ below,
        Overlays standard.data (fileMapping (withFile "x: &a {k: 1}\ny: *a\n") none none) below ∧
          Overlays below [(.str "x", .map [(.str "k", .int 2)])] settings.data := by
  obtain ⟨settings, loaded, two⟩ : ∃ settings,
      load (withFile "x: &a {k: 1}\ny: *a\n") none none
          [(.str "x", .map [(.str "k", .int 2)])] = .ok settings ∧
        reach [.str "y", .str "k"] (.map settings.data) = some (.int 2) := by
    simp only [load, findFile_withFile, readFile_shared]
    exact ⟨_, by cbv, by cbv⟩
  refine ⟨settings, loaded, ?_⟩
  rintro ⟨below, file, above⟩
  have one := file.replaced [.str "y", .str "k"] (.int 1) (by rw [fileMapping_shared]; cbv) rfl
  have kept := above.kept [.str "y", .str "k"] ⟨[], _, _, _, rfl, reach_nil _, by cbv⟩
  rw [kept, one] at two
  cases two

end Settings

end ConfigTemplate
