import ConfigTemplate.Yaml.Load
import Mathlib

/-!
# Keys of mappings

No key is twice in a mapping of a settings file. A mapping is built by storing its entries one after
the other, and a key that is stored again takes the place of the earlier one; nothing else that is
done while a file is read touches the mappings that are there already.
-/

namespace ConfigTemplate

namespace Yaml

namespace Mapping

variable {α : Type} {key : Key} {mapping : List (Key × α)}

/-- The keys of a mapping, in the form by which equal keys are told. -/
def keys (mapping : List (Key × α)) : List Key := mapping.map (·.1.canonical)

@[simp] theorem keys_nil : keys ([] : List (Key × α)) = [] := rfl

@[simp] theorem keys_cons (entry : Key × α) (mapping : List (Key × α)) :
    keys (entry :: mapping) = entry.1.canonical :: keys mapping := rfl

theorem get?_congr {other : Key} (same : key.canonical = other.canonical)
    (mapping : List (Key × α)) : get? key mapping = get? other mapping := by
  induction mapping with
  | nil => rfl
  | cons entry rest ih => rw [get?_cons, get?_cons, same, ih]

theorem get?_eq_none_iff : get? key mapping = none ↔ key.canonical ∉ keys mapping := by
  fun_induction get? key mapping with
  | case1 => simp
  | case2 k v rest same => simp [same]
  | case3 k v rest other ih => simp [ih, Ne.symm other]

theorem get?_of_mem (distinct : (keys mapping).Nodup) {entry : Key × α} (mem : entry ∈ mapping) :
    get? entry.1 mapping = some entry.2 := by
  induction mapping with
  | nil => cases mem
  | cons first rest ih =>
    obtain ⟨k, v⟩ := first
    rw [keys_cons, List.nodup_cons] at distinct
    obtain rfl | later := List.mem_cons.1 mem
    · rw [get?_cons, if_pos rfl]
    · have other : k.canonical ≠ entry.1.canonical := fun same =>
        distinct.1 (same ▸ List.mem_map_of_mem later)
      rw [get?_cons, if_neg other, ih distinct.2 later]

theorem exists_mem_of_get? {value : α} (found : get? key mapping = some value) :
    ∃ other, (other, value) ∈ mapping := by
  fun_induction get? key mapping with
  | case1 => cases found
  | case2 k v rest same =>
    obtain rfl := Option.some.inj found
    exact ⟨k, List.mem_cons_self⟩
  | case3 k v rest other ih =>
    obtain ⟨other, mem⟩ := ih found
    exact ⟨other, List.mem_cons_of_mem _ mem⟩

/-- To store a value again changes nothing. -/
theorem put_eq_self {value : α} (found : get? key mapping = some value) :
    put key value mapping = mapping := by
  fun_induction get? key mapping with
  | case1 => cases found
  | case2 k v rest same =>
    obtain rfl := Option.some.inj found
    rw [put, if_pos same]
  | case3 k v rest other ih => rw [put, if_neg other, ih found]

theorem put_of_not_mem (missing : key.canonical ∉ keys mapping) (value : α) :
    put key value mapping = mapping ++ [(key, value)] := by
  induction mapping with
  | nil => rfl
  | cons first rest ih =>
    rw [keys_cons, List.mem_cons, not_or] at missing
    rw [put, if_neg (Ne.symm missing.1), ih missing.2, List.cons_append]

end Mapping

mutual

/-- Whether no key is twice in a mapping, and in the mappings that are values of its keys. -/
def Value.KeysDistinct : Value → Prop
  | .map entries => (Mapping.keys entries).Nodup ∧ EntriesKeysDistinct entries
  | _ => True

/-- Whether no key is twice in the mappings that are values of some entries. -/
def EntriesKeysDistinct : List (Key × Value) → Prop
  | [] => True
  | (_, value) :: rest => value.KeysDistinct ∧ EntriesKeysDistinct rest

end

theorem entriesKeysDistinct_iff {entries : List (Key × Value)} :
    EntriesKeysDistinct entries ↔ ∀ entry ∈ entries, entry.2.KeysDistinct := by
  induction entries with
  | nil => simp [EntriesKeysDistinct]
  | cons entry entries ih =>
    obtain ⟨key, value⟩ := entry
    rw [EntriesKeysDistinct, ih, List.forall_mem_cons]

theorem Value.KeysDistinct.of_mapping? {value : Value} (h : value.mapping? = none) :
    value.KeysDistinct := by
  cases value with
  | map entries => cases h
  | _ => trivial

theorem Value.KeysDistinct.of_get? {entries : Mapping} (distinct : (map entries).KeysDistinct)
    {key : Key} {value : Value} (found : Mapping.get? key entries = some value) :
    value.KeysDistinct := by
  obtain ⟨other, mem⟩ := Mapping.exists_mem_of_get? found
  rw [Value.KeysDistinct] at distinct
  exact entriesKeysDistinct_iff.1 distinct.2 _ mem

theorem Mapping.mem_of_mem_put {α : Type} {key : Key} {value : α} {mapping : List (Key × α)}
    {entry : Key × α} (mem : entry ∈ put key value mapping) :
    entry ∈ mapping ∨ entry.2 = value := by
  fun_induction put key value mapping with
  | case1 => exact .inr (congrArg Prod.snd (List.mem_singleton.1 mem))
  | case2 k v rest same =>
    obtain rfl | later := List.mem_cons.1 mem
    · exact .inr rfl
    · exact .inl (List.mem_cons_of_mem _ later)
  | case3 k v rest other ih =>
    obtain rfl | later := List.mem_cons.1 mem
    · exact .inl List.mem_cons_self
    · exact (ih later).imp_left (List.mem_cons_of_mem _)

theorem Mapping.mem_keys_of_mem_keys_put {α : Type} {key : Key} {value : α}
    {mapping : List (Key × α)} {other : Key} (mem : other ∈ keys (put key value mapping)) :
    other ∈ keys mapping ∨ other = key.canonical := by
  fun_induction put key value mapping with
  | case1 => exact .inr (List.mem_singleton.1 mem)
  | case2 k v rest same => exact .inl mem
  | case3 k v rest different ih =>
    obtain rfl | later := List.mem_cons.1 mem
    · exact .inl List.mem_cons_self
    · exact (ih later).imp_left (List.mem_cons_of_mem _)

theorem Mapping.nodup_keys_put {α : Type} {mapping : List (Key × α)}
    (distinct : (keys mapping).Nodup) (key : Key) (value : α) :
    (keys (put key value mapping)).Nodup := by
  fun_induction put key value mapping with
  | case1 => simp
  | case2 k v rest same => exact distinct
  | case3 k v rest other ih =>
    rw [keys_cons, List.nodup_cons] at distinct ⊢
    refine ⟨fun mem => ?_, ih distinct.2⟩
    obtain inRest | same := mem_keys_of_mem_keys_put mem
    · exact distinct.1 inRest
    · exact other same

/-! ### What containers hold -/

/-- Whether no key is twice in a value that a place has of its own. -/
def Slot.KeysDistinct : Slot → Prop
  | .own value => value.KeysDistinct
  | .shared _ => True

/-- Whether no key is twice in a container that is a mapping, and in what its places have of their
own. -/
def Container.KeysDistinct : Container → Prop
  | .map entries => (Mapping.keys entries).Nodup ∧ ∀ entry ∈ entries, entry.2.KeysDistinct
  | _ => True

/-- Whether no key is twice in the mappings of a linked value. -/
structure Linked.KeysDistinct (linked : Linked) : Prop where
  containers : ∀ container ∈ linked.containers, container.KeysDistinct
  root : linked.root.KeysDistinct

namespace Constructor

variable {α β : Type}

/-- Whether no key is twice in the mappings that were built. -/
def Intact (s : Construction) : Prop := ∀ container ∈ s.containers, container.KeysDistinct

/-- Whether a step leaves all mappings intact, and its result is as demanded. -/
def Ensures (post : α → Prop) (step : Constructor α) : Prop :=
  ∀ s x s', Intact s → step.run s = .ok (x, s') → post x ∧ Intact s'

/-- Whether a step leaves all mappings intact. -/
abbrev Keeps (step : Constructor α) : Prop := Ensures (fun _ => True) step

variable {post : α → Prop} {step : Constructor α}

theorem Ensures.pure {x : α} (h : post x) : Ensures post (pure x) := by
  intro s y s' intact result
  cases result
  exact ⟨h, intact⟩

theorem Ensures.bind {post' : β → Prop} {next : α → Constructor β} (first : Ensures post step)
    (rest : ∀ x, post x → Ensures post' (next x)) : Ensures post' (step >>= next) := by
  intro s y s' intact result
  cases here : step.run s with
  | error fault => rw [StateT.run_bind, here] at result; cases result
  | ok done =>
    obtain ⟨x, between⟩ := done
    rw [StateT.run_bind, here] at result
    obtain ⟨demanded, intact⟩ := first s x between intact here
    exact rest x demanded between y s' intact result

theorem Ensures.mono {post' : α → Prop} (h : Ensures post step) (weaker : ∀ x, post x → post' x) :
    Ensures post' step := fun s x s' intact result =>
  (h s x s' intact result).imp_left (weaker x)

theorem Ensures.keeps (h : Ensures post step) : Keeps step := h.mono fun _ _ => trivial

theorem Keeps.bind {post' : β → Prop} {next : α → Constructor β} (first : Keeps step)
    (rest : ∀ x, Ensures post' (next x)) : Ensures post' (step >>= next) :=
  Ensures.bind first fun x _ => rest x

theorem Ensures.ite {c : Prop} [Decidable c] {other : Constructor α} (h : Ensures post step)
    (h' : Ensures post other) : Ensures post (if c then step else other) := by
  split
  · exact h
  · exact h'

theorem Ensures.giveUp : Ensures post giveUp := by
  intro s x s' _ result
  cases result

theorem Keeps.get : Keeps get := by
  intro s x s' intact result
  cases result
  exact ⟨trivial, intact⟩

/-- A change of anything but the containers. -/
theorem Keeps.modify {change : Construction → Construction}
    (same : ∀ s, (change s).containers = s.containers) : Keeps (modify change) := by
  intro s x s' intact result
  cases result
  refine ⟨trivial, ?_⟩
  rw [Intact, same]
  exact intact

theorem Keeps.mapM {f : α → Constructor β} {xs : List α} (h : ∀ x ∈ xs, Keeps (f x)) :
    Keeps (xs.mapM f) := by
  induction xs with
  | nil => exact .pure trivial
  | cons x xs ih =>
    rw [List.forall_mem_cons] at h
    rw [List.mapM_cons]
    exact Keeps.bind h.1 fun y => Keeps.bind (ih h.2) fun ys => .pure trivial

/-! ### Reading nodes -/

theorem keeps_node (number : Nat) : Keeps (node number) := Keeps.get.bind fun _ => .pure trivial

theorem keeps_tag (number : Nat) : Keeps (tag number) :=
  (keeps_node number).bind fun _ => .pure trivial

theorem keeps_entriesOf (number : Nat) : Keeps (entriesOf number) := by
  refine (keeps_node number).bind fun node => ?_
  cases node with
  | map tag entries => exact .pure trivial
  | _ => exact .giveUp

theorem keeps_replace (number : Nat) (node : Node) : Keeps (replace number node) :=
  .modify fun _ => rfl

theorem keeps_replaceEntries (number : Nat) (entries : List (Nat × Nat)) :
    Keeps (replaceEntries number entries) :=
  (keeps_tag number).bind fun _ => keeps_replace number _

theorem keeps_plainKey (key : Nat) : Keeps (plainKey key) := by
  refine (keeps_node key).bind fun node => ?_
  cases node <;> exact keeps_replace key _

mutual

theorem keeps_merge (number : Nat) : ∀ fuel : Nat, Keeps (merge number fuel)
  | 0 => by
    rw [merge]
    exact .giveUp
  | fuel + 1 => by
    rw [merge]
    refine (keeps_entriesOf number).bind fun entries => ?_
    refine (keeps_takenOver number fuel entries).bind fun taken => ?_
    split
    · exact (keeps_entriesOf number).bind fun own => keeps_replaceEntries number _
    · exact .pure trivial

theorem keeps_takenOver (number fuel : Nat) : ∀ entries : List (Nat × Nat),
    Keeps (takenOver number fuel entries)
  | [] => by
    rw [takenOver]
    exact .pure trivial
  | (key, value) :: rest => by
    rw [takenOver]
    refine (keeps_tag key).bind fun name => (keeps_entriesOf number).bind fun entries => ?_
    split
    · refine (keeps_entriesOf number).bind fun own => ?_
      refine (keeps_replaceEntries number _).bind fun _ => ?_
      refine (keeps_sources value fuel).bind fun taken => ?_
      exact (keeps_takenOver number fuel rest).bind fun others => .pure trivial
    · by_cases isDefault : name = standardTag "value"
      · rw [if_pos isDefault]
        exact (keeps_plainKey key).bind fun _ => keeps_takenOver number fuel rest
      · rw [if_neg isDefault]
        exact keeps_takenOver number fuel rest

theorem keeps_sources (value : Nat) : ∀ fuel : Nat, Keeps (sources value fuel)
  | 0 => by
    rw [sources]
    exact .giveUp
  | fuel + 1 => by
    rw [sources]
    refine (keeps_node value).bind fun node => ?_
    cases node with
    | map tag entries => exact (keeps_merge value fuel).bind fun _ => keeps_entriesOf value
    | seq tag items =>
      refine (Keeps.mapM fun item _ => ?_).bind fun several => .pure trivial
      refine (keeps_entriesOf item).bind fun _ => ?_
      exact (keeps_merge item fuel).bind fun _ => keeps_entriesOf item
    | scalar tag text => exact .giveUp

end

theorem Keeps.findM? {test : α → Constructor Bool} (h : ∀ x, Keeps (test x)) :
    ∀ xs : List α, Keeps (xs.findM? test)
  | [] => .pure trivial
  | x :: xs => by
    rw [List.findM?]
    refine (h x).bind fun found => ?_
    cases found with
    | true => exact .pure trivial
    | false => exact Keeps.findM? h xs

theorem keeps_scalarText (fuel number : Nat) : Keeps (scalarText fuel number) := by
  induction fuel generalizing number with
  | zero => exact .giveUp
  | succ fuel ih =>
    refine (keeps_node number).bind fun node => ?_
    cases node with
    | scalar tag text => exact .pure trivial
    | seq tag items => exact .giveUp
    | map tag entries =>
      refine (Keeps.findM? (fun entry => ?_) entries).bind fun found => ?_
      · exact (keeps_tag entry.1).bind fun _ => .pure trivial
      · cases found with
        | none => exact .giveUp
        | some entry => exact ih entry.2

theorem ok_of_mapError {ε ε' : Type} {f : ε → ε'} {result : Except ε α} {x : α}
    (h : result.mapError f = .ok x) : result = .ok x := by
  cases result with
  | error fault => cases h
  | ok y => exact congrArg Except.ok (Except.ok.inj h)

theorem exists_of_map_eq_ok {ε : Type} {f : α → β} {result : Except ε α} {y : β}
    (h : f <$> result = .ok y) : ∃ x, result = .ok x ∧ f x = y := by
  cases result with
  | error fault => cases h
  | ok x => exact ⟨x, rfl, Except.ok.inj h⟩

theorem mapping?_of_truthValue {text : String} {value : Value}
    (h : Scalar.truthValue text = .ok value) : value.mapping? = none := by
  simp only [Scalar.truthValue] at h
  split at h
  next => cases h; rfl
  next => cases h

theorem mapping?_of_timestamp {text : String} {value : Value}
    (h : Scalar.timestamp text = .ok value) : value.mapping? = none := by
  unfold Scalar.timestamp at h
  split at h
  next => cases h
  next t _ =>
    split at h
    next =>
      obtain ⟨_, _, rfl⟩ := exists_of_map_eq_ok h
      rfl
    next =>
      obtain ⟨_, _, rfl⟩ := exists_of_map_eq_ok h
      rfl

/-- A scalar is no mapping. -/
theorem mapping?_of_scalarValue {kind : Scalar.Kind} {text : String} {value : Value}
    (h : scalarValue kind text = .ok value) : value.mapping? = none := by
  cases kind with
  | bool => exact mapping?_of_truthValue (ok_of_mapError h)
  | timestamp => exact mapping?_of_timestamp (ok_of_mapError h)
  | int | float =>
    obtain ⟨_, _, rfl⟩ := exists_of_map_eq_ok (ok_of_mapError h)
    rfl
  | binary =>
    simp only [scalarValue] at h
    split at h
    next => cases h; rfl
    next => cases h
  | null | str => cases h; rfl
  | merge | default | indicator => cases h

theorem ensures_scalar (kind : Scalar.Kind) (number : Nat) :
    Ensures Value.KeysDistinct (scalar kind number) := by
  refine Keeps.get.bind fun s => (keeps_scalarText _ number).bind fun text => ?_
  refine (keeps_node number).bind fun node => ?_
  have valued : Ensures Value.KeysDistinct
      (fun s => (scalarValue kind text).map fun value => (value, s)) := by
    intro s value s' intact result
    obtain ⟨_, valued, same⟩ := exists_of_map_eq_ok result
    cases same
    exact ⟨.of_mapping? (mapping?_of_scalarValue valued), intact⟩
  split
  next =>
    intro s value s' _ result
    cases result
  next => exact valued

theorem ensures_slot (number : Nat) : Ensures Slot.KeysDistinct (slot number) := by
  refine (keeps_tag number).bind fun name => ?_
  split
  · refine Keeps.get.bind fun s => ?_
    have met : Ensures Slot.KeysDistinct (pure (.shared number)) := .pure trivial
    by_cases new : (!s.met.getD number false) = true
    · simp only [new, if_true]
      exact Keeps.bind (.modify fun _ => rfl) fun _ => met
    · simp only [new]
      exact met
  · split
    next kind _ => exact (ensures_scalar kind number).bind fun value distinct => .pure distinct
    next => exact .giveUp

theorem keeps_keyOf (number : Nat) (value : Value) : Keeps (keyOf number value) := by
  unfold keyOf
  split
  next => exact .giveUp
  next bits _ =>
    refine (keeps_node number).bind fun node => ?_
    dsimp only
    exact .ite (.pure trivial) (.pure trivial)
  next => exact .pure trivial

theorem keeps_key (number : Nat) : Keeps (key number) := by
  refine (ensures_slot number).bind fun slot _ => ?_
  cases slot with
  | own value => exact keeps_keyOf number value
  | shared n => exact .giveUp

/-- Entries are stored under keys of their own. -/
theorem ensures_entries (pairs : List (Nat × Nat)) {mapping : List (Key × Slot)}
    (distinct : (Container.map mapping).KeysDistinct) :
    Ensures (fun entries => (Container.map entries).KeysDistinct) (entries mapping pairs) := by
  induction pairs generalizing mapping with
  | nil => exact .pure distinct
  | cons pair rest ih =>
    obtain ⟨name, value⟩ := pair
    refine (keeps_key name).bind fun key => (ensures_slot value).bind fun slot own => ih ?_
    refine ⟨Mapping.nodup_keys_put distinct.1 key slot, fun entry mem => ?_⟩
    obtain old | new := Mapping.mem_of_mem_put mem
    · exact distinct.2 entry old
    · exact new ▸ own

theorem ensures_mergedEntries (number : Nat) :
    Ensures (fun entries => (Container.map entries).KeysDistinct) (mergedEntries number) := by
  refine (keeps_entriesOf number).bind fun _ => Keeps.get.bind fun s => ?_
  refine (keeps_merge number s.depth).bind fun _ => (keeps_entriesOf number).bind fun pairs => ?_
  exact ensures_entries pairs ⟨List.nodup_nil, fun _ mem => absurd mem List.not_mem_nil⟩

theorem keeps_itemsOf (number : Nat) : Keeps (itemsOf number) := by
  refine (keeps_node number).bind fun node => ?_
  cases node with
  | seq tag items => exact .pure trivial
  | _ => exact .giveUp

theorem keeps_pair (number : Nat) : Keeps (pair number) := by
  refine (keeps_entriesOf number).bind fun entries => ?_
  split
  next key value =>
    refine (ensures_slot key).bind fun _ _ => (ensures_slot value).bind fun _ _ => .pure trivial
  next => exact .giveUp

theorem ensures_containerOf (number : Nat) :
    Ensures Container.KeysDistinct (containerOf number) := by
  refine (keeps_tag number).bind fun name => ?_
  split
  · exact (ensures_mergedEntries number).bind fun entries distinct => .pure distinct
  · split
    · exact (ensures_mergedEntries number).bind fun entries _ => .pure trivial
    · split
      · refine (keeps_itemsOf number).bind fun items => ?_
        exact (Keeps.mapM fun item _ => (ensures_slot item).keeps).bind fun _ => .pure trivial
      · refine (keeps_itemsOf number).bind fun items => ?_
        exact (Keeps.mapM fun item _ => keeps_pair item).bind fun _ => .pure trivial

theorem keeps_fillFrom (place fuel : Nat) : Keeps (fillFrom place fuel) := by
  induction fuel generalizing place with
  | zero => exact .pure trivial
  | succ fuel ih =>
    refine Keeps.get.bind fun s => ?_
    split
    next => exact .pure trivial
    next number _ =>
      refine (ensures_containerOf number).bind fun container distinct => ?_
      refine Keeps.bind (fun s _ s' intact result => ?_) fun _ => ih (place + 1)
      cases result
      refine ⟨trivial, fun other mem => ?_⟩
      obtain old | rfl := Array.mem_or_eq_of_mem_setIfInBounds mem
      · exact intact other old
      · exact distinct

end Constructor

namespace Linked

open Constructor (Intact)

/-- No key is twice in what the text of a settings file stands for. -/
theorem keysDistinct_of_ofText {text : List Char} {linked : Linked}
    (h : ofText text = .ok linked) : linked.KeysDistinct := by
  unfold ofText at h
  split at h
  next => cases h
  next =>
    cases h
    exact ⟨by simp, trivial⟩
  next graph _ =>
    simp only [ofGraph] at h
    split at h
    next => cases h
    next root s result =>
      cases h
      have filled : Constructor.Ensures Slot.KeysDistinct (do
          let root ← Constructor.slot graph.root
          Constructor.fillFrom 0 graph.nodes.size
          return root) :=
        (Constructor.ensures_slot graph.root).bind fun slot own =>
          (Constructor.keeps_fillFrom 0 _).bind fun _ => .pure own
      have start : Intact ⟨graph.nodes, 2 * graph.entryCount + 2,
          Array.replicate graph.nodes.size (.seq []), Array.replicate graph.nodes.size false,
          #[]⟩ := by
        intro container mem
        rw [Array.mem_replicate.1 mem |>.2]
        trivial
      obtain ⟨own, intact⟩ := filled _ _ _ start result
      exact ⟨intact, own⟩

/-! ### Seen as a tree -/

variable {α β : Type}

/-- Whether no key is twice in the values that are known. -/
def KnownDistinct (known : Known) : Prop := ∀ value, some value ∈ known → value.KeysDistinct

/-- Whether a step leaves only known values in which no key is twice, and its result is as
demanded. -/
def Yields (post : α → Prop) (step : StateM Known α) : Prop :=
  ∀ known, KnownDistinct known → post (step.run known).1 ∧ KnownDistinct (step.run known).2

theorem Yields.pure {post : α → Prop} {x : α} (h : post x) : Yields post (pure x) :=
  fun _ distinct => ⟨h, distinct⟩

theorem Yields.bind {post : α → Prop} {post' : β → Prop} {step : StateM Known α}
    {next : α → StateM Known β} (first : Yields post step)
    (rest : ∀ x, post x → Yields post' (next x)) : Yields post' (step >>= next) := by
  intro known distinct
  obtain ⟨demanded, distinct⟩ := first known distinct
  exact rest _ demanded _ distinct

theorem Yields.get : Yields KnownDistinct get := fun _ distinct => ⟨distinct, distinct⟩

theorem Yields.mapM {post : α → β → Prop} {f : α → StateM Known β} {xs : List α}
    (h : ∀ x ∈ xs, Yields (post x) (f x)) : Yields (List.Forall₂ post xs) (xs.mapM f) := by
  induction xs with
  | nil => exact .pure .nil
  | cons x xs ih =>
    rw [List.forall_mem_cons] at h
    rw [List.mapM_cons]
    exact h.1.bind fun y first => (ih h.2).bind fun ys rest => .pure (.cons first rest)

theorem keysDistinct_container {linked : Linked} (distinct : linked.KeysDistinct) (number : Nat) :
    (linked.container number).KeysDistinct := by
  rw [container, Array.getD_eq_getD_getElem?]
  cases found : linked.containers[number]? with
  | none => trivial
  | some container => exact distinct.containers _ (Array.mem_of_getElem? found)

/-- Whether a value stands under the key of an entry, and no key is twice in it if none is in its
slot. -/
def Fills (entry : Key × Slot) (value : Key × Value × Bool) : Prop :=
  value.1 = entry.1 ∧ (entry.2.KeysDistinct → value.2.1.KeysDistinct)

theorem keysDistinct_map_of_forall₂ {entries : List (Key × Slot)}
    {values : List (Key × Value × Bool)} (distinct : (Container.map entries).KeysDistinct)
    (filled : List.Forall₂ Fills entries values) :
    (Value.map (values.map fun (key, value, _) => (key, value))).KeysDistinct := by
  obtain ⟨nodup, own⟩ := distinct
  rw [Value.KeysDistinct, entriesKeysDistinct_iff]
  induction filled with
  | nil => exact ⟨nodup, fun _ mem => absurd mem List.not_mem_nil⟩
  | @cons entry value entries values here rest ih =>
    rw [Mapping.keys_cons, List.nodup_cons] at nodup
    rw [List.forall_mem_cons] at own
    obtain ⟨others, inside⟩ := ih nodup.2 own.2
    have keys : Mapping.keys (values.map fun (key, value, _) => (key, value)) =
        Mapping.keys entries := by
      clear ih others inside nodup own
      induction rest with
      | nil => rfl
      | cons same _ ih => simp only [List.map_cons, Mapping.keys_cons, same.1, ih]
    rw [List.map_cons, Mapping.keys_cons, List.nodup_cons, keys, List.forall_mem_cons]
    exact ⟨⟨here.1 ▸ nodup.1, nodup.2⟩, here.2 own.1, inside⟩

theorem yields_valueAt {linked : Linked} (distinct : linked.KeysDistinct) (fuel : Nat)
    (around : List Nat) (slot : Slot) :
    Yields (fun result => slot.KeysDistinct → result.1.KeysDistinct)
      (valueAt linked fuel around slot) := by
  induction fuel generalizing around slot with
  | zero =>
    cases slot with
    | own value => exact .pure id
    | shared number => exact .pure fun _ => trivial
  | succ fuel ih =>
    cases slot with
    | own value => exact .pure id
    | shared number =>
      -- the value of a container is kept unless it refers back to a container around it
      have finish : ∀ value : Value, ∀ refersBack : Bool, value.KeysDistinct →
          Yields (fun result => (Slot.shared number).KeysDistinct → result.1.KeysDistinct) (do
            if !refersBack then modify (·.setIfInBounds number (some value))
            return (value, refersBack)) := by
        intro value refersBack inside known old
        cases refersBack with
        | true => exact ⟨fun _ => inside, old⟩
        | false =>
          refine ⟨fun _ => inside, fun other mem => ?_⟩
          obtain before | same := Array.mem_or_eq_of_mem_setIfInBounds mem
          · exact old other before
          · exact Option.some.inj same ▸ inside
      have here := keysDistinct_container distinct number
      rw [valueAt]
      split
      · exact .pure fun _ => trivial
      · refine Yields.get.bind fun known old => ?_
        split
        next value found =>
          have mem := Array.mem_of_getElem? (Option.join_eq_some_iff.1 found)
          exact .pure fun _ => old value mem
        next =>
          have inside := ih (number :: around)
          split
          next items _ =>
            refine (Yields.mapM fun item _ => inside item).bind fun values _ => ?_
            exact finish _ _ trivial
          next entries same =>
            rw [same] at here
            have filled : Yields (List.Forall₂ Fills entries) (entries.mapM fun entry => do
                return (entry.1, ← valueAt linked fuel (number :: around) entry.2)) :=
              .mapM fun entry _ => (inside entry.2).bind fun result own => .pure ⟨rfl, own⟩
            exact filled.bind fun values rows =>
              finish _ _ (keysDistinct_map_of_forall₂ here rows)
          next keys _ => exact finish (.set keys) false trivial
          next items _ =>
            have filled : Yields (List.Forall₂ (fun _ _ => True) items) (items.mapM fun item => do
                return (← valueAt linked fuel (number :: around) item.1,
                  ← valueAt linked fuel (number :: around) item.2)) :=
              .mapM fun item _ => (inside item.1).bind fun first _ =>
                (inside item.2).bind fun second _ => .pure trivial
            exact filled.bind fun values _ => finish _ _ trivial

/-- No key is twice in what a linked value is as a tree. -/
theorem keysDistinct_value {linked : Linked} (distinct : linked.KeysDistinct) :
    linked.value.KeysDistinct := by
  have start : KnownDistinct (Array.replicate linked.containers.size none) := by
    intro value mem
    cases (Array.mem_replicate.1 mem).2
  exact (yields_valueAt distinct _ [] linked.root _ start).1 distinct.root

end Linked

end Yaml

end ConfigTemplate
