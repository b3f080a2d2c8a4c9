import ConfigTemplate.Flat.Lookup

/-!
# Looking up keys

The path that a key addresses and the elements of an array are paths of the flat document. A path of
the document addresses itself. Looking up a key or an array asks for no more than the shape of the
document: its paths in order and which of its values are containers.
-/

namespace ConfigTemplate.Flat

variable {flat other : Flat} {unique : Bool} {key array path : String}

/-- A path of the document addresses itself. -/
theorem resolve_of_mem (h : key ∈ flat) (unique : Bool) :
    flat.resolve unique key = .ok ⟨key, [key]⟩ :=
  if_pos h

/-- The path that is picked is the first one, and the only one where matches have to be unique. -/
theorem eq_cons_of_pick {paths : List String} {found : Pick}
    (h : pick unique key paths = .ok found) :
    ∃ rest, paths = found.chosen :: rest ∧ (unique = true → rest = []) := by
  unfold pick at h
  split at h
  · cases h
  · obtain rfl := Except.ok.inj h
    exact ⟨[], rfl, fun _ => rfl⟩
  · split at h
    · cases h
    next several =>
      obtain rfl := Except.ok.inj h
      exact ⟨_, rfl, fun unique => absurd unique several⟩

/-- What a key leads to is a key of the document. -/
theorem mem_of_resolve {found : Pick} (h : flat.resolve unique key = .ok found) :
    found.chosen ∈ flat := by
  unfold resolve at h
  split at h
  next mem =>
    obtain rfl := Except.ok.inj h
    exact mem
  · obtain ⟨rest, matched, -⟩ := eq_cons_of_pick h
    have among : found.chosen ∈ flat.matching key := by simp [matched]
    exact (List.mem_filter.1 among).1

/-- An array that is picked is one of those that match. Where matches have to be unique and the key
is no array itself, it is the only one. -/
theorem chosen_of_pickArray {found : Pick} (h : flat.pickArray unique key = .ok found) :
    found.chosen ∈ flat.arraysMatching key ∧
      (unique = true → key ∉ flat.arraysMatching key →
        flat.arraysMatching key = [found.chosen]) := by
  unfold pickArray at h
  dsimp only at h
  split at h
  next own =>
    obtain rfl := Except.ok.inj h
    exact ⟨own, fun _ foreign => absurd own foreign⟩
  · obtain ⟨rest, matched, only⟩ := eq_cons_of_pick h
    refine ⟨by simp [matched], fun unique _ => ?_⟩
    rw [matched, only unique]

theorem path_of_element? {e : Element} (h : element? path = some e) : e.path = path := by
  unfold element? at h
  split at h
  · split at h
    · cases h
      rfl
    · cases h
  · cases h

/-- The elements of an array are keys of the document. -/
theorem mem_of_elementPaths {paths : List String} (h : flat.elementPaths key array = .ok paths) :
    ∀ path ∈ paths, path ∈ flat := by
  unfold elementPaths at h
  dsimp only at h
  split at h
  · cases h
  · cases h
    intro path mem
    obtain ⟨e, listed, rfl⟩ := List.mem_map.1 mem
    have found := (List.mem_filter.1 (List.mem_mergeSort.1 listed)).1
    obtain ⟨full, present, same⟩ := List.mem_filterMap.1 (List.mem_filter.1 found).1
    exact path_of_element? same ▸ present

/-! ### The shape of a document -/

/-- The paths in order, and which values are containers. -/
def shape (flat : Flat) : List (String × Bool) :=
  flat.entries.map fun entry => (entry.1, entry.2.isContainer)

theorem mem_of_get? {key : String} {value : Json} (h : flat.get? key = some value) : key ∈ flat :=
  Entries.mem_keys_iff.2 (Option.isSome_of_eq_some h)

theorem exists_get? {key : String} (h : key ∈ flat) : ∃ value, flat.get? key = some value :=
  Option.isSome_iff_exists.1 (Entries.mem_keys_iff.1 h)

@[simp] theorem length_keys (flat : Flat) : flat.keys.length = flat.size := by
  simp [keys, size, Entries.keys]

theorem keys_eq_map_shape (flat : Flat) : flat.keys = flat.shape.map Prod.fst := by
  simp [keys, shape, Entries.keys]

theorem keys_eq_of_shape (h : flat.shape = other.shape) : flat.keys = other.keys := by
  rw [keys_eq_map_shape, keys_eq_map_shape, h]

theorem size_eq_of_shape (h : flat.shape = other.shape) : flat.size = other.size := by
  simpa [shape, size] using congrArg List.length h

theorem mem_iff_of_shape (h : flat.shape = other.shape) {key : String} :
    key ∈ flat ↔ key ∈ other := by
  change key ∈ flat.keys ↔ key ∈ other.keys
  rw [keys_eq_of_shape h]

theorem resolve_eq_of_shape (h : flat.shape = other.shape) (unique : Bool) (key : String) :
    flat.resolve unique key = other.resolve unique key := by
  have present : key ∈ flat ↔ key ∈ other := mem_iff_of_shape h
  simp only [resolve, matching, present, keys_eq_of_shape h]

theorem elementsMatching_eq_of_shape (h : flat.shape = other.shape) (key : String) :
    flat.elementsMatching key = other.elementsMatching key := by
  rw [elementsMatching, elementsMatching, keys_eq_of_shape h]

theorem pickArray_eq_of_shape (h : flat.shape = other.shape) (unique : Bool) (key : String) :
    flat.pickArray unique key = other.pickArray unique key := by
  have arrays : flat.arraysMatching key = other.arraysMatching key := by
    rw [arraysMatching, arraysMatching, elementsMatching_eq_of_shape h]
  unfold pickArray
  rw [arrays]

/-- The first path among the entries that a test on paths and containers selects. -/
theorem find?_entries_eq (flat : Flat) (test : String → Bool → Bool) :
    (flat.entries.find? fun entry => test entry.1 entry.2.isContainer).map Prod.fst =
      (flat.shape.find? fun entry => test entry.1 entry.2).map Prod.fst := by
  rw [shape, List.find?_map, Option.map_map]
  rfl

theorem elementPaths_eq_of_shape (h : flat.shape = other.shape) (key array : String) :
    flat.elementPaths key array = other.elementPaths key array := by
  let paths := (((other.elementsMatching key).filter fun e => e.array = array).mergeSort
    Element.le).map Element.path
  let test (path : String) (container : Bool) : Bool :=
    isInside array path && (!paths.contains path || container)
  have found : (flat.entries.find? fun entry => test entry.1 entry.2.isContainer).map Prod.fst =
      (other.entries.find? fun entry => test entry.1 entry.2.isContainer).map Prod.fst := by
    rw [find?_entries_eq, find?_entries_eq, h]
  simp only [elementPaths, elementsMatching_eq_of_shape h]
  cases here : flat.entries.find? fun entry => test entry.1 entry.2.isContainer <;>
    cases there : other.entries.find? fun entry => test entry.1 entry.2.isContainer <;>
      simp_all only [Option.map_some, Option.map_none, Option.some.injEq, reduceCtorEq]

/-- Storing a value of the same sort in place of another keeps the shape. -/
theorem shape_put {key : String} {value old : Json} (present : flat.get? key = some old)
    (sort : value.isContainer = old.isContainer) : (flat.put key value).shape = flat.shape := by
  obtain ⟨entries, distinct⟩ := flat
  simp only [shape, put, get?] at present ⊢
  clear distinct
  induction entries with
  | nil => cases present
  | cons entry rest ih =>
    obtain ⟨k, v⟩ := entry
    rw [Entries.get?] at present
    rw [Entries.put]
    by_cases same : k = key
    · rw [if_pos same] at present ⊢
      cases present
      simp [sort]
    · rw [if_neg same] at present ⊢
      simp [ih present]

end ConfigTemplate.Flat
