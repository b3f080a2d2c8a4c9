import ConfigTemplate.Proofs.Flat.RoundTrip

/-!
# Overlapping paths

A document is rebuilt by writing one value after the other. What is written at a path stays there
as long as the later paths keep apart from it. A later path that overlaps it, because it leads to a
place on the way or goes on behind it, may be refused; where it is not, the earlier value is gone
without a word. A write is refused only on account of an earlier one: where its path goes on with a
step, the earlier one has put something that does not take that step.
-/

namespace ConfigTemplate

namespace Path

variable {root result stored value node : Json} {path address : Path}

theorem eq_nil_of_get?_of_isLeaf (leaf : value.isLeaf = true)
    (leads : get? value path = some node) : path = [] := by
  obtain ⟨inner, inside⟩ := List.exists_mem_of_ne_nil _ node.leafPaths_ne_nil
  have mem := mem_leafPaths_of_get? leads inside
  rw [Json.leafPaths_of_isLeaf leaf, List.mem_singleton, Prod.mk.injEq] at mem
  exact (List.append_eq_nil_iff.1 mem.1).1

/-- Of two leaves on one way only the one that was written last is there. -/
theorem Written.get?_ne_of_overlap (written : Written stored path root result)
    (overlap : ¬ Apart path address) (different : path ≠ address)
    (storedLeaf : stored.isLeaf = true) (leaf : value.isLeaf = true) :
    get? result address ≠ some value := by
  intro leads
  have reached := written.get?_self
  rw [Apart, not_and_or, not_not, not_not] at overlap
  obtain ⟨tail, rfl⟩ | ⟨tail, rfl⟩ := overlap
  · rw [get?_append, reached, Option.bind_some] at leads
    obtain rfl := eq_nil_of_get?_of_isLeaf storedLeaf leads
    exact different (List.append_nil path).symm
  · rw [get?_append, leads, Option.bind_some] at reached
    obtain rfl := eq_nil_of_get?_of_isLeaf leaf reached
    exact different (List.append_nil address)

/-- A leaf that is not where it was written does not come back there, unless it is a null, which may
come back as padding. -/
theorem Written.get?_ne (written : Written stored path root result) (different : path ≠ address)
    (storedLeaf : stored.isLeaf = true) (leaf : value.isLeaf = true) (notNull : value ≠ .null)
    (gone : get? root address ≠ some value) : get? result address ≠ some value := by
  by_cases apart : Apart path address
  · obtain same | ⟨-, null, -⟩ := written.leaves apart
    · rwa [same]
    · rw [null]
      intro same
      exact notNull (Option.some.inj same).symm
  · exact written.get?_ne_of_overlap apart different storedLeaf leaf

/-- Whether a text is a path as flattening writes it: one that has a step, with names that are not
empty and free of marks. -/
def IsCanonical (text : String) : Prop :=
  ∃ path : Path, path ≠ [] ∧ (∀ step ∈ path, step.Addressable) ∧ text = render path

theorem IsCanonical.split_ne_nil {text : String} (canonical : IsCanonical text) :
    split text ≠ [] := by
  obtain ⟨path, below, addressable, rfl⟩ := canonical
  rwa [split_render path addressable]

theorem IsCanonical.eq_of_split {text other : String} (canonical : IsCanonical text)
    (canonical' : IsCanonical other) (same : split text = split other) : text = other := by
  obtain ⟨path, -, addressable, rfl⟩ := canonical
  obtain ⟨path', -, addressable', rfl⟩ := canonical'
  rw [split_render path addressable, split_render path' addressable'] at same
  rw [same]

end Path

namespace Flat

open ConfigTemplate.Path (Apart Written)

variable {root result : Json} {pairs before after : List (Path × Json)} {path : Path} {value : Json}
variable {fault : Document.Fault}

/-! ### Runs of writes -/

theorem assignAll_cons_eq_ok_iff : assignAll root ((path, value) :: after) = .ok result ↔
    ∃ next, Path.assign root path value = .ok next ∧ assignAll next after = .ok result := by
  rw [assignAll]
  cases Path.assign root path value <;> simp

theorem assignAll_append_eq_ok_iff : assignAll root (before ++ after) = .ok result ↔
    ∃ middle, assignAll root before = .ok middle ∧ assignAll middle after = .ok result := by
  rw [assignAll_append_eq]
  cases assignAll root before <;> simp [Except.bind]

/-- A run is refused at one of its writes, after the others in front of it were done. -/
theorem exists_of_assignAll_eq_error (h : assignAll root pairs = .error fault) :
    ∃ before path value after middle, pairs = before ++ (path, value) :: after ∧
      assignAll root before = .ok middle ∧ Path.assign middle path value = .error fault := by
  induction pairs generalizing root with
  | nil => cases h
  | cons pair rest ih =>
    obtain ⟨path, value⟩ := pair
    rw [assignAll] at h
    cases first : Path.assign root path value with
    | error reason =>
      rw [first] at h
      cases h
      exact ⟨[], path, value, rest, root, rfl, rfl, first⟩
    | ok next =>
      rw [first] at h
      obtain ⟨before, path', value', after, middle, rfl, done, refused⟩ := ih h
      refine ⟨(path, value) :: before, path', value', after, middle, rfl, ?_, refused⟩
      exact assignAll_cons_eq_ok_iff.2 ⟨next, first, done⟩

/-- What every single write of a run keeps, the run keeps. -/
theorem assignAll_keeps {P : Json → Prop} (steps : ∀ pair ∈ pairs, pair.1 ≠ [])
    (each : ∀ pair ∈ pairs, ∀ node next, Written pair.2 pair.1 node next → P node → P next)
    (h : assignAll root pairs = .ok result) (start : P root) : P result := by
  induction pairs generalizing root with
  | nil =>
    cases h
    exact start
  | cons pair rest ih =>
    obtain ⟨next, first, others⟩ := assignAll_cons_eq_ok_iff.1 h
    rw [Path.assign, Path.assignBelow_eq_ok_iff (steps pair List.mem_cons_self)] at first
    have kept := each pair List.mem_cons_self root next first start
    exact ih (fun other mem => steps other (List.mem_cons_of_mem _ mem))
      (fun other mem => each other (List.mem_cons_of_mem _ mem)) others kept

/-- After a write in the middle of a run the path leads to the value, and the rest of the run goes
on from there. -/
theorem exists_written_of_assignAll (below : path ≠ [])
    (h : assignAll root (before ++ (path, value) :: after) = .ok result) :
    ∃ node next, Written value path node next ∧ assignAll next after = .ok result := by
  obtain ⟨node, -, others⟩ := assignAll_append_eq_ok_iff.1 h
  obtain ⟨next, first, last⟩ := assignAll_cons_eq_ok_iff.1 others
  exact ⟨node, next, (Path.assignBelow_eq_ok_iff below).1 first, last⟩

/-- A value stays where it is written when the later paths keep apart from its own. -/
theorem get?_assignAll (steps : ∀ pair ∈ before ++ (path, value) :: after, pair.1 ≠ [])
    (apart : ∀ later ∈ after, Apart later.1 path)
    (h : assignAll root (before ++ (path, value) :: after) = .ok result) :
    Path.get? result path = some value := by
  obtain ⟨_, next, written, others⟩ := exists_written_of_assignAll (steps (path, value) (by simp)) h
  apply assignAll_keeps (P := fun node => Path.get? node path = some value)
    (fun pair mem => steps pair (by simp [mem])) _ others written.get?_self
  intro pair mem node next stored leads
  exact (stored.leaves (apart pair mem)).get?_eq leads

/-- A leaf is gone after a later write of a leaf whose path overlaps its own. -/
theorem get?_assignAll_ne {later : Path × Json}
    (steps : ∀ pair ∈ before ++ later :: after, pair.1 ≠ [])
    (leaves : ∀ pair ∈ later :: after, pair.2.isLeaf = true)
    (different : ∀ pair ∈ later :: after, pair.1 ≠ path)
    (leaf : value.isLeaf = true) (notNull : value ≠ .null) (overlap : ¬ Apart later.1 path)
    (h : assignAll root (before ++ later :: after) = .ok result) :
    Path.get? result path ≠ some value := by
  obtain ⟨_, next, written, others⟩ := exists_written_of_assignAll (steps later (by simp)) h
  have gone : Path.get? next path ≠ some value := written.get?_ne_of_overlap overlap
    (different later (by simp)) (leaves later (by simp)) leaf
  apply assignAll_keeps (P := fun node => Path.get? node path ≠ some value)
    (fun pair mem => steps pair (by simp [mem])) _ others gone
  intro pair mem node next stored gone
  have behind : pair ∈ later :: after := List.mem_cons_of_mem later mem
  exact stored.get?_ne (different pair behind) (leaves pair behind) leaf notNull gone

/-! ### Refusals -/

/-- Where something that stands in a rebuilt document comes from: a path that was written leads
through it, it is a value that was written or a part of one, or it is padding. -/
def Accounted (written : List (Path × Json)) (address : Path) (found : Json) : Prop :=
  (∃ pair ∈ written, ∃ step rest, pair.1 = address ++ step :: rest ∧ found.Takes step) ∨
    (∃ pair ∈ written, ∃ rest, address = pair.1 ++ rest ∧ Path.get? pair.2 rest = some found) ∨
    Path.GivesWay address found

theorem accounted_of_written {written : List (Path × Json)} {pair : Path × Json} {node next : Json}
    (mem : pair ∈ written) (stored : Written pair.2 pair.1 node next)
    (known : ∀ address found, Path.get? node address = some found → Accounted written address found)
    (address : Path) (found : Json) (leads : Path.get? next address = some found) :
    Accounted written address found := by
  by_cases reached : pair.1 <+: address
  · obtain ⟨rest, rfl⟩ := reached
    rw [Path.get?_append, stored.get?_self, Option.bind_some] at leads
    exact .inr (.inl ⟨pair, mem, rest, rfl, leads⟩)
  · by_cases through : address <+: pair.1
    · obtain ⟨rest, whole⟩ := through
      cases rest with
      | nil => exact absurd ⟨[], by simpa using whole.symm⟩ reached
      | cons step rest =>
        rw [← whole] at stored
        obtain ⟨container, here, takes⟩ := stored.exists_takes
        obtain rfl := Option.some.inj (leads.symm.trans here)
        exact .inl ⟨pair, mem, step, rest, whole.symm, takes⟩
    · obtain same | ⟨-, null, front, m, n, rest, rfl, -, -⟩ := stored.leaves ⟨reached, through⟩
      · exact known address found (same ▸ leads)
      · obtain rfl := Option.some.inj (null.symm.trans leads)
        exact .inr (.inr ⟨rfl, m, by simp⟩)

/-- Whether two values that are written ask for different containers at one place, where the path of
the later one goes on with a step: the path of the earlier one goes on there with a step of the
other kind, or ends there or before with something that does not take the step. -/
def Clash (earlier later : Path × Json) (place : Path) (step : Step) : Prop :=
  (∃ rest, later.1 = place ++ step :: rest) ∧
    ((∃ other rest, earlier.1 = place ++ other :: rest ∧ ¬ other.emptyContainer.Takes step) ∨
      ∃ rest found, place = earlier.1 ++ rest ∧ Path.get? earlier.2 rest = some found ∧
        ¬ found.Takes step)

/-- What stands in a new root is the root, and the first path leads through it. -/
theorem accounted_initialRoot {kind : RootKind} {first : Path × Json} (below : first.1 ≠ [])
    (address : Path) (found : Json)
    (leads : Path.get? (initialRoot kind (first :: after)) address = some found) :
    Accounted (first :: before) address found := by
  obtain ⟨path, value⟩ := first
  obtain ⟨step, rest, rfl⟩ := List.exists_cons_of_ne_nil below
  cases address with
  | nil =>
    rw [Path.get?_nil] at leads
    obtain rfl := Option.some.inj leads
    exact .inl ⟨_, List.mem_cons_self, step, rest, rfl, Json.takes_emptyContainer step⟩
  | cons other address =>
    rw [initialRoot, Path.get?_emptyContainer] at leads
    cases leads

/-- Rebuilding is refused only where two values ask for different containers. -/
theorem exists_clash_of_assignAll {kind : RootKind} (steps : ∀ pair ∈ pairs, pair.1 ≠ [])
    (h : assignAll (initialRoot kind pairs) pairs = .error fault) :
    ∃ before later after, pairs = before ++ later :: after ∧
      ∃ earlier ∈ before, ∃ place step, fault = step.refusal place ∧
        Clash earlier later place step := by
  obtain ⟨before, path, value, after, middle, rfl, done, refused⟩ := exists_of_assignAll_eq_error h
  obtain ⟨place, step, rest, whole, ⟨found, leads, refuses, stays⟩, same⟩ :=
    Path.assign_eq_error_iff.1 refused
  have known : Accounted before place found := by
    cases before with
    | nil =>
      -- The root is of the kind that the first path asks for, and nothing stands below it.
      cases done
      obtain ⟨first, tail, rfl⟩ := List.exists_cons_of_ne_nil (steps (path, value) (by simp))
      obtain ⟨node, written⟩ := Path.exists_assignBelow_emptyContainer value [] first tail
      rw [List.nil_append, initialRoot, Path.assign, written] at refused
      cases refused
    | cons first others =>
      have mem {pair : Path × Json} (h : pair ∈ first :: others) :
          pair ∈ first :: others ++ (path, value) :: after := List.mem_append_left _ h
      exact assignAll_keeps
        (P := fun node => ∀ address found, Path.get? node address = some found →
          Accounted (first :: others) address found)
        (fun pair h => steps pair (mem h))
        (fun pair h node next stored known => accounted_of_written h stored known) done
        (accounted_initialRoot (steps first (by simp))) place found leads
  obtain ⟨earlier, mem, other, tail, through, takes⟩ | ⟨earlier, mem, tail, inside, here⟩ | gives :=
    known
  · have otherKind : ¬ other.emptyContainer.Takes step := mt takes.iff_emptyContainer.2 refuses
    exact ⟨before, (path, value), after, rfl, earlier, mem, place, step, same,
      ⟨rest, whole⟩, .inl ⟨other, tail, through, otherKind⟩⟩
  · exact ⟨before, (path, value), after, rfl, earlier, mem, place, step, same,
      ⟨rest, whole⟩, .inr ⟨tail, found, inside, here, refuses⟩⟩
  · exact absurd gives stays

/-! ### Rebuilding a flat document -/

variable {flat : Flat}

/-- An entry as a value to write at the steps that its text spells. -/
def spelled (entry : String × Json) : Path × Json := (Path.split entry.1, entry.2)

theorem forall_spelled_ne_nil (canonical : ∀ key ∈ flat.keys, Path.IsCanonical key) :
    ∀ pair ∈ flat.entries.map spelled, pair.1 ≠ [] := by
  rw [List.forall_mem_map]
  intro entry mem
  exact (canonical entry.1 (List.mem_map_of_mem mem)).split_ne_nil

theorem assignments_of_canonical (canonical : ∀ key ∈ flat.keys, Path.IsCanonical key) :
    flat.assignments = flat.entries.map spelled := by
  refine List.filter_eq_self.2 fun pair mem => ?_
  simpa using forall_spelled_ne_nil canonical pair mem

/-- Different entries spell different paths. -/
theorem split_ne_of_later {before after : List (String × Json)} {entry later : String × Json}
    (canonical : ∀ key ∈ flat.keys, Path.IsCanonical key)
    (whole : flat.entries = before ++ entry :: after) (mem : later ∈ after) :
    Path.split later.1 ≠ Path.split entry.1 := by
  intro same
  have distinct := flat.distinct
  rw [whole, Entries.keys_append, Entries.keys_cons, List.nodup_append, List.nodup_cons] at distinct
  have present : later.1 ∈ Entries.keys after := List.mem_map_of_mem mem
  have equal : later.1 = entry.1 := Path.IsCanonical.eq_of_split
    (canonical later.1 (List.mem_map_of_mem (by simp [whole, mem])))
    (canonical entry.1 (List.mem_map_of_mem (by simp [whole]))) same
  exact distinct.2.1.1 (equal ▸ present)

/-- Rebuilding from paths in any order is refused only where two of them ask for different
containers at one place. Otherwise every value is where its path leads, unless a later path overlaps
it: a leaf that is not a null is then gone. -/
theorem toDocument_of_canonical (canonical : ∀ key ∈ flat.keys, Path.IsCanonical key)
    (kind : RootKind) :
    match flat.toDocument kind with
    | .error fault => ∃ before later after, flat.entries = before ++ later :: after ∧
        ∃ earlier ∈ before, ∃ place step, fault = step.refusal place ∧
          Clash (spelled earlier) (spelled later) place step
    | .ok document => ∀ before entry after, flat.entries = before ++ entry :: after →
        ((∀ later ∈ after, Apart (Path.split later.1) (Path.split entry.1)) →
          Path.get? document (Path.split entry.1) = some entry.2) ∧
        ((∀ other ∈ flat.entries, other.2.isLeaf = true) → entry.2 ≠ .null →
          (∃ later ∈ after, ¬ Apart (Path.split later.1) (Path.split entry.1)) →
          Path.get? document (Path.split entry.1) ≠ some entry.2) := by
  have steps := forall_spelled_ne_nil canonical
  cases done : flat.toDocument kind with
  | error fault =>
    rw [toDocument, assignments_of_canonical canonical] at done
    obtain ⟨_, _, _, whole, _, among, place, step, same, clash⟩ :=
      exists_clash_of_assignAll steps done
    obtain ⟨before, rest, entries, rfl, tail⟩ := List.map_eq_append_iff.1 whole
    obtain ⟨later, after, rfl, rfl, rfl⟩ := List.map_eq_cons_iff.1 tail
    obtain ⟨earlier, mem, rfl⟩ := List.mem_map.1 among
    exact ⟨before, later, after, entries, earlier, mem, place, step, same, clash⟩
  | ok document =>
    intro before entry after whole
    rw [toDocument, assignments_of_canonical canonical] at done
    generalize initialRoot kind (flat.entries.map spelled) = root at done
    rw [whole, List.map_append, List.map_cons] at done steps
    constructor
    · intro apart
      exact get?_assignAll steps (List.forall_mem_map.2 apart) done
    · rintro leaves notNull ⟨later, mem, overlap⟩
      obtain ⟨between, rest, rfl⟩ := List.append_of_mem mem
      rw [List.map_append, List.map_cons, ← List.cons_append, ← List.append_assoc] at done steps
      refine get?_assignAll_ne steps ?_ ?_ (leaves entry (by simp [whole])) notNull overlap done
      · rw [← List.map_cons, List.forall_mem_map]
        intro other among
        exact leaves other (by simp [whole, List.mem_cons.1 among])
      · rw [← List.map_cons, List.forall_mem_map]
        intro other among
        exact split_ne_of_later canonical whole (List.mem_append_right between among)

/-- Paths in an order of their own: an item beyond the end of its array, members of an item that
comes before it, and a name of digits. -/
theorem toDocument_of_canonical_interleaved :
    let flat : Flat := ⟨[("a[2]", .int 1), ("a[0].b", .str "x"), ("a[0].0", .null)], by decide⟩
    let document : Json :=
      .obj [("a", .arr [.obj [("b", .str "x"), ("0", .null)], .null, .int 1])]
    (∀ key ∈ flat.keys, Path.IsCanonical key) ∧ flat.toDocument .array = .ok document ∧
      Path.get? document (Path.split "a[2]") = some (.int 1) := by
  intro flat document
  have canonical : ∀ key ∈ flat.keys, Path.IsCanonical key := by
    simp only [flat, keys, Entries.keys_cons, Entries.keys_nil, List.forall_mem_cons]
    refine ⟨⟨[.name "a", .index 2], nofun, ?_, rfl⟩,
      ⟨[.name "a", .index 0, .name "b"], nofun, ?_, rfl⟩,
      ⟨[.name "a", .index 0, .name "0"], nofun, ?_, rfl⟩, nofun⟩
    all_goals simp [Step.Addressable, Path.isAddressable, Path.isMark]
  have done : flat.toDocument .array = .ok document := by cbv
  have kept := toDocument_of_canonical canonical .array
  rw [done] at kept
  have apart : ∀ later ∈ [("a[0].b", Json.str "x"), ("a[0].0", Json.null)],
      Apart (Path.split later.1) (Path.split "a[2]") := by
    have item : Path.split "a[2]" = [.name "a", .index 2] := by cbv
    have named : Path.split "a[0].b" = [.name "a", .index 0, .name "b"] := by cbv
    have digits : Path.split "a[0].0" = [.name "a", .index 0, .name "0"] := by cbv
    simp [Apart, item, named, digits, List.cons_prefix_cons]
  exact ⟨canonical, done, (kept [] ("a[2]", .int 1) _ rfl).1 apart⟩

/-- A value is lost without a word to a later path that leads to a place on its way. In the other
order the same two entries are refused. -/
theorem toDocument_overwritten :
    let flat : Flat := ⟨[("a.b", .int 1), ("a", .int 5)], by decide⟩
    let other : Flat := ⟨[("a", .int 5), ("a.b", .int 1)], by decide⟩
    (∀ key ∈ flat.keys, Path.IsCanonical key) ∧
      flat.toDocument .object = .ok (.obj [("a", .int 5)]) ∧
      Path.get? (.obj [("a", .int 5)]) (Path.split "a.b") = none ∧
      other.toDocument .object = .error (.nameOutsideObject "b" [.name "a"]) := by
  intro flat other
  have canonical : ∀ key ∈ flat.keys, Path.IsCanonical key := by
    simp only [flat, keys, Entries.keys_cons, Entries.keys_nil, List.forall_mem_cons]
    refine ⟨⟨[.name "a", .name "b"], nofun, ?_, rfl⟩, ⟨[.name "a"], nofun, ?_, rfl⟩, nofun⟩
    all_goals simp [Step.Addressable, Path.isAddressable, Path.isMark]
  refine ⟨canonical, ?_, ?_, ?_⟩
  all_goals cbv

end Flat

end ConfigTemplate
