import ConfigTemplate.Proofs.Flat.Array
import Mathlib

/-!
# Shorthands

A key addresses the paths that are the key or end with it behind a point. In the flat form of a
document that is to say, for a key that begins with a name, that the steps of the path end with
those of the key.

A lookup also takes a path that a key addresses but for a line break at its end. Apart from such
paths it takes those that the key addresses, in their order, and no others. The elements that the
name of an array leads to are always those of one whole array of scalars that the name addresses.
-/

namespace ConfigTemplate.Flat

/-- Whether a key addresses a path: the path is the key, or ends with it behind a point. -/
def Addresses (key path : String) : Prop := path = key ∨ '.' :: key.toList <:+ path.toList

instance (key path : String) : Decidable (Addresses key path) :=
  inferInstanceAs (Decidable (_ ∨ _))

variable {document : Document} {flat : Flat} {key path : String}

theorem endsAt_iff : endsAt key.toList path.toList = true ↔ Addresses key path := by
  simp [endsAt, Addresses, List.isSuffixOf_iff_suffix, String.toList_inj]

/-! ### Matching paths -/

/-- Characters end with a key and one more character if the rest of them ends with the key and the
last one is that character. -/
theorem endsAt_concat_iff {key front : List Char} {c d : Char} :
    endsAt (key ++ [c]) (front ++ [d]) = true ↔ c = d ∧ endsAt key front = true := by
  have same : front ++ [d] = key ++ [c] ↔ c = d ∧ front = key := by
    rw [eq_comm]
    simp [and_comm, eq_comm]
  have suffix : '.' :: (key ++ [c]) <:+ front ++ [d] ↔ c = d ∧ '.' :: key <:+ front := by
    simp [← List.reverse_prefix]
  simp only [endsAt, Bool.or_eq_true, beq_iff_eq, List.isSuffixOf_iff_suffix, same, suffix,
    and_or_left]

/-- A key matches the paths that it addresses, and those that it would address with a line break at
its end. -/
theorem isShorthand_iff :
    isShorthand key path = true ↔ Addresses key path ∨ Addresses (key ++ "\n") path := by
  have longer : (key ++ "\n").toList = key.toList ++ ['\n'] := by simp
  rw [isShorthand, Bool.or_eq_true, ← endsAt_iff, ← endsAt_iff, longer]
  obtain empty | ⟨front, last, whole⟩ := List.eq_nil_or_concat path.toList
  · simp [empty, endsAt, withoutFinalBreak]
  · rw [whole, List.concat_eq_append, endsAt_concat_iff]
    -- The longer key ends no path but those with a line break at their end.
    by_cases broken : last = '\n'
    · subst broken
      simp [withoutFinalBreak]
    · rw [withoutFinalBreak_concat broken]
      simp [Ne.symm broken]

theorem matching_eq (flat : Flat) (key : String) : flat.matching key =
    flat.keys.filter fun path => Addresses key path ∨ Addresses (key ++ "\n") path :=
  List.filter_congr fun path _ => by
    rw [Bool.eq_iff_iff, isShorthand_iff, decide_eq_true_iff]

theorem ne_empty_of_isAddressable {name : String} (addressable : Path.isAddressable name = true) :
    name ≠ "" := by
  rintro rfl
  cases addressable

/-- A key that begins with a name addresses the paths whose steps end with its own. -/
theorem addresses_render_iff {name : String} {rest steps : Path}
    (addressable : ∀ step ∈ Step.name name :: rest, step.Addressable)
    (addressable' : ∀ step ∈ steps, step.Addressable) :
    Addresses (Path.render (.name name :: rest)) (Path.render steps) ↔
      .name name :: rest <:+ steps := by
  constructor
  · rintro (same | ⟨front, whole⟩)
    · obtain rfl := Path.render_injective addressable' addressable same
      exact List.suffix_rfl
    -- The steps are read off the text, and a point parts those before it from those behind it.
    · have spelled : steps = Path.splitChars front ++ .name name :: rest :=
        calc steps = Path.splitChars (Path.render steps).toList :=
              (Path.split_render steps addressable').symm
          _ = Path.splitChars front ++ Path.split (Path.render (.name name :: rest)) := by
              rw [← whole, Path.splitChars_append (.inl rfl), Path.splitChars_point, Path.split]
          _ = Path.splitChars front ++ .name name :: rest := by
              rw [Path.split_render _ addressable]
      exact ⟨_, spelled.symm⟩
  · rintro ⟨front, rfl⟩
    by_cases below : front = []
    · rw [below]
      exact .inl rfl
    · have named : name ≠ "" := ne_empty_of_isAddressable (List.forall_mem_cons.1 addressable).1
      have text := Path.render_append_name below
        (fun step mem => addressable' step (List.mem_append_left _ mem)) named rest
      exact .inr ⟨(Path.render front).toList, by simp [text]⟩

/-- A key matches the paths of a document that it addresses, in their order, and with them those
that it would address with a line break at its end. Where there are none of these it matches the
paths that it addresses and no others. When it begins with a name, these are the paths that end with
the steps of the key. -/
theorem matching_of_document (accepted : ofDocument document = .ok flat) (key : String) :
    flat.matching key =
        (flat.keys.filter fun path => Addresses key path ∨ Addresses (key ++ "\n") path) ∧
      ((∀ path ∈ flat.keys, ¬ Addresses (key ++ "\n") path) →
        flat.matching key = flat.keys.filter (Addresses key ·)) ∧
      ∀ name rest, (∀ step ∈ Step.name name :: rest, step.Addressable) →
        key = Path.render (.name name :: rest) →
          ∀ path ∈ flat.keys, Addresses key path ↔ Path.split key <:+ Path.split path := by
  refine ⟨matching_eq flat key, fun unbroken => ?_, ?_⟩
  · rw [matching_eq]
    refine List.filter_congr fun path mem => ?_
    simp only [unbroken path mem, or_false]
  · rintro name rest addressable rfl path mem
    obtain ⟨documentAddressable, -⟩ := ofDocument_eq_ok accepted
    obtain ⟨steps, value, -, leads, -, rfl⟩ :=
      (mem_keys_iff_of_ofDocument accepted).1 mem
    have addressable' := addressable_of_get? documentAddressable leads
    rw [addresses_render_iff addressable addressable', Path.split_render _ addressable,
      Path.split_render _ addressable']

/-- Neither a name that ends like the key nor a path below one that it addresses is matched. -/
theorem matching_of_document_named :
    let document : Document :=
      ⟨.obj [("b", .obj [("a", .obj [("name", .int 1)])]), ("name", .arr [.int 2]),
        ("aname", .int 3), ("a", .obj [("name", .obj [("c", .int 4)])])], rfl, by decide⟩
    ∃ flat, ofDocument document = .ok flat ∧
      flat.keys = ["b.a.name", "name[0]", "aname", "a.name.c"] ∧
      flat.matching "name" = ["b.a.name"] ∧
      ∀ path ∈ flat.keys, Addresses "a.name" path ↔
        Path.split "a.name" <:+ Path.split path := by
  intro document
  obtain ⟨flat, accepted⟩ : ∃ flat, ofDocument document = .ok flat := ⟨_, rfl⟩
  have keys : flat.keys = ["b.a.name", "name[0]", "aname", "a.name.c"] := by
    cases accepted
    cbv
  have matched := (matching_of_document accepted "name").2.1 (by rw [keys]; decide)
  have steps := (matching_of_document accepted "a.name").2.2 "a" [.name "name"]
    (by simp [Step.Addressable, Path.isAddressable, Path.isMark]) rfl
  rw [keys] at matched
  exact ⟨flat, accepted, keys, by rw [matched]; decide, steps⟩

/-- A path that a key does not address is matched, and taken for it, when it is the key with a line
break at its end. -/
theorem matching_line_break :
    let document : Document := ⟨.obj [("a\n", .int 1)], rfl, by decide⟩
    ∃ flat, ofDocument document = .ok flat ∧
      flat.matching "a" = ["a\n"] ∧ ¬ Addresses "a" "a\n" ∧
      flat.resolve true "a" = .ok ⟨"a\n", ["a\n"]⟩ := by
  intro document
  obtain ⟨flat, accepted⟩ : ∃ flat, ofDocument document = .ok flat := ⟨_, rfl⟩
  refine ⟨flat, accepted, ?_, by decide, ?_⟩
  all_goals
    cases accepted
    cbv

/-! ### Arrays -/

/-- What the name of an array leads to are the elements, by index and without exception, of one
array of scalars that the name addresses. Where matches have to be unique and the name is not itself
the path of an array with a leaf among its items, it addresses no other array with one. -/
theorem exists_scalars_of_resolveArray (accepted : ofDocument document = .ok flat)
    {unique : Bool} {paths : List String} (found : flat.resolveArray unique key = .ok paths) :
    ∃ steps items, Path.get? document steps = some (.arr items) ∧ items ≠ [] ∧
      (∀ item ∈ items, item.isContainer = false) ∧ Addresses key (Path.render steps) ∧
      paths = (List.range items.length).map (Path.appendIndex (Path.render steps)) ∧
      (unique = true →
        (¬ ∃ own items item, Path.get? document own = some (.arr items) ∧ item ∈ items ∧
          item.isLeaf = true ∧ Path.render own = key) →
        ∀ other items item, Path.get? document other = some (.arr items) → item ∈ items →
          item.isLeaf = true → Addresses key (Path.render other) → other = steps) := by
  obtain ⟨addressable, -⟩ := ofDocument_eq_ok accepted
  unfold resolveArray at found
  split at found
  · cases found
  next array picked =>
  obtain ⟨among, alone⟩ := chosen_of_pickArray picked
  obtain ⟨steps, items, item, leads, mem, leaf, short, chosen⟩ :=
    (mem_arraysMatching_iff accepted).1 among
  rw [chosen] at found
  have scalars : ∀ item ∈ items, item.isContainer = false := by
    intro other mem'
    by_contra container
    obtain ⟨path, refused⟩ := elementPaths_of_container accepted leads short mem'
      (by simpa using container)
    rw [refused] at found
    cases found
  rw [elementPaths_of_scalars accepted leads short scalars] at found
  obtain rfl := Except.ok.inj found
  refine ⟨steps, items, leads, List.ne_nil_of_mem mem, scalars, endsAt_iff.1 short, rfl, ?_⟩
  rintro unique notOwn other others item' leads' mem' leaf' short'
  have foreign : key ∉ flat.arraysMatching key := by
    intro own
    obtain ⟨own, items, item, leads, mem, leaf, -, same⟩ :=
      (mem_arraysMatching_iff accepted).1 own
    exact notOwn ⟨own, items, item, leads, mem, leaf, same.symm⟩
  have listed : Path.render other ∈ flat.arraysMatching key :=
    (mem_arraysMatching_iff accepted).2
      ⟨other, others, item', leads', mem', leaf', endsAt_iff.2 short', rfl⟩
  rw [alone unique foreign, List.mem_singleton, chosen] at listed
  exact Path.render_injective (addressable_of_get? addressable leads')
    (addressable_of_get? addressable leads) listed

/-- The name of an array inside an object leads to its elements, past an array whose name only ends
like it. -/
theorem exists_scalars_of_resolveArray_named :
    let document : Document :=
      ⟨.obj [("b", .obj [("list", .arr [.str "x", .null])]), ("blist", .arr [.arr [.str "y"]])],
        rfl, by decide⟩
    ∃ flat, ofDocument document = .ok flat ∧
      flat.resolveArray true "list" = .ok ["b.list[0]", "b.list[1]"] ∧
      ∃ steps items, Path.get? document steps = some (.arr items) ∧ items ≠ [] ∧
        (∀ item ∈ items, item.isContainer = false) ∧ Addresses "list" (Path.render steps) ∧
        ["b.list[0]", "b.list[1]"] =
          (List.range items.length).map (Path.appendIndex (Path.render steps)) := by
  intro document
  obtain ⟨flat, accepted⟩ : ∃ flat, ofDocument document = .ok flat := ⟨_, rfl⟩
  have found : flat.resolveArray true "list" = .ok ["b.list[0]", "b.list[1]"] := by
    cases accepted
    cbv
  obtain ⟨steps, items, leads, nonempty, scalars, addressed, paths, -⟩ :=
    exists_scalars_of_resolveArray accepted found
  exact ⟨flat, accepted, found, steps, items, leads, nonempty, scalars, addressed, paths⟩

end ConfigTemplate.Flat
