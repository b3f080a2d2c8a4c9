import ConfigTemplate.Proofs.Flat.Array
import ConfigTemplate.Proofs.Join
import ConfigTemplate.Proofs.Session.Run
import Mathlib

/-!
# Joining an array by its full path

To look up a join expression that is no key of the document is to resolve the elements of the array
one after the other and to join the texts of their values. What stops an element stops the lookup.
-/

namespace ConfigTemplate

namespace Session

open ConfigTemplate.Action

variable {setup : Setup} {enter : Enter} {s : Session}

/-- The texts of some values, without the empty ones. -/
def joinable (values : List Json) : List String :=
  (values.map Json.spliced).filter (· ≠ "")

theorem joinable_cons (value : Json) (values : List Json) :
    joinable (value :: values) =
      if value.spliced = "" then joinable values else value.spliced :: joinable values := by
  by_cases empty : value.spliced = "" <;> simp [joinable, empty]

/-- The texts of elements come from their values, which are resolved one after the other. -/
theorem elementTexts_eq (enter : Enter) (keys : List String) :
    elementTexts enter keys = do return joinable (← keys.mapM enter) := by
  induction keys with
  | nil => rfl
  | cons key keys ih =>
    simp only [elementTexts, ih, List.mapM_cons, bind_assoc, pure_bind, joinable_cons]

/-- Resolve some keys one after the other and join the texts of their values. Where there are none,
the key that was missing remains missing. -/
def joinKeys (enter : Enter) (missing : Failure) (join : Join) (keys : List String) :
    Action String := do
  let values ← keys.mapM enter
  if joinable values = [] then fail missing
  note (.joined (joinable values).length join)
  return String.intercalate join.separator (joinable values)

section JoinKeys

variable {missing : Failure} {join : Join} {keys : List String} {values : List Json}

theorem joinKeys_of_texts (all : (keys.mapM enter).result s = .ok values)
    (texts : joinable values ≠ []) :
    (joinKeys enter missing join keys).result s =
        .ok (String.intercalate join.separator (joinable values)) ∧
      (joinKeys enter missing join keys).final s =
        ((keys.mapM enter).final s).noted (.joined (joinable values).length join) := by
  rw [joinKeys, result_bind_of_ok all, final_bind_of_ok all]
  simp only [if_neg texts]
  exact ⟨rfl, rfl⟩

theorem joinKeys_of_no_text (all : (keys.mapM enter).result s = .ok values)
    (none : joinable values = []) :
    (joinKeys enter missing join keys).result s = .error (.failure missing) ∧
      (joinKeys enter missing join keys).final s = (keys.mapM enter).final s := by
  rw [joinKeys, result_bind_of_ok all, final_bind_of_ok all]
  simp only [if_pos none]
  exact ⟨rfl, rfl⟩

theorem joinKeys_of_error {halt : Halt} (stopped : (keys.mapM enter).result s = .error halt) :
    (joinKeys enter missing join keys).result s = .error halt ∧
      (joinKeys enter missing join keys).final s = (keys.mapM enter).final s := by
  rw [joinKeys, result_bind_of_error stopped, final_bind_of_error stopped]
  exact ⟨rfl, rfl⟩

end JoinKeys

/-- To join an array that is found and whose elements are scalars is to join its elements. -/
theorem joinElements_eq (enter : Enter) (missing : Failure) (join : Join) {array : String}
    {paths : List String}
    (found : s.flat.pickArray setup.options.uniqueMatch join.path = .ok ⟨array, [array]⟩)
    (elements : s.flat.elementPaths join.path array = .ok paths) :
    (joinElements setup enter missing join).result s =
        (joinKeys enter missing join paths).result s ∧
      (joinElements setup enter missing join).final s =
        (joinKeys enter missing join paths).final s := by
  rw [joinElements, result_bind_of_ok (result_get s), final_bind_of_ok (result_get s), final_get]
  simp only [found, elements, orMissing, notePick, pure_bind, elementTexts_eq, bind_assoc,
    List.isEmpty_iff, joinKeys, and_self]

/-- A key that is missing and written as a join expression has its array joined. -/
theorem lookup_eq_of_written {path separator : String} {quote : Char} {paths : List String}
    (registry : setup.registry = .standard) (nonempty : path ≠ "")
    (unmarked : ¬ Join.mark <:+: path.toList) (isQuote : Join.isQuote quote = true)
    (noBreak : ∀ c ∈ separator.toList, Join.isBreak c = false)
    (missing : s.flat.matching (Join.written path separator quote) = [])
    (found : s.flat.pickArray setup.options.uniqueMatch path = .ok ⟨path, [path]⟩)
    (elements : s.flat.elementPaths path path = .ok paths) :
    let expression := Join.written path separator quote
    let joined := joinKeys (atRest setup) (.keyNotFound expression .unmatched)
      ⟨path, separator⟩ paths
    (lookup setup expression).result s = (joined.result s).map .str ∧
      (lookup setup expression).final s = joined.final s := by
  intro expression joined
  have absent : expression ∉ s.flat := by
    intro mem
    have matched : expression ∈ s.flat.matching expression :=
      List.mem_filter.2 ⟨mem, by simp [Flat.isShorthand, Flat.endsAt]⟩
    rw [missing] at matched
    cases matched
  have unresolved : s.flat.resolve setup.options.uniqueMatch expression =
      .error (.keyNotFound expression .unmatched) := by
    rw [Flat.resolve, if_neg absent, missing]
    rfl
  have handled : recover setup (atRest setup) (.keyNotFound expression .unmatched) =
      joinElements setup (atRest setup) (.keyNotFound expression .unmatched)
        ⟨path, separator⟩ := by
    have parsed := Join.ofExpression?_written nonempty unmarked isQuote noBreak
    rw [recover, registry]
    change applyHandler setup (atRest setup) .joinElements _ = _
    rw [applyHandler, parsed]
  obtain ⟨result, final⟩ := joinElements_eq (atRest setup)
    (.keyNotFound expression .unmatched) ⟨path, separator⟩ found elements
  rw [lookup, follow, result_bind_of_ok (result_get s), final_bind_of_ok (result_get s), final_get]
  simp only [unresolved, handled]
  cases done : joined.result s with
  | error halt =>
    have stopped := result.trans done
    rw [result_bind_of_error stopped, final_bind_of_error stopped]
    exact ⟨rfl, final⟩
  | ok text =>
    have joins := result.trans done
    rw [result_bind_of_ok joins, final_bind_of_ok joins]
    exact ⟨rfl, final⟩

/-- To look up the full path of an array of scalars, joined with a separator between quotes, is to
resolve its elements by index and to join the texts of their values that are not empty. Where all
are empty the expression itself is missing, and what stops an element stops the lookup. -/
theorem lookup_written {document : Document} {flat : Flat} {steps : Path} {items : List Json}
    {separator : String} {quote : Char}
    (accepted : Flat.ofDocument document = .ok flat)
    (leads : Path.get? document steps = some (.arr items)) (below : steps ≠ [])
    (nonempty : items ≠ []) (scalars : ∀ item ∈ items, item.isContainer = false)
    (unmarked : ¬ ".join(".toList <:+: (Path.render steps).toList)
    (noBreak : ∀ c ∈ separator.toList, c ≠ '\n' ∧ c ≠ '\r' ∧ c ≠ '\t')
    (isQuote : quote = '\'' ∨ quote = '"') (standard : setup.registry = .standard)
    (missing : flat.matching (Join.written (Path.render steps) separator quote) = [])
    (shape : s.flat.shape = flat.shape) :
    let path := Path.render steps
    let expression := Join.written path separator quote
    let elements := ((List.range items.length).map (Path.appendIndex path)).mapM (resolveKey setup)
    (∀ values, elements.result s = .ok values → joinable values ≠ [] →
      (lookup setup expression).result s =
          .ok (.str (String.intercalate separator (joinable values))) ∧
        (lookup setup expression).final s =
          (elements.final s).noted (.joined (joinable values).length ⟨path, separator⟩)) ∧
    (∀ values, elements.result s = .ok values → joinable values = [] →
      (lookup setup expression).result s = .error (.failure (.keyNotFound expression .unmatched)) ∧
        (lookup setup expression).final s = elements.final s) ∧
    (∀ halt, elements.result s = .error halt →
      (lookup setup expression).result s = .error halt ∧
        (lookup setup expression).final s = elements.final s) := by
  intro path expression elements
  obtain ⟨addressable, -⟩ := Flat.ofDocument_eq_ok accepted
  have named : path ≠ "" :=
    Path.render_ne_empty below (Flat.addressable_of_get? addressable leads)
  have quoted : Join.isQuote quote = true := by simpa [Join.isQuote] using isQuote
  have unbroken : ∀ c ∈ separator.toList, Join.isBreak c = false := fun c mem => by
    simpa [Join.isBreak, and_assoc] using noBreak c mem
  have missing' : s.flat.matching expression = [] := by
    rw [Flat.matching, Flat.keys_eq_of_shape shape]
    exact missing
  obtain ⟨item, mem⟩ := List.exists_mem_of_ne_nil _ nonempty
  have found : s.flat.pickArray setup.options.uniqueMatch path = .ok ⟨path, [path]⟩ := by
    rw [Flat.pickArray_eq_of_shape shape]
    exact Flat.pickArray_render accepted leads mem
      (Json.isLeaf_of_not_isContainer (scalars item mem)) _
  have paths : s.flat.elementPaths path path = .ok (Flat.elementPathsUpTo path items.length) := by
    rw [Flat.elementPaths_eq_of_shape shape]
    exact Flat.elementPaths_of_scalars accepted leads (by simp [Flat.endsAt, path]) scalars
  obtain ⟨result, final⟩ :=
    lookup_eq_of_written standard named unmarked quoted unbroken missing' found paths
  rw [result, final]
  refine ⟨fun values all texts => ?_, fun values all none => ?_, fun halt stopped => ?_⟩
  · obtain ⟨joins, leaves⟩ := joinKeys_of_texts all texts
    exact ⟨congrArg (Except.map Json.str) joins, leaves⟩
  · obtain ⟨fails, leaves⟩ := joinKeys_of_no_text all none
    exact ⟨congrArg (Except.map Json.str) fails, leaves⟩
  · obtain ⟨stops, leaves⟩ := joinKeys_of_error stopped
    exact ⟨congrArg (Except.map Json.str) stops, leaves⟩

/-- References among the elements are followed, an empty text is left out and null is written as
JSON. -/
theorem lookup_written_reference :
    let document : Document :=
      ⟨.obj [("base", .str "v"), ("list", .arr [.str "${base}", .str "", .null])], rfl, by decide⟩
    let setup : Setup := ⟨.standard, ⟨fun _ _ => .output "", fun _ => none, false⟩, .standard⟩
    ∃ flat, Flat.ofDocument document = .ok flat ∧
      flat.matching "list.join(', ')" = [] ∧
      (lookup setup "list.join(', ')").result (start flat) = .ok (.str "v, null") := by
  intro document setup
  obtain ⟨flat, accepted⟩ : ∃ flat, Flat.ofDocument document = .ok flat := ⟨_, rfl⟩
  have leads : Path.get? document [.name "list"] =
      some (.arr [.str "${base}", .str "", .null]) := rfl
  have missing : flat.matching (Join.written (Path.render [.name "list"]) ", " '\'') = [] := by
    cases accepted
    cbv
  have values : (((List.range 3).map (Path.appendIndex (Path.render [.name "list"]))).mapM
      (resolveKey setup)).result (start flat) = .ok [.str "v", .str "", .null] := by
    cases accepted
    cbv
  have texts : joinable [.str "v", .str "", .null] = ["v", "null"] := by cbv
  have joined := (lookup_written accepted leads (by simp) (by simp)
    (by simp [Json.isContainer]) (by decide) (by simp) (.inl rfl) (rfl : setup.registry = .standard)
    missing (rfl : (start flat).flat.shape = flat.shape)).1 _ values (by simp [texts])
  rw [texts] at joined
  exact ⟨flat, accepted, missing, joined.1⟩

end Session

end ConfigTemplate
