import ConfigTemplate.Proofs.Flat.Elements
import ConfigTemplate.Proofs.Flat.Lookup
import ConfigTemplate.Proofs.Json.Scalar
import ConfigTemplate.Proofs.Placeholder.Template
import ConfigTemplate.Proofs.Session.Invariant
import ConfigTemplate.Proofs.Session.Trail
import Mathlib

/-!
# References to paths

A reference to a path of a document is replaced by the text of the value there, as long as the text
of the path can be the payload of a reference: it has no braces, and no white space around it.

A name with a brace ends the payload early or is not part of one, and white space around a payload
is not part of what is looked up. Paths of both kinds are in documents, and a reference to them
leads nowhere, or to another value.
-/

namespace ConfigTemplate

open ConfigTemplate.Action

/-- A text without placeholders of any kind has none of some kinds. -/
theorem Placeholder.scan_eq_none_of_all {text : String} (clean : scan Kind.all text = none)
    (kinds : List Kind) : scan kinds text = none := by
  rw [scan, List.findSome?_eq_none_iff] at clean ⊢
  exact fun kind _ => clean kind (by cases kind <;> decide)

namespace Session

variable {setup : Setup} {s : Session} {key text : String} {value : Json}

theorem scan_eq_none_of_isPending {kinds : List Placeholder.Kind}
    (clean : isPending kinds (.str text) = false) : Placeholder.scan kinds text = none := by
  simpa [isPending, Placeholder.occurs] using clean

/-- The text of a leaf has the placeholders that the leaf has. -/
theorem scan_spliced_of_isLeaf (leaf : value.isLeaf = true)
    (clean : isPending Placeholder.Kind.all value = false) (kinds : List Placeholder.Kind) :
    Placeholder.scan kinds value.spliced = none := by
  obtain ⟨text, rfl⟩ | other := value.eq_str_or
  · exact Placeholder.scan_eq_none_of_all (scan_eq_none_of_isPending clean) kinds
  · have plain : '$' ∉ value.spliced.toList := by
      have written := Json.dollar_not_mem_text_of_isLeaf leaf other .asciiLine
      cases value with
      | str text => exact absurd rfl (other text)
      | _ => exact written
    exact Placeholder.scan_of_plain plain kinds

/-- A value without placeholders is what its key resolves to. -/
theorem result_resolveKey_of_clean (present : s.flat.get? key = some value)
    (clean : isPending Placeholder.Kind.all value = false) :
    (resolveKey setup key).result s = .ok value := by
  obtain ⟨deeper, step, -⟩ := exists_deeper setup (s.flat.size + setup.registry.depth)
  have begun : (resolveKey setup key).result s =
      (resolveStep setup deeper .empty key).result s := by
    change ((resolveOn setup (s.flat.size + setup.registry.depth) .empty).answer _).result s = _
    rw [step]
    rfl
  rw [begun]
  by_cases resolved : s.mark key = .resolved
  · exact (resolveStep_of_resolved setup deeper .empty resolved present).1
  have off : key ∉ Trail.empty.keys := by simp
  obtain ⟨longer, pushed⟩ := Trail.exists_push off
  have entered : (s.entering key).flat.get? key = some value := present
  rw [(resolveStep_of_push setup deeper resolved pushed).1, result_enterKey]
  obtain ⟨text, rfl⟩ | other := value.eq_str_or
  · have unmarked := Placeholder.scan_eq_none_of_all (scan_eq_none_of_isPending clean) (kinds setup)
    rw [result_resolveValue_of_str entered, substituteAll, substitute_of_scan unmarked]
    rfl
  · exact result_resolveValue_of_ne_str entered other

/-- A path leads to its own value. -/
theorem result_follow_of_clean (present : s.flat.get? key = some value)
    (clean : isPending Placeholder.Kind.all value = false) :
    (follow setup (atRest setup) key).result s = .ok value := by
  rw [follow, result_bind_of_ok (result_get s), final_get]
  simp only [Flat.resolve_of_mem (Flat.mem_of_get? present)]
  exact result_resolveKey_of_clean present clean

/-- A reference becomes the text of the value that it leads to, when there is no placeholder in
that. -/
theorem result_expand_reference {payload : String} (limit : 1 ≤ setup.options.limit)
    (nonempty : payload ≠ "") (braceless : payload.toList.all (!Placeholder.isBrace ·) = true)
    (leads : (follow setup (atRest setup) (Text.trimmed payload)).result s = .ok value)
    (clean : Placeholder.scan (kinds setup) value.spliced = none) :
    (expand setup ("$\x7b" ++ payload ++ "\x7d")).result s = .ok value.spliced := by
  -- The reference is the whole text, so its replacement is the whole result.
  let text := "$\x7b" ++ payload ++ "\x7d"
  let p : Placeholder := ⟨.reference, payload, 0⟩
  have source : text.toList = [] ++ (p.chars ++ []) := by
    simp [text, p, Placeholder.chars, Placeholder.Kind.enclose]
  have found : Placeholder.scan (kinds setup) text = some p := by
    obtain ⟨others, first⟩ : ∃ others, kinds setup = .reference :: others := by
      unfold kinds
      split <;> exact ⟨_, rfl⟩
    rw [first]
    exact Placeholder.scan_reference List.not_mem_nil (by simpa using nonempty) braceless source _
  have replaced : (replacement setup (atRest setup) none text p).result s =
      .ok value.spliced := by
    rw [replacement]
    simp only [p]
    rw [result_bind_of_ok (result_attempt ..), leads]
    rfl
  have updated : p.splice text value.spliced = value.spliced := by
    rw [← String.toList_inj, Placeholder.toList_splice source rfl]
    simp
  have changed : value.spliced ≠ text := by
    intro same
    rw [same, found] at clean
    cases clean
  obtain ⟨count, least⟩ : ∃ count, setup.options.limit.toNat = count + 1 :=
    Nat.exists_eq_add_one.2 (by omega)
  change (substituteAll setup (atRest setup) none text).result s = _
  rw [substituteAll, least, substitute]
  simp only [found]
  rw [result_bind_of_ok replaced, result_bind_of_ok (result_note ..), updated, if_neg changed,
    substitute_of_scan clean]
  rfl

/-- A reference to a path of a document is replaced by the text of the value there, if the value has
no placeholders and the path has no braces and no white space around it. -/
theorem expand_path {document : Document} {flat : Flat} {path : String}
    (accepted : Flat.ofDocument document = .ok flat)
    (present : flat.get? path = some value)
    (clean : isPending Placeholder.Kind.all value = false)
    (braceless : ∀ c ∈ path.toList, c ≠ '\x7b' ∧ c ≠ '\x7d')
    (bare : Text.trimmed path = path) (limit : 1 ≤ setup.options.limit) :
    (expand setup ("$\x7b" ++ path ++ "\x7d")).result (start flat) = .ok value.spliced := by
  obtain ⟨addressable, -⟩ := Flat.ofDocument_eq_ok accepted
  obtain ⟨steps, below, at_, leaf, rfl⟩ :=
    (Flat.mem_entries_iff accepted).1 (Entries.mem_of_get? present)
  have leads : (follow setup (atRest setup) (Text.trimmed (Path.render steps))).result
      (start flat) = .ok value := by
    rw [bare]
    exact result_follow_of_clean present clean
  exact result_expand_reference limit
    (Path.render_ne_empty below (Flat.addressable_of_get? addressable at_))
    (by simpa [Placeholder.isBrace] using braceless) leads (scan_spliced_of_isLeaf leaf clean _)

/-- White space and marks inside a path do no harm. -/
theorem expand_path_spaced :
    let document : Document :=
      ⟨.obj [("a $b", .arr [.null, .obj [("c d", .str "x$ y")]]), ("c d", .int 1)], rfl, by decide⟩
    let setup : Setup := ⟨.standard, ⟨fun _ _ => .output "", fun _ => none, false⟩, .standard⟩
    ∃ flat, Flat.ofDocument document = .ok flat ∧
      flat.get? "a $b[1].c d" = some (.str "x$ y") ∧
      (expand setup "$\x7ba $b[1].c d\x7d").result (start flat) = .ok "x$ y" := by
  intro document setup
  obtain ⟨flat, accepted⟩ : ∃ flat, Flat.ofDocument document = .ok flat := ⟨_, rfl⟩
  have present : flat.get? "a $b[1].c d" = some (.str "x$ y") := by
    cases accepted
    cbv
  have clean : isPending Placeholder.Kind.all (.str "x$ y") = false := by cbv
  have braceless : ∀ c ∈ "a $b[1].c d".toList, c ≠ '\x7b' ∧ c ≠ '\x7d' := by simp
  have bare : Text.trimmed "a $b[1].c d" = "a $b[1].c d" := by cbv
  exact ⟨flat, accepted, present,
    expand_path accepted present clean braceless bare (by decide)⟩

/-- With white space in front a path gives the value of another, with a brace it gives more than a
value, and with white space at its end it is missing. -/
theorem expand_path_padded :
    let document : Document :=
      ⟨.obj [(" a", .int 1), ("a", .int 2), ("a\x7d", .int 3), ("b ", .int 4)], rfl, by decide⟩
    let setup : Setup := ⟨.standard, ⟨fun _ _ => .output "", fun _ => none, false⟩, .standard⟩
    ∃ flat, Flat.ofDocument document = .ok flat ∧
      flat.entries = [(" a", .int 1), ("a", .int 2), ("a\x7d", .int 3), ("b ", .int 4)] ∧
      (expand setup "$\x7b a\x7d").result (start flat) = .ok "2" ∧
      (expand setup "$\x7ba\x7d\x7d").result (start flat) = .ok "2\x7d" ∧
      (expand setup "$\x7bb \x7d").result (start flat) =
        .error (.failure (.keyNotFound "b" .unmatched)) := by
  intro document setup
  obtain ⟨flat, accepted⟩ : ∃ flat, Flat.ofDocument document = .ok flat := ⟨_, rfl⟩
  refine ⟨flat, accepted, ?_, ?_, ?_, ?_⟩
  all_goals
    cases accepted
    cbv

end Session

end ConfigTemplate
