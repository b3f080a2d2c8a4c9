import ConfigTemplate.Proofs.Placeholder.Reference
import ConfigTemplate.Proofs.Session.Acyclic

/-!
# What a key depends on

A key depends on all that its references lead to, on what the references there lead to, and so on.
Where all of these hold references only, with no cycle among them, the key is resolved, and so is
all that it depends on. Nothing else is touched, whatever it holds: other keys are not visited, and
no command is run and no variable read on their behalf.
-/

namespace ConfigTemplate.Session

open ConfigTemplate.Action ConfigTemplate.Placeholder Relation

variable {setup : Setup} {flat : Flat} {key owner target : String}

/-- Whether the string of a key holds a reference that is found to lead to another key. -/
def Cites (setup : Setup) (flat : Flat) (owner target : String) : Prop :=
  ∃ text payload, flat.get? owner = some (.str text) ∧ HoldsReference text payload ∧
    target? setup flat payload = some target

/-- Whether a key depends on another one: it is that key, or its references lead there, through
other keys or at once. -/
abbrev DependsOn (setup : Setup) (flat : Flat) : String → String → Prop :=
  ReflTransGen (Cites setup flat)

/-- Whether a text is made of references that are found to lead to keys, no more than may be
substituted, and of literal characters without a dollar sign. -/
def IsMadeOfReferences (setup : Setup) (flat : Flat) (text : String) : Prop :=
  ∃ template : Template, template.text = text ∧
    (∀ payload ∈ template.references, (target? setup flat payload).isSome) ∧
    (template.references.length : Int) ≤ setup.options.limit

/-- What the string of a key cites is where the references of its template lead. -/
theorem cites_iff {template : Template} (present : flat.get? owner = some (.str template.text)) :
    Cites setup flat owner target ↔
      ∃ payload ∈ template.references, target? setup flat payload = some target := by
  constructor
  · rintro ⟨text, payload, held, holds, leads⟩
    obtain rfl := Json.str.inj (Option.some.inj (present.symm.trans held))
    exact ⟨payload, holdsReference_text_iff.1 holds, leads⟩
  · rintro ⟨payload, mem, leads⟩
    exact ⟨_, payload, present, holdsReference_text_iff.2 mem, leads⟩

/-! ### Templates -/

/-- Whether templates are those of the keys that a key depends on, which hold references only. All
other keys have the empty one. -/
structure Describes (setup : Setup) (flat : Flat) (key : String) (template : String → Template) :
    Prop where
  holds : ∀ owner, DependsOn setup flat key owner → HoldsReferencesAt setup flat template owner
  outside : ∀ owner, ¬ DependsOn setup flat key owner → template owner = []

theorem exists_describes (holds : ∀ owner text, DependsOn setup flat key owner →
      flat.get? owner = some (.str text) → IsMadeOfReferences setup flat text) :
    ∃ template, Describes setup flat key template := by
  have each : ∀ owner, ∃ template : Template,
      (∀ text, DependsOn setup flat key owner → flat.get? owner = some (.str text) →
        template.text = text ∧
        (∀ payload ∈ template.references, (target? setup flat payload).isSome) ∧
        (template.references.length : Int) ≤ setup.options.limit) ∧
      (¬ DependsOn setup flat key owner → template = []) := by
    intro owner
    by_cases string : DependsOn setup flat key owner ∧ ∃ text, flat.get? owner = some (.str text)
    · obtain ⟨reached, text, present⟩ := string
      obtain ⟨template, made⟩ := holds owner text reached present
      refine ⟨template, fun other _ held => ?_, fun outside => absurd reached outside⟩
      obtain rfl := Json.str.inj (Option.some.inj (present.symm.trans held))
      exact made
    · exact ⟨[], fun text reached present => absurd ⟨reached, text, present⟩ string, fun _ => rfl⟩
  choose template made outside using each
  refine ⟨template, fun owner reached => ⟨?_, ?_, ?_⟩, outside⟩
  · exact fun text present => (made owner text reached present).1
  · exact fun text present => (made owner text reached present).2.1
  · exact fun text present => (made owner text reached present).2.2

namespace Describes

variable {template : String → Template} (describes : Describes setup flat key template)

include describes

/-- By the templates a key refers to what it cites, if it is one of those that are depended on. -/
theorem refers_iff : Refers setup flat template owner target ↔
    DependsOn setup flat key owner ∧ Cites setup flat owner target := by
  by_cases reached : DependsOn setup flat key owner
  · constructor
    · rintro ⟨text, payload, present, mem, leads⟩
      have source := (describes.holds owner reached).source text present
      exact ⟨reached, (cites_iff (source ▸ present)).2 ⟨payload, mem, leads⟩⟩
    · rintro ⟨-, text, payload, present, held, leads⟩
      have source := (describes.holds owner reached).source text present
      exact ⟨text, payload, present, holdsReference_text_iff.1 (source ▸ held), leads⟩
  · refine ⟨?_, fun ⟨inside, _⟩ => absurd inside reached⟩
    rintro ⟨_, payload, _, mem, _⟩
    rw [describes.outside owner reached] at mem
    cases mem

/-- What a key depends on it refers to over some references. -/
theorem reflTransGen_refers (path : DependsOn setup flat key target) :
    ReflTransGen (Refers setup flat template) key target := by
  induction path with
  | refl => exact .refl
  | tail path edge ih => exact ih.tail (describes.refers_iff.2 ⟨path, edge⟩)

theorem selfContained (plainly : ∀ target value, TransGen (Cites setup flat) key target →
      flat.get? target = some value → value.isLeaf = false →
      '$' ∉ (value.text .asciiLine).toList) :
    SelfContained setup flat template (DependsOn setup flat key) where
  holds := describes.holds
  closed _ _ reached refers := reached.tail (describes.refers_iff.1 refers).2
  plainly _ target value reached refers :=
    plainly target value (.tail' reached (describes.refers_iff.1 refers).2)

end Describes

/-! ### Resolving a key -/

/-- A key that depends on references only, with no cycle among them and with no container referred
to that is written with a dollar sign, is resolved without a command and without a variable. Just
the keys that it depends on are resolved with it, and all others are neither visited nor changed. -/
theorem resolveKey_of_references (standard : setup.registry = .standard) (mem : key ∈ flat)
    (holds : ∀ owner text, DependsOn setup flat key owner →
      flat.get? owner = some (.str text) → IsMadeOfReferences setup flat text)
    (acyclic : ∀ owner, DependsOn setup flat key owner → ¬ TransGen (Cites setup flat) owner owner)
    (plainly : ∀ target value, TransGen (Cites setup flat) key target →
      flat.get? target = some value → value.isLeaf = false →
      '$' ∉ (value.text .asciiLine).toList) :
    let final := (resolveKey setup key).final (start flat)
    (∃ value, (resolveKey setup key).result (start flat) = .ok value ∧
        final.flat.get? key = some value) ∧
      final.journal.AsksNothing ∧
      (∀ other, final.mark other = .resolved ↔ DependsOn setup flat key other) ∧
      ∀ other, ¬ DependsOn setup flat key other →
        final.mark other = .unvisited ∧ final.flat.get? other = flat.get? other := by
  intro final
  obtain ⟨template, describes⟩ := exists_describes holds
  have ensured := resolves_resolveKey standard (describes.selfContained plainly) .refl mem
    (settles_start setup flat template)
  cases came : (resolveKey setup key).result (start flat) with
  | error halt =>
    obtain ⟨_, owner, cycle⟩ := ensured.error came
    obtain ⟨_, first, _⟩ := TransGen.head'_iff.1 cycle
    exact absurd (cycle.lift id fun _ _ edge => (describes.refers_iff.1 edge).2)
      (acyclic owner (describes.refers_iff.1 first).1)
  | ok value =>
    obtain ⟨settles, develops, resolved, present⟩ := ensured.ok came
    have untouched {other} (apart : ¬ DependsOn setup flat key other) :
        final.mark other = .unvisited := develops.others other apart
    have begun : (start flat).journal.AsksNothing := fun _ mem => nomatch mem
    refine ⟨⟨value, rfl, present⟩, develops.asksNothing begun, fun other => ⟨fun known => ?_, ?_⟩,
      fun other apart => ⟨untouched apart, ?_⟩⟩
    · by_contra apart
      cases (untouched apart).symm.trans known
    · exact fun path => settles.reaches resolved (describes.reflTransGen_refers path)
    · refine settles.others other fun known => ?_
      cases (untouched apart).symm.trans known

/-- A command, a missing variable, a missing key and a loop are left alone by a key that refers to
none of them. -/
theorem resolveKey_of_references_aside :
    let setup : Setup :=
      ⟨.standard, ⟨fun _ _ => .failed 1 "", fun _ => none, false⟩, .standard⟩
    let flat := Flat.ofList [("k", .str "x$\x7b n \x7d$\x7bn\x7d"), ("n", .int 1),
      ("c", .str "$(c)"), ("v", .str "$V"), ("g", .str "$\x7bgone\x7d"), ("l", .str "$\x7bl\x7d")]
    let final := (resolveKey setup "k").final (start flat)
    (resolveKey setup "k").result (start flat) = .ok (.str "x11") ∧
      final.journal.AsksNothing ∧
      (∀ other, final.mark other = .resolved ↔ other = "k" ∨ other = "n") ∧
      final.mark "l" = .unvisited ∧ final.flat.get? "c" = some (.str "$(c)") := by
  intro setup flat final
  let template : Template := [.literal "x" (by decide), .reference " n " (by decide) (by decide),
    .reference "n" (by decide) (by decide)]
  have k : flat.get? "k" = some (.str template.text) := by cbv
  have n : flat.get? "n" = some (.int 1) := by cbv
  have leads : ∀ payload ∈ template.references, target? setup flat payload = some "n" := by
    intro payload mem
    obtain rfl | rfl : payload = " n " ∨ payload = "n" := by simpa [template] using mem
    · cbv
    · cbv
  have edge {target} : Cites setup flat "k" target ↔ target = "n" := by
    rw [cites_iff k]
    constructor
    · rintro ⟨payload, mem, found⟩
      exact Option.some.inj (found.symm.trans (leads payload mem))
    · rintro rfl
      exact ⟨"n", by simp [template], leads "n" (by simp [template])⟩
  have last {target} : ¬ Cites setup flat "n" target := by
    rintro ⟨text, _, present, _⟩
    cases n.symm.trans present
  have reached : ∀ other, DependsOn setup flat "k" other ↔ other = "k" ∨ other = "n" := by
    refine fun other => ⟨fun path => ?_, ?_⟩
    · induction path with
      | refl => exact .inl rfl
      | tail _ next ih =>
        obtain rfl | rfl := ih
        · exact .inr (edge.1 next)
        · exact absurd next last
    · rintro (rfl | rfl)
      · exact .refl
      · exact .single (edge.2 rfl)
  have holds : ∀ owner text, DependsOn setup flat "k" owner →
      flat.get? owner = some (.str text) → IsMadeOfReferences setup flat text := by
    intro owner text inside present
    obtain rfl | rfl := (reached owner).1 inside
    · obtain rfl := Json.str.inj (Option.some.inj (k.symm.trans present))
      exact ⟨template, rfl, fun payload mem => by rw [leads payload mem]; rfl, by decide⟩
    · cases n.symm.trans present
  have acyclic : ∀ owner, DependsOn setup flat "k" owner →
      ¬ TransGen (Cites setup flat) owner owner := by
    intro owner inside cycle
    obtain ⟨target, first, back⟩ := TransGen.head'_iff.1 cycle
    obtain rfl | rfl := (reached owner).1 inside
    · obtain rfl := edge.1 first
      obtain same | ⟨_, second, _⟩ := ReflTransGen.cases_head back
      · exact absurd same (by decide)
      · exact last second
    · exact last first
  have plainly : ∀ target value, TransGen (Cites setup flat) "k" target →
      flat.get? target = some value → value.isLeaf = false →
      '$' ∉ (value.text .asciiLine).toList := by
    intro target value path present container
    obtain rfl | rfl := (reached target).1 path.to_reflTransGen
    · cases k.symm.trans present
      cases container
    · cases n.symm.trans present
      cases container
  obtain ⟨-, quiet, marks, others⟩ :=
    resolveKey_of_references (rfl : setup.registry = .standard) (Flat.mem_of_get? k) holds acyclic
      plainly
  have apart {other} (different : ¬ (other = "k" ∨ other = "n")) :
      ¬ DependsOn setup flat "k" other := fun path => different ((reached other).1 path)
  refine ⟨by cbv, quiet, fun other => (marks other).trans (reached other), ?_, ?_⟩
  · exact (others "l" (apart (by decide))).1
  · exact (others "c" (apart (by decide))).2.trans (by cbv)

/-- A container that is written with a dollar sign can bring in a variable, so without the condition
on containers a key need not be resolved. -/
theorem not_resolveKey_of_dollar :
    ¬ ∀ (setup : Setup) (flat : Flat) (key : String), setup.registry = .standard → key ∈ flat →
      (∀ owner text, DependsOn setup flat key owner →
        flat.get? owner = some (.str text) → IsMadeOfReferences setup flat text) →
      (∀ owner, DependsOn setup flat key owner →
        ¬ TransGen (Cites setup flat) owner owner) →
      ∃ value, (resolveKey setup key).result (start flat) = .ok value := by
  intro claim
  let setup : Setup := ⟨.standard, ⟨fun _ _ => .output "", fun _ => none, false⟩, .standard⟩
  let flat := Flat.ofList [("a", .arr [.str "$x"]), ("b", .str "$\x7ba\x7d")]
  let template : Template := [.reference "a" (by decide) (by decide)]
  have b : flat.get? "b" = some (.str template.text) := by cbv
  have source : template.text = "$\x7ba\x7d" := by cbv
  have strings : ∀ key text, flat.get? key = some (.str text) →
      key = "b" ∧ text = template.text := by
    intro key text present
    rw [source]
    simpa [flat, Flat.ofList, Entries.ofList, Entries.put] using Entries.mem_of_get? present
  have leads : ∀ payload ∈ template.references, target? setup flat payload = some "a" := by
    intro payload mem
    obtain rfl : payload = "a" := by simpa [template] using mem
    cbv
  have edges {owner target} (edge : Cites setup flat owner target) :
      owner = "b" ∧ target = "a" := by
    obtain ⟨text, _, present, _⟩ := id edge
    obtain ⟨rfl, rfl⟩ := strings owner text present
    obtain ⟨payload, mem, found⟩ := (cites_iff b).1 edge
    exact ⟨rfl, Option.some.inj (found.symm.trans (leads payload mem))⟩
  have holds : ∀ owner text, DependsOn setup flat "b" owner →
      flat.get? owner = some (.str text) → IsMadeOfReferences setup flat text := by
    intro owner text _ present
    obtain ⟨-, rfl⟩ := strings owner text present
    exact ⟨template, rfl, fun payload mem => by rw [leads payload mem]; rfl, by decide⟩
  have acyclic : ∀ owner, DependsOn setup flat "b" owner →
      ¬ TransGen (Cites setup flat) owner owner := by
    intro owner _ cycle
    obtain ⟨target, first, back⟩ := TransGen.head'_iff.1 cycle
    obtain ⟨rfl, rfl⟩ := edges first
    obtain same | ⟨_, second, _⟩ := ReflTransGen.cases_head back
    · exact absurd same (by decide)
    · exact absurd (edges second).1 (by decide)
  have failed : (resolveKey setup "b").result (start flat) =
      .error (.failure (.variableMissing "x")) := by cbv
  obtain ⟨value, resolved⟩ := claim setup flat "b" rfl (Flat.mem_of_get? b) holds acyclic
  cases failed.symm.trans resolved

end ConfigTemplate.Session
