import ConfigTemplate.Proofs.Placeholder.Template
import Mathlib.Data.List.Basic

/-!
# References in a text

A text holds a reference wherever a payload without braces stands between the marks. Two references
in a text are the same or do not overlap, since the marks have a brace and the payloads have none.
So a text in which one of its references was replaced holds all the others still, whatever came in,
and a text in which no reference is found holds none.
-/

namespace ConfigTemplate.Placeholder

variable {kinds others : List Kind} {kind : Kind} {position : Nat}
variable {cs payload inner front rest : List Char} {p : Placeholder} {text name : String}

/-- Whether a text holds a reference with a payload. -/
structure HoldsReference (text payload : String) : Prop where
  nonempty : payload.toList ≠ []
  braceless : payload.toList.all (!isBrace ·) = true
  written : ∃ front rest, text.toList = front ++ (Kind.reference.enclose payload.toList ++ rest)

/-- What a part of a text holds the text holds. -/
theorem HoldsReference.of_isInfix {part : String} (h : HoldsReference part name)
    (inside : part.toList <:+: text.toList) : HoldsReference text name := by
  obtain ⟨nonempty, braceless, front, rest, source⟩ := h
  obtain ⟨before, after, whole⟩ := inside
  refine ⟨nonempty, braceless, before ++ front, rest ++ after, ?_⟩
  rw [← whole, source]
  simp only [List.append_assoc]

/-! ### Finding references -/

theorem exists_of_reference_payload? (h : Kind.reference.payload? cs = some payload) :
    ∃ rest, cs = '$' :: '\x7b' :: rest ∧ referencePayload? rest = some payload := by
  unfold Kind.payload? at h
  split at h
  · exact ⟨_, rfl, h⟩
  · contradiction
  · contradiction
  · contradiction

/-- The payload of a reference is not empty and has no braces. -/
theorem braceless_of_referencePayload? (h : referencePayload? cs = some payload) :
    payload ≠ [] ∧ payload.all (!isBrace ·) = true := by
  unfold referencePayload? at h
  split at h
  next c front rest inside after =>
    cases h
    rw [← inside]
    exact ⟨by simp [inside], List.all_takeWhile⟩
  · cases h

/-- What stands between the marks of a reference is found there. -/
theorem payload?_enclose (nonempty : payload ≠ []) (braceless : payload.all (!isBrace ·) = true)
    (rest : List Char) :
    Kind.reference.payload? (Kind.reference.enclose payload ++ rest) = some payload := by
  simp [Kind.enclose, Kind.payload?, referencePayload?_append nonempty braceless]

/-- A reference that is found is held by the text. -/
theorem holdsReference_of_scan (h : scan kinds text = some p) (reference : p.kind = .reference) :
    HoldsReference text p.payload := by
  obtain ⟨front, rest, source, found, _⟩ := payload?_of_scan h
  rw [reference] at found
  obtain ⟨_, _, inside⟩ := exists_of_reference_payload? found
  obtain ⟨nonempty, braceless⟩ := braceless_of_referencePayload? inside
  obtain ⟨after, rfl⟩ := Kind.payload?_eq_some found
  exact ⟨nonempty, braceless, front, after, source⟩

/-- Where a placeholder of a kind begins, one is found there or earlier. -/
theorem firstFrom?_ne_none {c : Char} (h : kind.payload? (c :: rest) ≠ none) (front : List Char)
    (position : Nat) : firstFrom? kind position (front ++ c :: rest) ≠ none := by
  induction front generalizing position with
  | nil =>
    obtain ⟨payload, found⟩ := Option.ne_none_iff_exists'.1 h
    simp [firstFrom?, at?, found]
  | cons d front ih =>
    rw [List.cons_append, firstFrom?]
    split
    · simp
    · exact ih _

/-- In a text that holds a reference a scan for references finds one. -/
theorem HoldsReference.exists_scan (h : HoldsReference text name) (others : List Kind) :
    ∃ p, scan (.reference :: others) text = some p ∧ p.kind = .reference := by
  obtain ⟨nonempty, braceless, front, rest, source⟩ := h
  have begins : Kind.reference.payload? (Kind.reference.enclose name.toList ++ rest) ≠ none := by
    rw [payload?_enclose nonempty braceless]
    simp
  have found : firstFrom? .reference 0 text.toList ≠ none := by
    rw [source]
    exact firstFrom?_ne_none begins front 0
  obtain ⟨p, first⟩ := Option.ne_none_iff_exists'.1 found
  exact ⟨p, by rw [scan, List.findSome?_cons, first], (firstFrom?_eq_some first).1⟩

/-- A text in which nothing is found holds no reference. -/
theorem not_holdsReference_of_none (h : scan (.reference :: others) text = none) :
    ¬ HoldsReference text name := by
  intro holds
  obtain ⟨p, found, _⟩ := holds.exists_scan others
  rw [h] at found
  cases found

/-- References come first: a text in which something else is found holds none. -/
theorem not_holdsReference_of_kind (h : scan (.reference :: others) text = some p)
    (other : p.kind ≠ .reference) : ¬ HoldsReference text name := by
  intro holds
  obtain ⟨q, found, reference⟩ := holds.exists_scan others
  obtain rfl := Option.some.inj (h.symm.trans found)
  exact other reference

/-- A text holds no reference exactly if a scan for references finds none. -/
theorem scan_reference_eq_none_iff :
    scan [.reference] text = none ↔ ∀ payload, ¬ HoldsReference text payload := by
  constructor
  · exact fun none payload => not_holdsReference_of_none none
  · intro free
    by_contra found
    obtain ⟨p, found⟩ := Option.ne_none_iff_exists'.1 found
    exact free _ (holdsReference_of_scan found (List.mem_singleton.1 (kind_mem_of_scan found)))

/-! ### References beside each other -/

/-- An opening behind the beginning of a text between marks, and not inside it, stands behind its
end. -/
theorem exists_between_marks {opener closer : Char} {between after : List Char}
    (openings : ¬ ['$', opener] <:+: payload) (notDollar : opener ≠ '$')
    (notClosing : closer ≠ '$') (distinct : closer ≠ opener) (apart : between ≠ [])
    (source : '$' :: opener :: (payload ++ closer :: rest) = between ++ '$' :: opener :: after) :
    ∃ middle, between = '$' :: opener :: (payload ++ closer :: middle) ∧
      rest = middle ++ '$' :: opener :: after := by
  obtain _ | ⟨c, _ | ⟨d, between⟩⟩ := between
  · exact absurd rfl apart
  · simp [notDollar] at source
  · obtain ⟨rfl, rfl, inside⟩ : c = '$' ∧ d = opener ∧ payload ++ closer :: rest =
        between ++ '$' :: opener :: after := by
      simpa [eq_comm] using source
    obtain ⟨middle, rfl, behind⟩ | ⟨middle, rfl, behind⟩ := List.append_eq_append_iff.1 inside
    · cases middle with
      | nil => simp [notClosing] at behind
      | cons _ middle =>
        obtain ⟨rfl, rfl⟩ := List.cons.inj behind
        exact ⟨middle, by simp, rfl⟩
    · -- The opening would be inside.
      obtain _ | ⟨_, _ | ⟨_, middle⟩⟩ := middle
      · simp [eq_comm, notClosing] at behind
      · simp [eq_comm, distinct] at behind
      · obtain ⟨rfl, rfl, _⟩ := by simpa using behind
        exact absurd ⟨between, middle, by simp⟩ openings

/-- A reference that begins behind the beginning of another one begins behind its end. -/
theorem exists_between {between after : List Char} (braceless : payload.all (!isBrace ·) = true)
    (apart : between ≠ [])
    (source : Kind.reference.enclose payload ++ rest =
      between ++ (Kind.reference.enclose inner ++ after)) :
    ∃ middle, between = Kind.reference.enclose payload ++ middle ∧
      rest = middle ++ (Kind.reference.enclose inner ++ after) := by
  have openings : ¬ ['$', '\x7b'] <:+: payload := by
    rintro ⟨front, behind, rfl⟩
    simp [isBrace] at braceless
  obtain ⟨middle, split, behind⟩ := exists_between_marks openings (by decide)
    (by decide : '\x7d' ≠ '$') (by decide) apart (by simpa [Kind.enclose] using source)
  exact ⟨middle, by simpa [Kind.enclose] using split, by simpa [Kind.enclose] using behind⟩

/-- A text in which a reference was replaced holds all its other references still. -/
theorem HoldsReference.splice (h : HoldsReference text name) (found : scan kinds text = some p)
    (reference : p.kind = .reference) (new : String) :
    p.payload = name ∨ HoldsReference (p.splice text new) name := by
  obtain ⟨nonempty, braceless, front, rest, source⟩ := h
  have other := holdsReference_of_scan found reference
  obtain ⟨before, after, here, start⟩ := toList_eq_of_scan found
  have spliced := toList_splice here start new
  rw [chars, reference, source] at here
  have same {a b : List Char} (apart : Kind.reference.enclose name.toList ++ a =
      Kind.reference.enclose p.payload.toList ++ b) : p.payload = name := by
    have read := congrArg Kind.reference.payload? apart
    rw [payload?_enclose nonempty braceless,
      payload?_enclose other.nonempty other.braceless] at read
    exact String.toList_injective (Option.some.inj read).symm
  -- Both references begin in the same text: one of them begins where the other one does, or behind.
  obtain ⟨between, rfl, apart⟩ | ⟨between, rfl, apart⟩ := List.append_eq_append_iff.1 here
  · by_cases together : between = []
    · subst together
      exact .inl (same apart)
    · obtain ⟨middle, rfl, _⟩ := exists_between braceless together apart
      refine .inr ⟨nonempty, braceless, front, middle ++ (new.toList ++ after), ?_⟩
      rw [spliced]
      simp only [List.append_assoc]
  · by_cases together : between = []
    · subst together
      exact .inl (same apart.symm)
    · obtain ⟨middle, _, rfl⟩ := exists_between other.braceless together apart
      refine .inr ⟨nonempty, braceless, before ++ (new.toList ++ middle), rest, ?_⟩
      rw [spliced]
      simp only [List.append_assoc]

/-! ### References of a template -/

/-- A reference in the characters of a template is one of its references. -/
theorem mem_references_of_chars {template : Template} (nonempty : payload ≠ [])
    (braceless : payload.all (!isBrace ·) = true)
    (source : template.flatMap Piece.chars = front ++ (Kind.reference.enclose payload ++ rest)) :
    String.ofList payload ∈ template.references := by
  induction template generalizing front with
  | nil => simp [Kind.enclose] at source
  | cons piece more ih =>
    rw [List.flatMap_cons] at source
    cases piece with
    | literal text plain =>
      rw [Template.references_literal]
      obtain ⟨middle, _, behind⟩ | ⟨middle, before, behind⟩ := List.append_eq_append_iff.1 source
      · exact ih behind
      -- The reference begins in the literal piece, which has no dollar sign, or behind it.
      · cases middle with
        | nil => exact @ih [] behind.symm
        | cons c middle =>
          obtain ⟨rfl, _⟩ : '$' = c ∧ _ := by simpa [Kind.enclose] using behind
          exact absurd (before ▸ by simp : '$' ∈ Piece.chars (.literal text plain)) plain
    | reference name filled unbraced =>
      rw [Template.references_reference]
      by_cases apart : front = []
      · subst apart
        have read := congrArg Kind.reference.payload? source
        rw [Piece.chars, List.nil_append, payload?_enclose filled unbraced,
          payload?_enclose nonempty braceless] at read
        exact List.mem_cons.2 (.inl (by rw [← Option.some.inj read, String.ofList_toList]))
      · obtain ⟨middle, _, behind⟩ := exists_between unbraced apart source
        exact List.mem_cons_of_mem _ (ih behind)

/-- The text of a template holds just the references of the template. -/
theorem holdsReference_text_iff {template : Template} :
    HoldsReference template.text name ↔ name ∈ template.references := by
  constructor
  · rintro ⟨nonempty, braceless, front, rest, source⟩
    rw [Template.text, String.toList_ofList] at source
    simpa using mem_references_of_chars nonempty braceless source
  · intro mem
    induction template with
    | nil => cases mem
    | cons piece more ih =>
      have later : HoldsReference (Template.text more) name →
          HoldsReference (Template.text (piece :: more)) name := fun held =>
        held.of_isInfix ⟨piece.chars, [], by simp [Template.text]⟩
      cases piece with
      | literal text plain => exact later (ih mem)
      | reference payload nonempty braceless =>
        obtain rfl | mem := List.mem_cons.1 mem
        · exact ⟨nonempty, braceless, [], more.flatMap Piece.chars,
            by simp [Template.text, Piece.chars]⟩
        · exact later (ih mem)

end ConfigTemplate.Placeholder
