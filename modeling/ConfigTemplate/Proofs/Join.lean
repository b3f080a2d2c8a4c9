import ConfigTemplate.Join
import Mathlib.Data.List.Basic

/-!
# Reading join expressions back

An expression written from a path without the mark and a text between parentheses is read as that
path and what the text means. The mark begins with the only point it has, so that an occurrence of
it that begins within the path would have to lie within the path as a whole. A separator between
quotes means itself, and so does one without them if there is no quote at its ends; what is inside
it does not matter.
-/

namespace ConfigTemplate.Join

/-- The expression that joins the elements of an array with a separator between quotes. -/
def written (path separator : String) (quote : Char) : String :=
  path ++ ".join(" ++ quote.toString ++ separator ++ quote.toString ++ ")"

/-! ### The mark -/

/-- No occurrence of the mark reaches over the end of a text before another occurrence. -/
theorem mark_prefix_append {front : List Char} (nonempty : front ≠ []) (rest : List Char)
    (h : mark <+: front ++ mark ++ rest) : mark <+: front := by
  rw [List.append_assoc] at h
  obtain whole | part := List.prefix_or_prefix_of_prefix h (List.prefix_append front (mark ++ rest))
  · exact whole
  · obtain ⟨beyond, split⟩ := part
    obtain ⟨after, same⟩ := h
    have reached : beyond ++ after = mark ++ rest := by
      rw [← List.append_cancel_left_eq front, ← List.append_assoc, split, same]
    cases beyond with
    | nil =>
      rw [List.append_nil] at split
      exact split ▸ List.prefix_rfl
    | cons c beyond =>
      -- the part that reaches over would begin with the point of the second occurrence
      have point : c = '.' := (List.cons.inj reached).1
      obtain ⟨first, front, rfl⟩ := List.exists_cons_of_ne_nil nonempty
      have inside : '.' ∈ mark.tail := by
        rw [← split, point]
        simp
      exact absurd inside (by decide)

/-- The first mark after a text without one ends that text. -/
theorem splitAtMark?_append {before front : List Char} (unmarked : ¬ mark <:+: front)
    (some_before : before ≠ [] ∨ front ≠ []) (rest : List Char) :
    splitAtMark? before (front ++ mark ++ rest) = some (before.reverse ++ front, rest) := by
  induction front generalizing before with
  | nil =>
    have nonempty : before ≠ [] := some_before.resolve_right fun h => h rfl
    have here : splitAtMark? before (mark ++ rest) = some (before.reverse, rest) := by
      simp [mark, splitAtMark?, nonempty]
    rw [List.nil_append, here, List.append_nil]
  | cons c front ih =>
    have notHere : ¬ mark <+: c :: front ++ mark ++ rest := fun h =>
      unmarked (mark_prefix_append (by simp) rest h).isInfix
    have later : ¬ mark <:+: front := fun h => unmarked (h.trans (List.suffix_cons c front).isInfix)
    rw [← List.isPrefixOf_iff_prefix, Bool.not_eq_true] at notHere
    have step : splitAtMark? before (c :: front ++ mark ++ rest) =
        splitAtMark? (c :: before) (front ++ mark ++ rest) := by
      simp only [List.cons_append] at notHere ⊢
      rw [splitAtMark?, notHere, Bool.and_false, if_neg Bool.false_ne_true]
    rw [step, ih later (.inl (by simp)), List.reverse_cons, List.append_assoc,
      List.singleton_append]

/-! ### What a separator means -/

theorem isQuote_iff {c : Char} : isQuote c = true ↔ c = '\'' ∨ c = '"' := by
  simp [isQuote]

theorem isBreak_eq_false_iff {c : Char} : isBreak c = false ↔ c ≠ '\n' ∧ c ≠ '\r' ∧ c ≠ '\t' := by
  simp [isBreak, and_assoc]

theorem dropQuote_sublist (cs : List Char) : (dropQuote cs).Sublist cs := by
  cases cs with
  | nil => exact .slnil
  | cons c rest =>
    rw [dropQuote]
    split
    · exact List.sublist_cons_self c rest
    · exact .refl _

theorem dropQuote_eq_self_iff {cs : List Char} :
    dropQuote cs = cs ↔ ∀ quote, isQuote quote = true → cs.head? ≠ some quote := by
  cases cs with
  | nil => simp [dropQuote]
  | cons c rest =>
    rw [dropQuote, List.head?_cons]
    split
    next quoted =>
      refine ⟨fun same => absurd same.symm (List.cons_ne_self c rest), fun unquoted => ?_⟩
      exact absurd rfl (unquoted c quoted)
    next plain =>
      refine ⟨fun _ quote quoted same => plain ?_, fun _ => rfl⟩
      rwa [Option.some.inj same]

theorem filter_unbroken {cs : List Char} (noBreak : ∀ c ∈ cs, isBreak c = false) :
    cs.filter (!isBreak ·) = cs := by
  rw [List.filter_eq_self]
  intro c mem
  rw [noBreak c mem]
  rfl

/-- A separator between quotes is what stands between them, if it has no breaks. -/
theorem cleaned_quoted {quote : Char} (isQuote : isQuote quote = true) {separator : List Char}
    (noBreak : ∀ c ∈ separator, isBreak c = false) :
    cleaned (quote :: separator ++ [quote]) = separator := by
  have opened : dropQuote (quote :: (separator ++ [quote])) = separator ++ [quote] := if_pos isQuote
  have closed : dropQuote (quote :: separator.reverse) = separator.reverse := if_pos isQuote
  rw [cleaned, List.cons_append, opened, List.reverse_append, List.reverse_singleton,
    List.singleton_append, closed, List.reverse_reverse, filter_unbroken noBreak]

/-- A separator without breaks means itself if it has no quote at either end, and only then. -/
theorem cleaned_eq_self_iff {separator : List Char} (noBreak : ∀ c ∈ separator, isBreak c = false) :
    cleaned separator = separator ↔
      ∀ quote, isQuote quote = true →
        separator.head? ≠ some quote ∧ separator.getLast? ≠ some quote := by
  have ends : (∀ quote, isQuote quote = true →
      separator.head? ≠ some quote ∧ separator.getLast? ≠ some quote) ↔
        dropQuote separator = separator ∧ dropQuote separator.reverse = separator.reverse := by
    simp only [dropQuote_eq_self_iff, List.head?_reverse, forall_and]
  rw [ends]
  constructor
  · intro same
    -- nothing is added on the way, so that nothing was dropped at either end
    have inner :
        (cleaned separator).Sublist (dropQuote (dropQuote separator).reverse).reverse :=
      List.filter_sublist
    rw [same] at inner
    have outer :
        (dropQuote (dropQuote separator).reverse).reverse.Sublist (dropQuote separator) := by
      simpa using (dropQuote_sublist (dropQuote separator).reverse).reverse
    have front : dropQuote separator = separator :=
      (dropQuote_sublist separator).antisymm (inner.trans outer)
    rw [front] at inner
    exact ⟨front, (dropQuote_sublist _).antisymm (by simpa using inner.reverse)⟩
  · rintro ⟨front, back⟩
    rw [cleaned, front, back, List.reverse_reverse, filter_unbroken noBreak]

/-! ### Expressions -/

/-- An expression is read as its path and what the text between its parentheses means. -/
theorem ofExpression?_joined {path : String} (nonempty : path ≠ "")
    (unmarked : ¬ mark <:+: path.toList) (text : String) :
    ofExpression? (path ++ ".join(" ++ text ++ ")") =
      some ⟨path, String.ofList (cleaned text.toList)⟩ := by
  have chars : (path ++ ".join(" ++ text ++ ")").toList =
      path.toList ++ mark ++ text.toList ++ [')'] := by
    simp [mark]
  have body : beforeClosing? (path ++ ".join(" ++ text ++ ")").toList =
      some (path.toList ++ mark ++ text.toList) := by
    rw [chars, beforeClosing?, List.reverse_append, List.reverse_singleton, List.singleton_append]
    simp only [List.reverse_reverse]
  have parts : splitAtMark? [] (path.toList ++ mark ++ text.toList) =
      some (path.toList, text.toList) :=
    splitAtMark?_append unmarked (.inr (by simpa using nonempty)) _
  rw [ofExpression?, body, Option.bind_eq_bind, Option.bind_some, parts, Option.bind_eq_bind,
    Option.bind_some]
  dsimp only
  rw [String.ofList_toList]
  rfl

/-- A written expression is read as its path and its separator. -/
theorem ofExpression?_written {path separator : String} {quote : Char} (nonempty : path ≠ "")
    (unmarked : ¬ mark <:+: path.toList) (isQuote : isQuote quote = true)
    (noBreak : ∀ c ∈ separator.toList, isBreak c = false) :
    ofExpression? (written path separator quote) = some ⟨path, separator⟩ := by
  have text : written path separator quote =
      path ++ ".join(" ++ (quote.toString ++ separator ++ quote.toString) ++ ")" := by
    simp only [written, String.append_assoc]
  have between : (quote.toString ++ separator ++ quote.toString).toList =
      quote :: separator.toList ++ [quote] := by
    simp
  rw [text, ofExpression?_joined nonempty unmarked, between, cleaned_quoted isQuote noBreak,
    String.ofList_toList]

/-- Every separator without breaks can be written between quotes, and without quotes exactly those
that neither begin nor end with one. -/
theorem ofExpression?_any_separator {path separator : String} (nonempty : path ≠ "")
    (unmarked : ¬ ".join(".toList <:+: path.toList)
    (unbroken : ∀ c ∈ separator.toList, c ≠ '\n' ∧ c ≠ '\r' ∧ c ≠ '\t') :
    (∀ quote, quote = '\'' ∨ quote = '"' →
      ofExpression? (written path separator quote) = some ⟨path, separator⟩) ∧
    (ofExpression? (path ++ ".join(" ++ separator ++ ")") = some ⟨path, separator⟩ ↔
      ∀ quote, quote = '\'' ∨ quote = '"' →
        separator.toList.head? ≠ some quote ∧ separator.toList.getLast? ≠ some quote) := by
  have noBreak : ∀ c ∈ separator.toList, isBreak c = false := fun c mem =>
    isBreak_eq_false_iff.2 (unbroken c mem)
  simp only [← isQuote_iff]
  constructor
  · intro quote quoted
    exact ofExpression?_written nonempty unmarked quoted noBreak
  · rw [ofExpression?_joined nonempty unmarked, ← cleaned_eq_self_iff noBreak, Option.some_inj,
      Join.mk.injEq, ← String.toList_inj, ← String.toList_inj, String.toList_ofList]
    exact and_iff_right rfl

/-- A separator with quotes, parentheses and the mark in it. -/
theorem ofExpression?_any_separator_nested :
    "a.b[0]" ≠ "" ∧ ¬ ".join(".toList <:+: "a.b[0]".toList ∧
      (∀ c ∈ ")'.join(\"(".toList, c ≠ '\n' ∧ c ≠ '\r' ∧ c ≠ '\t') ∧
      ofExpression? "a.b[0].join(')'.join(\"(')" = some ⟨"a.b[0]", ")'.join(\"("⟩ ∧
      ofExpression? "a.b[0].join()'.join(\"()" = some ⟨"a.b[0]", ")'.join(\"("⟩ := by
  have nonempty : "a.b[0]" ≠ "" := by decide
  have unmarked : ¬ ".join(".toList <:+: "a.b[0]".toList := by decide
  have unbroken : ∀ c ∈ ")'.join(\"(".toList, c ≠ '\n' ∧ c ≠ '\r' ∧ c ≠ '\t' := by simp
  have read := ofExpression?_any_separator nonempty unmarked unbroken
  refine ⟨nonempty, unmarked, unbroken, read.1 '\'' (.inl rfl), read.2.2 ?_⟩
  rintro quote (rfl | rfl) <;> decide

end ConfigTemplate.Join
