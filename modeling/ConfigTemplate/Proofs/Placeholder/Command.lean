import ConfigTemplate.Proofs.Placeholder.Reference
import Mathlib.Data.List.Induction

/-!
# Commands in a text

A command is found only where no reference is left in the text. Its payload goes as far as the
parenthesis that closes it, so the parentheses of the payload are balanced, and it holds no opening
of another command. Of commands inside each other the innermost one is found, so some command is
found wherever one is closed, as long as it has no empty one in it.
-/

namespace ConfigTemplate.Placeholder

variable {others : List Kind} {depth : Nat} {cs payload front rest : List Char}
variable {p : Placeholder} {text : String}

/-- Whether a text may be run as a command: it is not empty, it holds no reference and no opening of
a command, and its parentheses are balanced, so that no more of them are closed in a first part of
it than were opened there. -/
structure IsExpanded (command : String) : Prop where
  nonempty : command ≠ ""
  references : ∀ payload, ¬ HoldsReference command payload
  openings : ¬ ['$', '('] <:+: command.toList
  balanced : command.toList.count ')' = command.toList.count '('
  opened : ∀ front, front <+: command.toList → front.count ')' ≤ front.count '('

/-! ### Parentheses -/

/-- Whether some characters close the parentheses that they open and a number of earlier ones, and
no first part of them closes more. -/
structure Closes (depth : Nat) (cs : List Char) : Prop where
  balanced : cs.count ')' = cs.count '(' + depth
  opened : ∀ front, front <+: cs → front.count ')' ≤ front.count '(' + depth

namespace Closes

theorem nil : Closes 0 [] where
  balanced := rfl
  opened front first := by simp [List.prefix_nil.1 first]

theorem opening (h : Closes (depth + 1) cs) : Closes depth ('(' :: cs) where
  balanced := by
    have balanced := h.balanced
    simp
    omega
  opened front first := by
    obtain rfl | ⟨rest, rfl, inside⟩ := List.prefix_cons_iff.1 first
    · simp
    · have opened := h.opened rest inside
      simp
      omega

theorem closing (h : Closes depth cs) : Closes (depth + 1) (')' :: cs) where
  balanced := by
    have balanced := h.balanced
    simp
    omega
  opened front first := by
    obtain rfl | ⟨rest, rfl, inside⟩ := List.prefix_cons_iff.1 first
    · simp
    · have opened := h.opened rest inside
      simp
      omega

theorem other {c : Char} (notOpening : c ≠ '(') (notClosing : c ≠ ')') (h : Closes depth cs) :
    Closes depth (c :: cs) where
  balanced := by
    have balanced := h.balanced
    simp [notOpening, notClosing, balanced]
  opened front first := by
    obtain rfl | ⟨rest, rfl, inside⟩ := List.prefix_cons_iff.1 first
    · simp
    · have opened := h.opened rest inside
      simp [notOpening, notClosing, opened]

theorem of_opening (h : Closes depth ('(' :: cs)) : Closes (depth + 1) cs where
  balanced := by
    have balanced := h.balanced
    simp at balanced
    omega
  opened front first := by
    have opened := h.opened ('(' :: front) (List.cons_prefix_cons.2 ⟨rfl, first⟩)
    simp at opened
    omega

theorem of_closing (h : Closes depth (')' :: cs)) : ∃ less, depth = less + 1 ∧ Closes less cs := by
  have opened := h.opened [')'] (List.cons_prefix_cons.2 ⟨rfl, List.nil_prefix⟩)
  obtain _ | depth := depth
  · simp at opened
  · refine ⟨depth, rfl, ?_, fun front first => ?_⟩
    · have balanced := h.balanced
      simp at balanced
      omega
    · have opened := h.opened (')' :: front) (List.cons_prefix_cons.2 ⟨rfl, first⟩)
      simp at opened
      omega

theorem of_other {c : Char} (notOpening : c ≠ '(') (notClosing : c ≠ ')')
    (h : Closes depth (c :: cs)) : Closes depth cs where
  balanced := by simpa [notOpening, notClosing] using h.balanced
  opened front first := by
    simpa [notOpening, notClosing] using
      h.opened (c :: front) (List.cons_prefix_cons.2 ⟨rfl, first⟩)

end Closes

/-- What stands in front of the closing parenthesis closes all others. -/
theorem closes_of_closed? (h : closed? depth cs = some payload) : Closes depth payload := by
  fun_induction closed? depth cs generalizing payload with
  | case1 => cases h
  | case2 depth rest ih =>
    obtain ⟨inner, found, rfl⟩ := Option.map_eq_some_iff.1 h
    exact (ih found).opening
  | case3 rest =>
    cases h
    exact .nil
  | case4 rest depth _ ih =>
    obtain ⟨inner, found, rfl⟩ := Option.map_eq_some_iff.1 h
    exact (ih found).closing
  | case5 depth c rest notOpening notClosing ih =>
    obtain ⟨inner, found, rfl⟩ := Option.map_eq_some_iff.1 h
    exact (ih found).other notOpening notClosing

/-- The parenthesis behind characters that close all others is found. -/
theorem closed?_append (h : Closes depth cs) (rest : List Char) :
    closed? depth (cs ++ ')' :: rest) = some cs := by
  induction cs generalizing depth with
  | nil =>
    obtain rfl : depth = 0 := by simpa using h.balanced.symm
    rfl
  | cons c cs ih =>
    rw [List.cons_append]
    unfold closed?
    by_cases opening : c = '('
    · subst opening
      rw [if_pos rfl, ih h.of_opening, Option.map_some]
    rw [if_neg opening]
    by_cases closing : c = ')'
    · subst closing
      obtain ⟨less, rfl, inner⟩ := h.of_closing
      rw [if_pos rfl]
      exact congrArg (Option.map (')' :: ·)) (ih inner)
    · rw [if_neg closing, ih (h.of_other opening closing), Option.map_some]

/-- Where the closing parenthesis is missing, no more parentheses are closed than were open. -/
theorem count_le_of_closed?_eq_none (h : closed? depth cs = none) :
    cs.count ')' ≤ cs.count '(' + depth := by
  fun_induction closed? depth cs with
  | case1 => simp
  | case2 depth rest ih =>
    have le := ih (Option.map_eq_none_iff.1 h)
    simp
    omega
  | case3 => cases h
  | case4 rest depth _ ih =>
    have le := ih (Option.map_eq_none_iff.1 h)
    simp
    omega
  | case5 depth c rest notOpening notClosing ih =>
    simpa [notOpening, notClosing] using ih (Option.map_eq_none_iff.1 h)

/-- A parenthesis that is opened in characters that close all of theirs is closed in them. -/
theorem Closes.exists_inner (h : Closes depth (front ++ '(' :: rest)) :
    ∃ inner after, rest = inner ++ ')' :: after ∧ Closes 0 inner := by
  cases found : closed? 0 rest with
  | none =>
    have open_ := count_le_of_closed?_eq_none found
    have before := h.opened front (List.prefix_append _ _)
    have balanced := h.balanced
    simp [List.count_append] at balanced
    omega
  | some inner =>
    obtain ⟨after, rfl⟩ := closed?_eq_some found
    exact ⟨inner, after, rfl, closes_of_closed? found⟩

/-- Whether as many parentheses are closed as are opened. -/
def Balanced (cs : List Char) : Prop := cs.count '(' = cs.count ')'

/-- Whether a payload goes as far as the first place at which the parentheses that are open since
the one in front of it are balanced again. -/
structure ReachesBalance (payload : List Char) : Prop where
  balanced : Balanced ('(' :: payload ++ [')'])
  first : ∀ front, front <+: payload → ¬ Balanced ('(' :: front)

theorem reachesBalance_iff : ReachesBalance payload ↔ Closes 0 payload := by
  constructor
  · intro h
    refine ⟨by simpa [Balanced, eq_comm] using h.balanced, fun front first => ?_⟩
    -- The first excess of closing parentheses would restore the balance.
    induction front using List.reverseRecOn with
    | nil => simp
    | append_singleton front c ih =>
      have le := ih ((List.prefix_append _ _).trans first)
      have open_ := h.first _ first
      by_cases closing : c = ')'
      · subst closing
        simp [Balanced] at open_ ⊢ le
        omega
      · have none : [c].count ')' = 0 := by simp [closing]
        simp only [List.count_append, none]
        omega
  · intro h
    refine ⟨by simpa [Balanced, eq_comm] using h.balanced, fun front first balanced => ?_⟩
    have opened := h.opened front first
    simp [Balanced] at balanced
    omega

/-! ### Commands -/

/-- The opening of a command is noticed wherever it stands. -/
theorem hasCommandOpening_of_isInfix (h : ['$', '('] <:+: cs) : hasCommandOpening cs = true := by
  obtain ⟨front, rest, rfl⟩ := h
  induction front with
  | nil => rfl
  | cons c front ih =>
    rw [List.append_assoc, List.cons_append, ← List.append_assoc]
    unfold hasCommandOpening
    split
    · rfl
    next same =>
      cases same
      exact ih
    next same => cases same

/-- An opening of a command that is noticed stands there. -/
theorem isInfix_of_hasCommandOpening (h : hasCommandOpening cs = true) : ['$', '('] <:+: cs := by
  fun_induction hasCommandOpening cs with
  | case1 rest => exact ⟨[], rest, rfl⟩
  | case2 c rest _ ih => exact (ih h).trans (List.suffix_cons c rest).isInfix
  | case3 => cases h

theorem exists_of_command_payload? (h : Kind.command.payload? cs = some payload) :
    ∃ rest, cs = '$' :: '(' :: rest ∧ commandPayload? rest = some payload := by
  unfold Kind.payload? at h
  split at h
  · contradiction
  · exact ⟨_, rfl, h⟩
  · contradiction
  · contradiction

/-- The payload of a command is not empty, its parentheses are balanced, and it holds no opening of
another command. -/
theorem closes_of_commandPayload? (h : commandPayload? cs = some payload) :
    payload ≠ [] ∧ Closes 0 payload ∧ ¬ ['$', '('] <:+: payload := by
  unfold commandPayload? at h
  split at h
  next c inner closed =>
    split at h
    · cases h
    next none =>
      cases h
      exact ⟨by simp, closes_of_closed? closed, fun inside =>
        none (hasCommandOpening_of_isInfix inside)⟩
  · cases h

/-- A payload that closes its parentheses and holds no opening of a command is one. -/
theorem commandPayload?_append (nonempty : payload ≠ []) (closes : Closes 0 payload)
    (openings : ¬ ['$', '('] <:+: payload) (rest : List Char) :
    commandPayload? (payload ++ ')' :: rest) = some payload := by
  have none : hasCommandOpening payload ≠ true := mt isInfix_of_hasCommandOpening openings
  unfold commandPayload?
  rw [closed?_append closes]
  cases payload with
  | nil => exact absurd rfl nonempty
  | cons c payload => exact if_neg none

/-- Whether a text holds a command with a payload: the payload is not empty and stands between an
opening and the parenthesis that closes it. It may hold other openings. -/
structure HoldsCommand (text payload : String) : Prop where
  nonempty : payload.toList ≠ []
  closed : ReachesBalance payload.toList
  written : ∃ front rest, text.toList = front ++ (Kind.command.enclose payload.toList ++ rest)

/-- In characters that hold a closed command without an empty one in it a command is found: one
that is inside all others. -/
theorem firstFrom?_command_ne_none {payload front rest : List Char} (nonempty : payload ≠ [])
    (closes : Closes 0 payload) (filled : ¬ ['$', '(', ')'] <:+: payload)
    (source : cs = front ++ (Kind.command.enclose payload ++ rest)) :
    firstFrom? .command 0 cs ≠ none := by
  by_cases openings : ['$', '('] <:+: payload
  · obtain ⟨before, behind, rfl⟩ := openings
    have opened : Closes 0 ((before ++ ['$']) ++ '(' :: behind) := by simpa using closes
    obtain ⟨inner, after, rfl, closed⟩ := opened.exists_inner
    have inside : inner ≠ [] := by
      rintro rfl
      exact filled ⟨before, after, by simp⟩
    have filledInside : ¬ ['$', '(', ')'] <:+: inner := fun empty =>
      filled (empty.trans ⟨before ++ ['$', '('], ')' :: after, by simp⟩)
    have nested : cs = (front ++ '$' :: '(' :: before) ++
        (Kind.command.enclose inner ++ (after ++ ')' :: rest)) := by
      simpa [Kind.enclose] using source
    exact firstFrom?_command_ne_none inside closed filledInside nested
  · have begins : Kind.command.payload? ('$' :: '(' :: (payload ++ ')' :: rest)) ≠ none := by
      simp [Kind.payload?, commandPayload?_append nonempty closes openings]
    rw [source]
    simpa [Kind.enclose] using firstFrom?_ne_none begins front 0
termination_by payload.length
decreasing_by
  subst_vars
  simp
  omega

/-- A command is found in a text exactly if the text holds a closed one that has no empty one in
it. Openings that are not closed, empty commands beside it and other commands in it do not count. -/
theorem exists_scan_command_iff (text : String) :
    (∃ p, scan [.command] text = some p) ↔
      ∃ payload, HoldsCommand text payload ∧ ¬ ['$', '(', ')'] <:+: payload.toList := by
  constructor
  · rintro ⟨p, scanned⟩
    have command : p.kind = .command := List.mem_singleton.1 (kind_mem_of_scan scanned)
    obtain ⟨front, rest, source, found, _⟩ := payload?_of_scan scanned
    rw [command] at found
    obtain ⟨_, rfl, inside⟩ := exists_of_command_payload? found
    obtain ⟨nonempty, closes, openings⟩ := closes_of_commandPayload? inside
    obtain ⟨after, rfl⟩ := commandPayload?_eq_some inside
    refine ⟨p.payload, ⟨nonempty, reachesBalance_iff.2 closes, front, after, ?_⟩, fun empty => ?_⟩
    · rw [source]
      simp [Kind.enclose]
    · exact openings (List.IsInfix.trans ⟨[], [')'], rfl⟩ empty)
  · rintro ⟨payload, ⟨nonempty, closed, front, rest, source⟩, filled⟩
    have found := firstFrom?_command_ne_none nonempty (reachesBalance_iff.1 closed) filled source
    obtain ⟨p, first⟩ := Option.ne_none_iff_exists'.1 found
    exact ⟨p, by rw [scan, List.findSome?_cons, first]⟩

/-- An empty command inside hides the command around it. -/
theorem scan_command_around_empty :
    HoldsCommand "$(a$())" "a$()" ∧ scan [.command] "$(a$())" = none := by
  refine ⟨⟨by decide, ?_, [], [], by decide⟩, by decide⟩
  have closed : closed? 0 "a$())".toList = some "a$()".toList := by decide
  exact reachesBalance_iff.2 (closes_of_closed? closed)

end ConfigTemplate.Placeholder
