import ConfigTemplate.Path.Basic
import Mathlib.Data.List.TakeWhile

/-!
# The text of a path

Splitting the text of a path gives its steps back when its names are addressable. A point and an
opening bracket end whatever step stands before them, so the text can be split at each of them and
the parts read one by one: that is what `splitChars_append` says, and the steps of a path follow
from it by induction on the path.
-/

namespace ConfigTemplate

namespace Text

/-- The ten digits in which numbers are printed count from zero to nine. -/
theorem digitValue?_of_isDigit {c : Char} (h : c.isDigit = true) :
    digitValue? c = some (c.toNat - 48) := by
  simp only [Char.isDigit, Bool.and_eq_true, decide_eq_true_eq, ge_iff_le,
    UInt32.le_iff_toNat_le] at h
  have within : 48 ≤ c.toNat ∧ c.toNat ≤ 57 := h
  simp [digitValue?, digitZeros, within]

theorem isDigit_of_mem_toDigits {c : Char} {n : Nat} (h : c ∈ Nat.toDigits 10 n) :
    isDigit c = true := by
  simp [isDigit, digitValue?_of_isDigit (Nat.isDigit_of_mem_toDigits (by omega) (by omega) h)]

theorem digitValue?_digitChar {d : Nat} (h : d < 10) : digitValue? d.digitChar = some d := by
  have all : ∀ d < 10, digitValue? (Nat.digitChar d) = some d := by decide
  exact all d h

theorem digitsValue_concat (digits : List Char) (c : Char) :
    digitsValue (digits ++ [c]) = 10 * digitsValue digits + (digitValue? c).getD 0 := by
  simp [digitsValue]

/-- Reading the printed digits of a number gives the number. -/
theorem digitsValue_toDigits (n : Nat) : digitsValue (Nat.toDigits 10 n) = n := by
  induction n using Nat.strongRecOn with
  | ind n ih =>
    by_cases small : n < 10
    · rw [Nat.toDigits_of_lt_base small]
      simp [digitsValue, digitValue?_digitChar small]
    · rw [Nat.toDigits_of_base_le (by omega) (by omega), digitsValue_concat,
        ih (n / 10) (by omega), digitValue?_digitChar (Nat.mod_lt n (by omega))]
      simp only [Option.getD_some]
      omega

end Text

/-- A step that the text of a path can hold. -/
def Step.Addressable : Step → Prop
  | name s => Path.isAddressable s = true
  | index _ => True

namespace Path

private theorem takeWhile_append_stop {test : Char → Bool} {c : Char} (h : test c = false)
    (front rest : List Char) :
    (front ++ c :: rest).takeWhile test = front.takeWhile test := by
  induction front with
  | nil => simp [h]
  | cons x front ih =>
    cases hx : test x <;> simp [hx, ih]

private theorem dropWhile_append_stop {test : Char → Bool} {c : Char} (h : test c = false)
    (front rest : List Char) :
    (front ++ c :: rest).dropWhile test = front.dropWhile test ++ c :: rest := by
  induction front with
  | nil => simp [h]
  | cons x front ih =>
    cases hx : test x <;> simp [hx, ih]

/-- What ends the step before it: a point or an opening bracket. -/
def IsBoundary (c : Char) : Prop := c = '.' ∨ c = '['

theorem IsBoundary.isMark {c : Char} (h : IsBoundary c) : isMark c = true := by
  rcases h with rfl | rfl <;> decide

theorem IsBoundary.not_isDigit {c : Char} (h : IsBoundary c) : Text.isDigit c = false := by
  rcases h with rfl | rfl <;> decide

theorem indexAfterBracket?_append {c : Char} (h : IsBoundary c) (front rest : List Char) :
    indexAfterBracket? (front ++ c :: rest) =
      (indexAfterBracket? front).map fun found => (found.1, found.2 ++ c :: rest) := by
  have notClosing : c ≠ ']' := by rcases h with rfl | rfl <;> decide
  unfold indexAfterBracket?
  rw [takeWhile_append_stop h.not_isDigit, dropWhile_append_stop h.not_isDigit]
  cases front.takeWhile Text.isDigit with
  | nil => rfl
  | cons d digits =>
    cases front.dropWhile Text.isDigit with
    | nil => simp [notClosing]
    | cons x after => by_cases hx : x = ']' <;> simp [hx]

/-- A text may be split at a point or an opening bracket, whatever stands on either side. -/
theorem splitChars_append {c : Char} (h : IsBoundary c) (front rest : List Char) :
    splitChars (front ++ c :: rest) = splitChars front ++ splitChars (c :: rest) := by
  fun_induction splitChars front with
  | case1 => simp
  | case2 front n after found ih =>
    rw [List.cons_append, splitChars, if_pos rfl]
    split
    next m after' found' =>
      rw [indexAfterBracket?_append h, found] at found'
      cases found'
      rw [ih, List.cons_append]
    next found' => simp [indexAfterBracket?_append h, found] at found'
  | case3 front notFound ih =>
    rw [List.cons_append, splitChars, if_pos rfl]
    split
    next found' => simp [indexAfterBracket?_append h, notFound] at found'
    next => exact ih
  | case4 x front notBracket mark ih =>
    rw [List.cons_append, splitChars, if_neg notBracket, if_pos mark, ih]
  | case5 x front notBracket notMark ih =>
    have stop : (!isMark c) = false := by simp [h.isMark]
    rw [List.cons_append, splitChars, if_neg notBracket, if_neg notMark,
      takeWhile_append_stop stop, dropWhile_append_stop stop, ih, List.cons_append]

theorem splitChars_point (rest : List Char) : splitChars ('.' :: rest) = splitChars rest := by
  rw [splitChars, if_neg (by decide), if_pos (by decide)]

/-- The characters of an addressable name are one step. -/
theorem splitChars_name {name : String} (h : isAddressable name = true) :
    splitChars name.toList = [.name name] := by
  simp only [isAddressable, Bool.and_eq_true, Bool.not_eq_true', List.isEmpty_eq_false_iff,
    List.any_eq_false, Bool.not_eq_true] at h
  obtain ⟨nonempty, unmarked⟩ := h
  cases hc : name.toList with
  | nil => exact absurd hc nonempty
  | cons c rest =>
    have markFree : ∀ x ∈ c :: rest, isMark x = false := by rwa [hc] at unmarked
    have notBracket : c ≠ '[' := by
      rintro rfl
      exact absurd (markFree '[' (by simp)) (by decide)
    have rest_unmarked : ∀ x ∈ rest, (!isMark x) = true := by
      intro x hx
      simp [markFree x (by simp [hx])]
    rw [splitChars, if_neg notBracket, if_neg (by simp [markFree c (by simp)]),
      List.takeWhile_eq_self_iff.2 rest_unmarked, List.dropWhile_eq_nil_iff.2 rest_unmarked,
      splitChars, ← hc, String.ofList_toList]

/-- A number between brackets is one step. -/
theorem splitChars_index (n : Nat) :
    splitChars ('[' :: Nat.toDigits 10 n ++ [']']) = [.index n] := by
  have found : indexAfterBracket? (Nat.toDigits 10 n ++ [']']) = some (n, []) := by
    have digits : ∀ c ∈ Nat.toDigits 10 n, Text.isDigit c = true :=
      fun c hc => Text.isDigit_of_mem_toDigits hc
    have stop : Text.isDigit ']' = false := by decide
    unfold indexAfterBracket?
    rw [takeWhile_append_stop stop, dropWhile_append_stop stop,
      List.takeWhile_eq_self_iff.2 digits, List.dropWhile_eq_nil_iff.2 digits]
    cases hd : Nat.toDigits 10 n with
    | nil => exact absurd hd Nat.toDigits_ne_nil
    | cons d rest =>
      have value := Text.digitsValue_toDigits n
      rw [hd] at value
      simp [value]
  rw [List.cons_append, splitChars, if_pos rfl]
  split
  next m after found' =>
    rw [found] at found'
    cases found'
    rw [splitChars]
  next notFound => simp [found] at notFound

/-- Going one step further adds that step. -/
theorem split_append (path : String) {step : Step} (h : step.Addressable) :
    split (append path step) = split path ++ [step] := by
  cases step with
  | index n =>
    have chars : (appendIndex path n).toList =
        path.toList ++ '[' :: (Nat.toDigits 10 n ++ [']']) := by
      simp [appendIndex]
    rw [append, split, chars, splitChars_append (.inr rfl)]
    exact congrArg _ (splitChars_index n)
  | name s =>
    by_cases root : path = ""
    · subst root
      rw [append, appendName, if_pos rfl, split, splitChars_name h]
      simp [split, splitChars]
    · have chars : (path ++ "." ++ s).toList = path.toList ++ '.' :: s.toList := by simp
      rw [append, appendName, if_neg root, split, chars, splitChars_append (.inl rfl),
        splitChars_point, splitChars_name h]
      rfl

theorem split_foldl_append (path : String) (steps : Path) (h : ∀ step ∈ steps, step.Addressable) :
    split (steps.foldl append path) = split path ++ steps := by
  induction steps generalizing path with
  | nil => simp
  | cons step steps ih =>
    rw [List.foldl_cons, ih _ fun s hs => h s (by simp [hs]), split_append path (h step (by simp)),
      List.append_assoc, List.singleton_append]

/-- The text of a path spells its steps. -/
theorem split_render (steps : Path) (h : ∀ step ∈ steps, step.Addressable) :
    split (render steps) = steps := by
  rw [render, split_foldl_append "" steps h]
  simp [split, splitChars]

/-- Different paths have different texts. -/
theorem render_injective {steps others : Path} (h : ∀ step ∈ steps, step.Addressable)
    (h' : ∀ step ∈ others, step.Addressable) (same : render steps = render others) :
    steps = others := by
  rw [← split_render steps h, same, split_render others h']

/-- A path below the root has a text. -/
theorem render_ne_empty {steps : Path} (below : steps ≠ [])
    (addressable : ∀ step ∈ steps, step.Addressable) : render steps ≠ "" := by
  intro empty
  have root := split_render steps addressable
  rw [empty] at root
  exact below (by simpa [split, splitChars] using root.symm)

/-- What is put in front of a text stays in front of it as the path goes on. -/
theorem foldl_append_append (front : String) {text : String} (nonempty : text ≠ "")
    (steps : Path) : steps.foldl append (front ++ text) = front ++ steps.foldl append text := by
  induction steps generalizing text with
  | nil => rfl
  | cons step steps ih =>
    have longer : append (front ++ text) step = front ++ append text step := by
      cases step <;> simp [append, appendIndex, appendName, nonempty, String.append_assoc]
    have further : append text step ≠ "" := by
      cases step <;> simp [append, appendIndex, appendName, nonempty]
    rw [List.foldl_cons, List.foldl_cons, longer, ih further]

/-- Below the root a point stands in front of a name. -/
theorem render_append_name {front : Path} (below : front ≠ [])
    (addressable : ∀ step ∈ front, step.Addressable) {name : String} (nonempty : name ≠ "")
    (rest : Path) :
    render (front ++ .name name :: rest) = render front ++ "." ++ render (.name name :: rest) := by
  have text := render_ne_empty below addressable
  have named : append (render front) (.name name) = render front ++ "." ++ name := if_neg text
  have first : render (.name name :: rest) = rest.foldl append name := rfl
  rw [first, ← foldl_append_append _ nonempty, ← named]
  simp [render]

end Path

end ConfigTemplate
