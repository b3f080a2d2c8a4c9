import ConfigTemplate.Json.Printer
import ConfigTemplate.Proofs.Json.Leaves
import Mathlib

/-!
# The texts of scalars

A number is written with digits, a point, signs and the mark of an exponent, unless it is infinite
or no number. So the text of a number, a truth value or null has no dollar sign, and neither has
that of an empty container.
-/

namespace ConfigTemplate

namespace Decimal

/-- The characters that decimals are written with. -/
def isNumeric (c : Char) : Bool := c.isDigit || ['.', 'e', '+', '-'].contains c

theorem isNumeric_of_mem_toDigits {n : Nat} {c : Char} (mem : c ∈ Nat.toDigits 10 n) :
    isNumeric c = true := by
  rw [isNumeric, Nat.isDigit_of_mem_toDigits (by omega) (by omega) mem, Bool.true_or]

theorem isNumeric_of_mem_zeros {n : Nat} {c : Char} (mem : c ∈ List.replicate n '0') :
    isNumeric c = true := by
  rw [(List.mem_replicate.1 mem).2]
  rfl

variable {digits : List Char} (numeric : ∀ c ∈ digits, isNumeric c = true)

include numeric

theorem isNumeric_of_mem_positional (whole : Int) :
    ∀ c ∈ positional digits whole, isNumeric c = true := by
  have zeros (n : Nat) : ∀ c ∈ List.replicate n '0', isNumeric c = true :=
    fun _ => isNumeric_of_mem_zeros
  have point : isNumeric '.' = true ∧ isNumeric '0' = true := by decide
  unfold positional
  split
  · simp only [List.cons_append, List.forall_mem_cons, List.forall_mem_append]
    exact ⟨point.2, point.1, zeros _, numeric⟩
  · split
    · simp only [List.forall_mem_append, List.forall_mem_cons]
      exact ⟨⟨numeric, zeros _⟩, point.1, point.2, by simp⟩
    · simp only [List.forall_mem_append, List.forall_mem_cons]
      exact ⟨fun c mem => numeric c (List.mem_of_mem_take mem), point.1,
        fun c mem => numeric c (List.mem_of_mem_drop mem)⟩

theorem isNumeric_of_mem_exponential (width : Nat) (lead : Int) :
    ∀ c ∈ exponential width digits lead, isNumeric c = true := by
  have zeros (n : Nat) : ∀ c ∈ List.replicate n '0', isNumeric c = true :=
    fun _ => isNumeric_of_mem_zeros
  have sign : isNumeric (if lead < 0 then '-' else '+') = true := by split <;> decide
  have marks : isNumeric 'e' = true ∧ isNumeric '.' = true := by decide
  have power : ∀ c ∈ Nat.toDigits 10 lead.natAbs, isNumeric c = true :=
    fun _ => isNumeric_of_mem_toDigits
  unfold exponential
  simp only [List.forall_mem_append, List.forall_mem_cons]
  refine ⟨⟨?_, marks.1, sign, zeros _⟩, power⟩
  cases digits with
  | nil => simp
  | cons d more =>
    cases more with
    | nil => exact numeric
    | cons next more =>
      rw [List.forall_mem_cons] at numeric ⊢
      rw [List.forall_mem_cons]
      exact ⟨numeric.1, marks.2, numeric.2⟩

omit numeric in
theorem isNumeric_of_mem_decimal (style : Style) (s : Scientific) :
    ∀ c ∈ style.decimal s, isNumeric c = true := by
  unfold Style.decimal
  dsimp only
  split
  · exact isNumeric_of_mem_positional (fun _ => isNumeric_of_mem_toDigits) _
  · exact isNumeric_of_mem_exponential (fun _ => isNumeric_of_mem_toDigits) _ _

omit numeric in
/-- The characters of a double-precision number. -/
theorem mem_float {style : Style} {x : Float} {c : Char} (mem : c ∈ (style.float x).toList) :
    isNumeric c = true ∨ c ∈ style.nan.toList ∨ c ∈ style.infinity.toList := by
  have signed {negative : Bool} {text : String}
      (mem : c ∈ (if negative then "-" ++ text else text).toList) :
      isNumeric c = true ∨ c ∈ text.toList := by
    cases negative with
    | false => exact .inr mem
    | true =>
      obtain sign | inside := List.mem_append.1 (String.toList_append ▸ mem)
      · exact .inl (by rw [List.mem_singleton.1 sign]; rfl)
      · exact .inr inside
  unfold Style.float at mem
  split at mem
  · exact .inr (.inl mem)
  · exact (signed mem).imp_right .inr
  · have zero : ∀ c ∈ "0.0".toList, isNumeric c = true := by simp [isNumeric]
    exact .inl ((signed mem).elim id (zero c))
  · refine .inl ((signed mem).elim id fun inside => ?_)
    rw [String.toList_ofList] at inside
    exact isNumeric_of_mem_decimal style _ c inside

omit numeric in
/-- The characters of an integer. -/
theorem isNumeric_of_mem_int {n : Int} {c : Char} (mem : c ∈ (toString n).toList) :
    isNumeric c = true := by
  cases n with
  | ofNat n =>
    change c ∈ (Nat.repr n).toList at mem
    rw [Nat.repr, String.toList_ofList] at mem
    exact isNumeric_of_mem_toDigits mem
  | negSucc n =>
    change c ∈ ("-" ++ Nat.repr (n + 1)).toList at mem
    rw [String.toList_append, List.mem_append] at mem
    obtain sign | inside := mem
    · rw [List.mem_singleton.1 sign]
      rfl
    · rw [Nat.repr, String.toList_ofList] at inside
      exact isNumeric_of_mem_toDigits inside

end Decimal

namespace Json

open Decimal (isNumeric_of_mem_int mem_float)

/-- A leaf that is no string is written without a dollar sign. -/
theorem dollar_not_mem_text_of_isLeaf {value : Json} (leaf : value.isLeaf = true)
    (other : ∀ text, value ≠ .str text) (layout : Layout) :
    '$' ∉ (value.text layout).toList := by
  unfold text
  match value, leaf, other with
  | .null, _, _ | .bool true, _, _ | .bool false, _, _ => simp [textAt]
  | .int n, _, _ => exact fun mem => absurd (isNumeric_of_mem_int mem) (by decide)
  | .float x, _, _ => exact fun mem => absurd (mem_float mem) (by decide)
  | .str s, _, other => exact absurd rfl (other s)
  | .arr [], _, _ => simp [textAt, itemTexts, Layout.enclose]
  | .obj [], _, _ => simp [textAt, memberTexts, Layout.enclose]

end Json

end ConfigTemplate
