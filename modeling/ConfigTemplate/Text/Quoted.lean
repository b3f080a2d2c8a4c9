import ConfigTemplate.Text.Printable

/-!
# Quoted text

How a message shows a text between quotes. The quote is single, unless the text holds a single
quote and no double one. The quote in use and the backslash are escaped, the usual control
characters have letters, and any other character that is not printable is given by its code point
in two, four or eight hexadecimal digits.
-/

namespace ConfigTemplate.Text

/-- A lower-case hexadecimal digit. -/
def hexDigit (n : Nat) : Char := Nat.digitChar (n % 16)

/-- The last `width` hexadecimal digits of a number. -/
def hexDigits : Nat → Nat → List Char
  | 0, _ => []
  | width + 1, n => hexDigits width (n / 16) ++ [hexDigit n]

@[simp] theorem length_hexDigits (width n : Nat) : (hexDigits width n).length = width := by
  induction width generalizing n with
  | zero => rfl
  | succ width ih => simp [hexDigits, ih]

namespace Quoted

/-- The quote to put around a text. -/
def delimiter (cs : List Char) : Char :=
  if cs.contains '\'' && !cs.contains '"' then '"' else '\''

/-- What stands for one character between quotes. -/
def escape (quote c : Char) : List Char :=
  if c = quote || c = '\\' then ['\\', c]
  else if c = '\n' then ['\\', 'n']
  else if c = '\r' then ['\\', 'r']
  else if c = '\t' then ['\\', 't']
  else if isPrintable c then [c]
  else if c.toNat < 0x100 then '\\' :: 'x' :: hexDigits 2 c.toNat
  else if c.toNat < 0x10000 then '\\' :: 'u' :: hexDigits 4 c.toNat
  else '\\' :: 'U' :: hexDigits 8 c.toNat

end Quoted

/-- A text between quotes, with escapes. -/
def quoted (s : String) : String :=
  let cs := s.toList
  let quote := Quoted.delimiter cs
  String.ofList (quote :: cs.flatMap (Quoted.escape quote) ++ [quote])

/-- Texts between quotes, in square brackets. -/
def quotedList (texts : List String) : String :=
  "[" ++ String.intercalate ", " (texts.map quoted) ++ "]"

end ConfigTemplate.Text
