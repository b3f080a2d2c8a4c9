/-!
# Blank characters and line breaks

The characters that separate words: the white space of the Unicode standard together with the
four information separators of ASCII. Trimming removes them from both ends of a text.

A line ends with a line feed, with a carriage return, or with both. Text that is read line by line
has line feeds only.
-/

namespace ConfigTemplate.Text

/-- The code points of the blank characters. -/
def blankPoints : List Nat :=
  [0x9, 0xA, 0xB, 0xC, 0xD, 0x1C, 0x1D, 0x1E, 0x1F, 0x20, 0x85, 0xA0, 0x1680, 0x2000, 0x2001,
    0x2002, 0x2003, 0x2004, 0x2005, 0x2006, 0x2007, 0x2008, 0x2009, 0x200A, 0x2028, 0x2029,
    0x202F, 0x205F, 0x3000]

/-- A blank character separates words. -/
def isBlank (c : Char) : Bool := blankPoints.contains c.toNat

/-- Drop the characters at the end that satisfy a test. -/
def dropEndWhile (test : Char → Bool) (cs : List Char) : List Char :=
  (cs.reverse.dropWhile test).reverse

/-- The characters between the first and the last one that is not blank. -/
def trimBlanks (cs : List Char) : List Char := dropEndWhile isBlank (cs.dropWhile isBlank)

/-- A text without the blanks at its two ends. -/
def trimmed (s : String) : String := String.ofList (trimBlanks s.toList)

/-! ### Line breaks -/

/-- Characters with every line break written as a line feed. -/
def unifyBreaks : List Char → List Char
  | [] => []
  | '\r' :: '\n' :: rest => '\n' :: unifyBreaks rest
  | c :: rest => (if c = '\r' then '\n' else c) :: unifyBreaks rest

end ConfigTemplate.Text
