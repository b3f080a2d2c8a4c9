import ConfigTemplate.Shell.Glob

/-!
# Fields

What a word stands for is divided into fields: the text that parameters and outputs give is split
at separators, other text is not.
-/

namespace ConfigTemplate.Shell

open Text (Bytes)

/-- A byte of a word that is expanded, or a mark between bytes. -/
inductive Glyph where
  /-- A byte of the script. -/
  | literal (b : UInt8)
  | quoted (b : UInt8)
  /-- A byte that a parameter or an output gives. -/
  | found (b : UInt8)
  /-- A field is here, be it empty. -/
  | mark
  /-- A field ends here. -/
  | gap
  deriving DecidableEq, Repr

/-- A field: its bytes, and which of them are quoted. -/
abbrev Field := List (UInt8 × Bool)

/-- Separators that count only once in a row. -/
def isBlankByte (b : UInt8) : Bool := b = 32 || b = 9 || b = 10

/-- The fields of some glyphs. `current` is the field so far, in reverse, if one has begun;
`justEnded` tells that a blank has just ended a field, so that a separator after it ends none. -/
def splitFields (separators : Bytes) (current : Option Field) (justEnded : Bool) :
    List Glyph → List Field
  | [] => (current.map List.reverse).toList
  | .gap :: rest => (current.map List.reverse).toList ++ splitFields separators none false rest
  | .mark :: rest => splitFields separators (some (current.getD [])) false rest
  | .literal b :: rest => splitFields separators (some ((b, false) :: current.getD [])) false rest
  | .quoted b :: rest => splitFields separators (some ((b, true) :: current.getD [])) false rest
  | .found b :: rest =>
    if !separators.contains b then
      splitFields separators (some ((b, false) :: current.getD [])) false rest
    else if isBlankByte b then
      (current.map List.reverse).toList ++
        splitFields separators none (justEnded || current.isSome) rest
    else
      let ended : List Field :=
        match current with
        | some field => [field.reverse]
        | none => if justEnded then [] else [[]]
      ended ++ splitFields separators none false rest

/-- The bytes of a field. -/
def Field.bytes (field : Field) : Bytes := field.map (·.1)

/-- A field as a pattern. -/
def Field.pattern (field : Field) : List Mark :=
  field.map fun (b, quoted) => (Char.ofNat b.toNat, quoted)

/-- Bytes as characters, one for one. -/
def charsOf (bytes : Bytes) : List Char := bytes.map fun b => Char.ofNat b.toNat

/-- The bytes and marks of glyphs as a pattern. -/
def patternOf (glyphs : List Glyph) : List Mark :=
  glyphs.filterMap fun glyph =>
    match glyph with
    | .literal b | .found b => some (Char.ofNat b.toNat, false)
    | .quoted b => some (Char.ofNat b.toNat, true)
    | .mark | .gap => none

/-- The bytes of glyphs, with blanks for gaps. -/
def joinedBytes (glyphs : List Glyph) : Bytes :=
  glyphs.filterMap fun glyph =>
    match glyph with
    | .literal b | .found b | .quoted b => some b
    | .gap => some 32
    | .mark => none

end ConfigTemplate.Shell
