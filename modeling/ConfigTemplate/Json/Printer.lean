import ConfigTemplate.Decimal.Style
import ConfigTemplate.Json.Basic
import ConfigTemplate.Text.Quoted

/-!
# Writing JSON text

A layout says whether characters beyond ASCII are escaped and whether the elements of a container
stand on lines of their own. Strings escape the quote, the backslash and control characters.
-/

namespace ConfigTemplate.Json

/-- How a value is laid out. With `indent` the elements of a container stand on lines of their
own, that many spaces deeper at each level. -/
structure Layout where
  ascii : Bool
  indent : Option Nat
  deriving DecidableEq, Repr

/-- One line with all characters as they are. -/
def Layout.line : Layout := ⟨false, none⟩

/-- One line of ASCII characters. -/
def Layout.asciiLine : Layout := ⟨true, none⟩

/-- Elements on lines of their own. A negative indentation counts as none. -/
def Layout.indented (indent : Int) : Layout := ⟨false, some indent.toNat⟩

/-- An escape of one unit. -/
def unitEscape (unit : Nat) : List Char := '\\' :: 'u' :: Text.hexDigits 4 unit

/-- What stands for a character in a string. -/
def escapeChar (ascii : Bool) (c : Char) : List Char :=
  if c = '"' then ['\\', '"']
  else if c = '\\' then ['\\', '\\']
  else if c = '\n' then ['\\', 'n']
  else if c = '\r' then ['\\', 'r']
  else if c = '\t' then ['\\', 't']
  else if c = '\x08' then ['\\', 'b']
  else if c = '\x0c' then ['\\', 'f']
  else if c.toNat < 0x20 then unitEscape c.toNat
  else if ascii && 0x7F ≤ c.toNat then
    if c.toNat < 0x10000 then unitEscape c.toNat
    else
      let rest := c.toNat - 0x10000
      unitEscape (0xD800 + rest / 0x400) ++ unitEscape (0xDC00 + rest % 0x400)
  else [c]

/-- A string between its quotes. -/
def stringText (ascii : Bool) (s : String) : String :=
  String.ofList ('"' :: s.toList.flatMap (escapeChar ascii) ++ ['"'])

/-- The text of a container: its brackets around the texts of its elements. -/
def Layout.enclose (layout : Layout) (level : Nat) (opening closing : String)
    (elements : List String) : String :=
  if elements.isEmpty then opening ++ closing
  else
    match layout.indent with
    | none => opening ++ String.intercalate ", " elements ++ closing
    | some width =>
      let newline (level : Nat) := "\n" ++ String.ofList (List.replicate (width * level) ' ')
      opening ++ newline (level + 1) ++ String.intercalate ("," ++ newline (level + 1)) elements ++
        newline level ++ closing

mutual

/-- The text of a value at a level of nesting. -/
def textAt (layout : Layout) (level : Nat) : Json → String
  | null => "null"
  | bool true => "true"
  | bool false => "false"
  | int n => toString n
  | float x => Decimal.Style.document.float x
  | str s => stringText layout.ascii s
  | arr items => layout.enclose level "[" "]" (itemTexts layout (level + 1) items)
  | obj members => layout.enclose level "\x7b" "\x7d" (memberTexts layout (level + 1) members)

/-- The texts of the items of an array. -/
def itemTexts (layout : Layout) (level : Nat) : List Json → List String
  | [] => []
  | item :: rest => textAt layout level item :: itemTexts layout level rest

/-- The texts of the members of an object. -/
def memberTexts (layout : Layout) (level : Nat) : List (String × Json) → List String
  | [] => []
  | (key, value) :: rest =>
    (stringText layout.ascii key ++ ": " ++ textAt layout level value) ::
      memberTexts layout level rest

end

/-- The text of a value. -/
def text (layout : Layout) (value : Json) : String := textAt layout 0 value

end ConfigTemplate.Json
