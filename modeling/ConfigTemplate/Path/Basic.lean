import ConfigTemplate.Text.Digit
import ConfigTemplate.Text.Quoted

/-!
# Paths

A path leads from the root of a document to one of its values by field names and array indices.
Its text joins names with points and writes an index in square brackets, as in `build.args[0]`.
Splitting takes such a text apart again. It is lenient: points and brackets that mark nothing are
passed over.
-/

namespace ConfigTemplate

/-- One step of a path. -/
inductive Step where
  | name (s : String)
  | index (n : Nat)
  deriving DecidableEq, Repr

/-- The steps from a root to a value. -/
abbrev Path := List Step

/-- One step to a place of a document. A negative index counts from the end of an array. -/
inductive SignedStep where
  | name (s : String)
  | index (n : Int)
  deriving DecidableEq, Repr

/-- A step as one that may count from the end. -/
def Step.signed : Step → SignedStep
  | name s => .name s
  | index n => .index n

@[simp] theorem Step.signed_name (s : String) : (Step.name s).signed = .name s := rfl

@[simp] theorem Step.signed_index (n : Nat) : (Step.index n).signed = .index n := rfl

/-- The steps from a root to a place. -/
abbrev SignedPath := List SignedStep

/-- A path as one that may count from the end. -/
def Path.signed (path : Path) : SignedPath := path.map Step.signed

namespace Path

/-- The characters that a path's text uses as marks. -/
def isMark (c : Char) : Bool := c = '.' || c = '[' || c = ']'

/-- A name that a path's text can hold: not empty and free of marks. -/
def isAddressable (name : String) : Bool := !name.toList.isEmpty && !name.toList.any isMark

/-- The text of a path that goes one field further. -/
def appendName (path name : String) : String := if path = "" then name else path ++ "." ++ name

/-- The text of a path that goes one index further. -/
def appendIndex (path : String) (n : Nat) : String := path ++ "[" ++ toString n ++ "]"

/-- The text of a path that goes one step further. -/
def append (path : String) : Step → String
  | .name s => appendName path s
  | .index n => appendIndex path n

/-- The text of a path. -/
def render (steps : Path) : String := steps.foldl append ""

@[simp] theorem render_nil : render [] = "" := rfl

theorem render_concat (steps : Path) (step : Step) :
    render (steps ++ [step]) = append (render steps) step := by
  simp [render]

/-- The index that begins after an opening bracket, and the characters after its closing
bracket. -/
def indexAfterBracket? (cs : List Char) : Option (Nat × List Char) :=
  match cs.takeWhile Text.isDigit, cs.dropWhile Text.isDigit with
  | d :: digits, ']' :: rest => some (Text.digitsValue (d :: digits), rest)
  | _, _ => none

theorem length_of_indexAfterBracket? {cs rest : List Char} {n : Nat}
    (h : indexAfterBracket? cs = some (n, rest)) : rest.length < cs.length := by
  have hle := (List.dropWhile_sublist (l := cs) Text.isDigit).length_le
  unfold indexAfterBracket? at h
  split at h
  next r _ heq =>
    simp only [Option.some.injEq, Prod.mk.injEq] at h
    rw [heq, List.length_cons, h.2] at hle
    omega
  · simp at h

/-- The steps that characters spell. -/
def splitChars : List Char → Path
  | [] => []
  | c :: rest =>
    if c = '[' then
      match _h : indexAfterBracket? rest with
      | some (n, after) => .index n :: splitChars after
      | none => splitChars rest
    else if isMark c then splitChars rest
    else
      .name (String.ofList (c :: rest.takeWhile (!isMark ·))) ::
        splitChars (rest.dropWhile (!isMark ·))
termination_by cs => cs.length
decreasing_by
  · have := length_of_indexAfterBracket? _h
    simp only [List.length_cons]
    omega
  · simp
  · simp
  · have := (List.dropWhile_sublist (l := rest) (!isMark ·)).length_le
    simp only [List.length_cons]
    omega

/-- The steps that a text spells. -/
def split (text : String) : Path := splitChars text.toList

end Path

/-- How a message shows a step. -/
def SignedStep.shown : SignedStep → String
  | name s => Text.quoted s
  | index n => toString n

/-- How a message shows a path. -/
def SignedPath.shown (steps : SignedPath) : String :=
  "[" ++ String.intercalate ", " (steps.map SignedStep.shown) ++ "]"

end ConfigTemplate
