import ConfigTemplate.Failure
import ConfigTemplate.Flat.Basic

/-!
# Looking up keys

A key addresses a value by its full path or by a shorthand: a trailing run of whole segments of the
path. The name of an array addresses its elements in the same way. A path that ends in a line break
matches as it does without it.

When several paths match, the first one is taken unless the match has to be unique.
-/

namespace ConfigTemplate.Flat

/-- Whether characters end with a key on the boundary of a segment. -/
def endsAt (key full : List Char) : Bool := full == key || ('.' :: key).isSuffixOf full

/-- Characters without one line break at their end. -/
def withoutFinalBreak (cs : List Char) : List Char :=
  match cs.reverse with
  | '\n' :: rest => rest.reverse
  | _ => cs

/-- Whether a key is a full path or a shorthand of it. -/
def isShorthand (key full : String) : Bool :=
  endsAt key.toList full.toList || endsAt key.toList (withoutFinalBreak full.toList)

/-- The paths that a key is a shorthand of, in order. -/
def matching (flat : Flat) (key : String) : List String := flat.keys.filter (isShorthand key)

/-- A path taken for a key, out of the paths that match. -/
structure Pick where
  chosen : String
  candidates : List String
  deriving DecidableEq, Repr

/-- Take the first of the paths that match a key. -/
def pick (unique : Bool) (key : String) : List String → Except Failure Pick
  | [] => .error (.keyNotFound key .unmatched)
  | [path] => .ok ⟨path, [path]⟩
  | path :: rest =>
    if unique then .error (.ambiguousKey key (path :: rest)) else .ok ⟨path, path :: rest⟩

/-- The path that a key addresses. -/
def resolve (flat : Flat) (unique : Bool) (key : String) : Except Failure Pick :=
  if key ∈ flat then .ok ⟨key, [key]⟩ else pick unique key (flat.matching key)

/-- The element of an array that a path leads to. -/
structure Element where
  array : String
  index : Nat
  path : String
  deriving DecidableEq, Repr

/-- A path that ends with an index, as an element of an array. -/
def element? (path : String) : Option Element :=
  match (withoutFinalBreak path.toList).reverse with
  | ']' :: rest =>
    match rest.takeWhile Text.isDigit, rest.dropWhile Text.isDigit with
    | d :: digits, '[' :: array =>
      some ⟨String.ofList array.reverse, Text.digitsValue (d :: digits).reverse, path⟩
    | _, _ => none
  | _ => none

/-- The leaves that are elements of an array which a key addresses, in order. -/
def elementsMatching (flat : Flat) (key : String) : List Element :=
  (flat.keys.filterMap element?).filter fun e => endsAt key.toList e.array.toList

/-- The arrays that a key addresses and that have a leaf as an element. -/
def arraysMatching (flat : Flat) (key : String) : List String :=
  ((flat.elementsMatching key).map Element.array).eraseDups

/-- The array that a key addresses. -/
def pickArray (flat : Flat) (unique : Bool) (key : String) : Except Failure Pick :=
  let arrays := flat.arraysMatching key
  if key ∈ arrays then .ok ⟨key, [key]⟩ else pick unique key arrays

/-- The order of elements: by index, and by path among equal indices. -/
def Element.le (a b : Element) : Bool :=
  a.index < b.index || (a.index = b.index && !(b.path < a.path))

/-- Whether a path leads into an array. -/
def isInside (array path : String) : Bool := (array ++ "[").toList.isPrefixOf path.toList

/-- The paths of the elements of an array, by index. Every element has to be a scalar. -/
def elementPaths (flat : Flat) (key array : String) : Except Failure (List String) :=
  let found := (flat.elementsMatching key).filter fun e => e.array = array
  let paths := (found.mergeSort Element.le).map Element.path
  match flat.entries.find? fun (path, value) =>
      isInside array path && (!paths.contains path || value.isContainer) with
  | some (path, _) => .error (.keyNotFound key (.notScalar path))
  | none => .ok paths

/-- The paths of the elements of the scalar array that a key addresses, by index. -/
def resolveArray (flat : Flat) (unique : Bool) (key : String) : Except Failure (List String) :=
  match flat.pickArray unique key with
  | .error failure => .error failure
  | .ok found => flat.elementPaths key found.chosen

end ConfigTemplate.Flat
