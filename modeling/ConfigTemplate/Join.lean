/-!
# Join expressions

An expression `path.join(separator)` names the elements of an array put together. Quotes around
the separator are taken off, each end by itself, and line breaks and tabs in it are dropped.
-/

namespace ConfigTemplate

/-- An array's path and what to put between its elements. -/
structure Join where
  path : String
  separator : String
  deriving DecidableEq, Repr

namespace Join

/-- The mark between a path and its separator. -/
def mark : List Char := ".join(".toList

/-- The characters before the first mark that has some before it, and those after it. `before`
holds the characters passed so far, latest first. -/
def splitAtMark? (before : List Char) : List Char → Option (List Char × List Char)
  | [] => none
  | c :: rest =>
    if !before.isEmpty && mark.isPrefixOf (c :: rest) then
      some (before.reverse, (c :: rest).drop mark.length)
    else splitAtMark? (c :: before) rest

/-- The characters before a closing parenthesis at the end. A line break may follow it. -/
def beforeClosing? (cs : List Char) : Option (List Char) :=
  match cs.reverse with
  | ')' :: rest => some rest.reverse
  | '\n' :: ')' :: rest => some rest.reverse
  | _ => none

/-- A quote of either sort. -/
def isQuote (c : Char) : Bool := c = '\'' || c = '"'

/-- Some characters without a quote in front. -/
def dropQuote : List Char → List Char
  | [] => []
  | c :: rest => if isQuote c then rest else c :: rest

/-- Line breaks and tabs. -/
def isBreak (c : Char) : Bool := c = '\n' || c = '\r' || c = '\t'

/-- A separator as it is meant. -/
def cleaned (separator : List Char) : List Char :=
  (dropQuote (dropQuote separator).reverse).reverse.filter (!isBreak ·)

/-- The parts of a join expression. -/
def ofExpression? (expression : String) : Option Join := do
  let body ← beforeClosing? expression.toList
  let (path, separator) ← splitAtMark? [] body
  return ⟨String.ofList path, String.ofList (cleaned separator)⟩

end Join

end ConfigTemplate
