import ConfigTemplate.Shell.Programs.Basic

/-!
# Versions

The order of names that hold numbers: runs of digits are compared as numbers, and endings such as
those of files count last.
-/

namespace ConfigTemplate.Shell.Programs.Versions

open Text (Bytes)

/-- Whether a byte is a letter. -/
def isLetter (b : UInt8) : Bool := (65 ≤ b && b ≤ 90) || (97 ≤ b && b ≤ 122)

/-- The rank of what a text goes on with: a tilde before the end, the end before letters, and those
before all else. -/
def rank : Bytes → Int
  | [] => -1
  | b :: _ =>
    if isDigit b then 0 else if isLetter b then b.toNat else if b = 126 then -2 else b.toNat + 256

/-- The order of two texts by their runs of digits and what is between them. -/
def compareRuns : Nat → Bytes → Bytes → Ordering
  | 0, _, _ => .eq
  | fuel + 1, a, b =>
    let startsOther (text : Bytes) : Bool := text.head?.any (!isDigit ·)
    if a.isEmpty && b.isEmpty then .eq
    else if startsOther a || startsOther b then
      match compare (rank a) (rank b) with
      | .eq => compareRuns fuel (a.drop 1) (b.drop 1)
      | order => order
    else
      let digitsA := a.takeWhile isDigit
      let digitsB := b.takeWhile isDigit
      match compare (ofDigits digitsA) (ofDigits digitsB) with
      | .eq => compareRuns fuel (a.drop digitsA.length) (b.drop digitsB.length)
      | order => order

/-- The length of the endings at the front of a text that is turned around: dots before letters and
digits. The length so far and that of the endings are given. -/
def endingLength : Nat → Nat → Bytes → Nat
  | _, ended, [] => ended
  | count, ended, b :: rest =>
    if isLetter b || b = 126 then
      match rest with
      | 46 :: _ => endingLength (count + 1) (count + 2) rest
      | _ => endingLength (count + 1) ended rest
    else if isDigit b then endingLength (count + 1) ended rest
    else if b = 46 && ended = count + 1 then endingLength (count + 1) ended rest
    else ended

/-- A text without its endings. -/
def stem (text : Bytes) : Bytes := text.take (text.length - endingLength 0 0 text.reverse)

/-- The rank of names that begin with a dot: the directory itself, the one around it, others. -/
def dotRank : Bytes → Nat
  | [46] => 0
  | [46, 46] => 1
  | 46 :: _ => 2
  | _ => 3

/-- The order of two names. -/
def order (a b : Bytes) : Ordering :=
  if a.isEmpty || b.isEmpty then compare a.length b.length
  else
    match compare (dotRank a) (dotRank b) with
    | .eq =>
      let fuel := a.length + b.length + 1
      match compareRuns fuel (stem a) (stem b) with
      | .eq => compareRuns fuel a b
      | order => order
    | order => order

end ConfigTemplate.Shell.Programs.Versions
