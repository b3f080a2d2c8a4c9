import ConfigTemplate.Text.Encoding

/-!
# Patterns

A pattern of characters, some of which stand for others: an asterisk for any number of them, a
question mark for one, and brackets for one out of a set. A character that is quoted stands for
itself.
-/

namespace ConfigTemplate.Shell

/-- A character of a pattern, and whether it is quoted. -/
abbrev Mark := Char × Bool

/-- Whether an ASCII character is in a class of a given name; none for other names. -/
def inClass? (name : String) (c : Char) : Option Bool :=
  let isPrint := ' ' ≤ c && c ≤ '~'
  match name with
  | "alpha" => some c.isAlpha
  | "digit" => some c.isDigit
  | "alnum" => some c.isAlphanum
  | "upper" => some c.isUpper
  | "lower" => some c.isLower
  | "space" => some (c = ' ' || ('\t' ≤ c && c ≤ '\r'))
  | "blank" => some (c = ' ' || c = '\t')
  | "punct" => some (isPrint && c != ' ' && !c.isAlphanum)
  | "print" => some isPrint
  | "graph" => some (isPrint && c != ' ')
  | "cntrl" => some (c < ' ' || c = '\x7f')
  | "xdigit" => some (c.isDigit || ('a' ≤ c && c ≤ 'f') || ('A' ≤ c && c ≤ 'F'))
  | _ => none

/-- A part of a set of characters. -/
inductive Member where
  | range (low high : Char)
  | named (name : String)
  deriving DecidableEq, Repr

/-- Whether a character belongs to a part of a set. -/
def Member.holds (c : Char) : Member → Bool
  | range low high => low ≤ c && c ≤ high
  | named name => (inClass? name c).getD false

/-- The name of a class between colons and a bracket, and what follows it. -/
def className? (pattern : List Mark) : Option (String × List Mark) :=
  match pattern with
  | (':', _) :: rest =>
    let name := rest.takeWhile (·.1 != ':')
    match rest.drop name.length with
    | (':', _) :: (']', _) :: after => some (String.ofList (name.map (·.1)), after)
    | _ => none
  | _ => none

/-- The parts of a set up to its closing bracket, which cannot be its first character, and what
follows it. -/
def members? : Nat → Bool → List Mark → Option (List Member × List Mark)
  | 0, _, _ => none
  | _ + 1, _, [] => none
  | fuel + 1, isFirst, (c, quoted) :: rest =>
    if c = ']' && !quoted && !isFirst then some ([], rest)
    else
      let (member, rest) : Member × List Mark :=
        match if c = '[' && !quoted then className? rest else none with
        | some (name, after) => (.named name, after)
        | none =>
          match rest with
          | ('-', false) :: (']', false) :: _ => (.range c c, rest)
          | ('-', false) :: (high, _) :: after => (.range c high, after)
          | _ => (.range c c, rest)
      (members? fuel false rest).map fun (members, after) => (member :: members, after)

/-- The set after an opening bracket, whether it is turned around, and what follows it. -/
def bracketSet? (pattern : List Mark) : Option (Bool × List Member × List Mark) :=
  let (negated, body) :=
    match pattern with
    | ('!', false) :: rest => (true, rest)
    | rest => (false, rest)
  (members? (body.length + 1) true body).map fun (members, after) => (negated, members, after)

/-- Whether characters match a pattern. -/
def globMatches : Nat → List Mark → List Char → Bool
  | 0, _, _ => false
  | _ + 1, [], cs => cs.isEmpty
  | fuel + 1, ('*', false) :: rest, cs =>
    globMatches fuel rest cs ||
      match cs with
      | _ :: more => globMatches fuel (('*', false) :: rest) more
      | [] => false
  | fuel + 1, ('?', false) :: rest, cs =>
    match cs with
    | _ :: more => globMatches fuel rest more
    | [] => false
  | fuel + 1, (c, quoted) :: rest, cs =>
    match cs with
    | [] => false
    | d :: more =>
      match if c = '[' && !quoted then bracketSet? rest else none with
      | some (negated, members, after) =>
        members.any (·.holds d) != negated && globMatches fuel after more
      | none => c = d && globMatches fuel rest more

/-- Whether a text matches a pattern. -/
def isMatch (pattern : List Mark) (cs : List Char) : Bool :=
  globMatches (pattern.length + cs.length + 1) pattern cs

/-- Whether a pattern has a character that stands for others. -/
def isPattern (pattern : List Mark) : Bool :=
  pattern.any fun (c, quoted) => !quoted && (c = '*' || c = '?' || c = '[')

/-- The characters of a pattern. -/
def plain (pattern : List Mark) : List Char := pattern.map (·.1)

/-- The shortest, or the longest, front of a text that matches a pattern, as a length. -/
def frontMatch? (pattern : List Mark) (longest : Bool) (cs : List Char) : Option Nat :=
  let lengths := List.range (cs.length + 1)
  (if longest then lengths.reverse else lengths).find? fun n => isMatch pattern (cs.take n)

/-- The shortest, or the longest, end of a text that matches a pattern, as the length before it. -/
def endMatch? (pattern : List Mark) (longest : Bool) (cs : List Char) : Option Nat :=
  let lengths := List.range (cs.length + 1)
  (if longest then lengths else lengths.reverse).find? fun n => isMatch pattern (cs.drop n)

end ConfigTemplate.Shell
