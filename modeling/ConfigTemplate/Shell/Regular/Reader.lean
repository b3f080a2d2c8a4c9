import ConfigTemplate.Shell.Regular.Basic

/-!
# Reading regular expressions

Expressions are written in a basic form, in which backslashes make operators of most signs, or in an
extended one, in which signs are operators of their own. A sign that cannot be an operator where it
stands is a character.
-/

namespace ConfigTemplate.Shell.Regular

/-- How expressions are written. -/
structure Dialect where
  /-- Whether signs are operators without backslashes. -/
  extended : Bool
  /-- Whether a sign of repetition may have nothing before it. -/
  lenient : Bool
  /-- Whether backslashes work between brackets. -/
  escapesInSets : Bool := false
  /-- Whether the ends of lines count as the ends of the text. -/
  byLines : Bool := false

/-- What is wrong with an expression. -/
inductive Flaw where
  /-- A set of which there is nothing but its front. -/
  | emptySet
  | unclosedSet
  | unclosedGroup
  | unopenedGroup
  | unclosedLimits
  | wrongLimits
  | wrongRange
  | wrongClass
  | wrongCollation
  | wrongReference
  | trailingBackslash
  | nothingToRepeat
  | tooBig
  /-- A class without the brackets around it. -/
  | bareClass
  deriving DecidableEq, Repr

/-- The wording of a flaw. -/
def Flaw.message : Flaw → String
  | emptySet => "Invalid regular expression"
  | unclosedSet => "Unmatched [, [^, [:, [., or [="
  | unclosedGroup => "Unmatched ( or \\("
  | unopenedGroup => "Unmatched ) or \\)"
  | unclosedLimits => "Unmatched \\\x7b"
  | wrongLimits => "Invalid content of \\\x7b\\\x7d"
  | wrongRange => "Invalid range end"
  | wrongClass => "Invalid character class name"
  | wrongCollation => "Invalid collation character"
  | wrongReference => "Invalid back reference"
  | trailingBackslash => "Trailing backslash"
  | nothingToRepeat => "Invalid preceding regular expression"
  | tooBig => "Regular expression too big"
  | bareClass => "character class syntax is [[:space:]], not [:space:]"

/-- What is read of an expression before its parts are put together. -/
inductive Token where
  | part (r : Regular)
  | repeats (least : Nat) (most : Option Nat)
  | opening
  | closing
  | bar
  deriving Repr

/-- The greatest number of repetitions that can be asked for. -/
def mostRepetitions : Nat := 32767

/-- A name between an opening sign such as `[:` and its closing one. -/
def namedMember? (sign : Char) (cs : List Char) : Option (String × List Char) :=
  let name := cs.takeWhile (· != sign)
  match cs.drop name.length with
  | _ :: ']' :: rest => some (String.ofList name, rest)
  | _ => none

/-- The character at the front of what stands between brackets. -/
def setChar (dialect : Dialect) : List Char → Except Flaw (Char × List Char)
  | [] => .error .unclosedSet
  | '[' :: sign :: rest =>
    if sign = '.' || sign = '=' then
      match namedMember? sign rest with
      | none => .error .unclosedSet
      | some (name, rest) =>
        match name.toList with
        | [c] => .ok (c, rest)
        | _ => .error .wrongCollation
    else .ok ('[', sign :: rest)
  | '\\' :: c :: rest =>
    if dialect.escapesInSets then
      let c := if c = 'n' then '\n' else if c = 't' then '\t' else if c = 'r' then '\r' else c
      .ok (c, rest)
    else .ok ('\\', c :: rest)
  | c :: rest => .ok (c, rest)

/-- The members of a set up to its closing bracket, which cannot be the first of them, and what
follows it. -/
def setMembers (dialect : Dialect) : Nat → Bool → List Char →
    Except Flaw (List Member × List Char)
  | 0, _, _ => .error .unclosedSet
  | fuel + 1, isFirst, cs =>
    match cs with
    | [] => .error .unclosedSet
    | ']' :: rest =>
      if isFirst then more fuel cs else .ok ([], rest)
    | '[' :: ':' :: rest =>
      match namedMember? ':' rest with
      | none => .error .unclosedSet
      | some (name, rest) =>
        if (inClass? name 'a').isNone then .error .wrongClass
        else (setMembers dialect fuel false rest).map fun (members, rest) =>
          (.named name :: members, rest)
    | _ => more fuel cs
where
  /-- Members from a character on. -/
  more (fuel : Nat) (cs : List Char) : Except Flaw (List Member × List Char) := do
    let (low, rest) ← setChar dialect cs
    match rest with
    | '-' :: ']' :: _ =>
      (setMembers dialect fuel false rest).map fun (members, rest) =>
        (.range low low :: members, rest)
    | '-' :: after =>
      let (high, rest) ← setChar dialect after
      if high < low then throw .wrongRange
      (setMembers dialect fuel false rest).map fun (members, rest) =>
        (.range low high :: members, rest)
    | _ =>
      (setMembers dialect fuel false rest).map fun (members, rest) =>
        (.range low low :: members, rest)

/-- The set after its opening bracket, and what follows it. -/
def setOf (dialect : Dialect) (cs : List Char) : Except Flaw (Regular × List Char) := do
  let (negated, cs) :=
    match cs with
    | '^' :: rest => (true, rest)
    | _ => (false, cs)
  if cs.isEmpty then throw .emptySet
  let (members, rest) ← setMembers dialect (cs.length + 1) true cs
  let body := cs.take (cs.length - rest.length - 1)
  if body.head? = some ':' && body.getLast? = some ':' && 2 < body.length then throw .bareClass
  return (.set negated members, rest)

/-- The limits of a repetition up to a closing sign, and what follows it; none if there are no
limits. -/
def limitsOf? (closing : List Char) (cs : List Char) :
    Option (Nat × Option Nat × List Char) := do
  let numberOf (digits : List Char) : Nat :=
    digits.foldl (fun n c => n * 10 + (c.toNat - 48)) 0
  let first := cs.takeWhile Char.isDigit
  let rest := cs.drop first.length
  let (least, most, rest) ← match rest with
    | ',' :: rest =>
      let second := rest.takeWhile Char.isDigit
      let most := if second.isEmpty then none else some (numberOf second)
      some (numberOf first, most, rest.drop second.length)
    | _ => if first.isEmpty then none else some (numberOf first, some (numberOf first), rest)
  if rest.take closing.length = closing then some (least, most, rest.drop closing.length) else none

/-- The characters of words. -/
def wordMembers : List Member :=
  [.named "alnum", .range '_' '_', .range '\x80' (Char.ofNat 0x10ffff)]

/-- What a letter or a sign after a backslash asks for that both forms know. -/
def special? : Char → Option Regular
  | 'w' => some (.set false wordMembers)
  | 'W' => some (.set true wordMembers)
  | 's' => some (.set false [.named "space"])
  | 'S' => some (.set true [.named "space"])
  | '<' => some .wordFront
  | '>' => some .wordBack
  | 'b' => some .wordEdge
  | 'B' => some .wordInside
  | '\x60' => some .front
  | '\'' => some .back
  | _ => none

/-- The tokens of an expression. `isStart` tells whether an alternative begins here, so many groups
are complete, and so many are open. -/
def tokensOf (dialect : Dialect) : Nat → Bool → Nat → List Nat → List Char →
    Except Flaw (List Token)
  | 0, _, _, _, _ => .ok []
  | fuel + 1, isStart, begun, open_, cs => do
    let go (isStart : Bool) (token : Token) (rest : List Char) : Except Flaw (List Token) :=
      (tokensOf dialect fuel isStart begun open_ rest).map (token :: ·)
    let char (c : Char) (rest : List Char) : Except Flaw (List Token) :=
      go false (.part (.one c)) rest
    let opens (rest : List Char) : Except Flaw (List Token) :=
      (tokensOf dialect fuel true (begun + 1) ((begun + 1) :: open_) rest).map (.opening :: ·)
    let closes (rest : List Char) : Except Flaw (List Token) :=
      match open_ with
      | [] => .error .unopenedGroup
      | _ :: outer => (tokensOf dialect fuel false begun outer rest).map (.closing :: ·)
    let limits (closing : List Char) (rest : List Char) : Except Flaw (List Token) :=
      match limitsOf? closing rest with
      | some (least, most, rest) =>
        if mostRepetitions < max least (most.getD 0) then .error .tooBig
        else if most.any (· < least) then .error .wrongLimits
        else go false (.repeats least most) rest
      | none =>
        let isNumber (c : Char) : Bool := c.isDigit || c = ','
        if (rest.dropWhile isNumber).isEmpty then .error .unclosedLimits else .error .wrongLimits
    let frontMark : Regular := if dialect.byLines then .lineFront else .front
    let backMark : Regular := if dialect.byLines then .lineBack else .back
    match cs with
    | [] => if open_.isEmpty then return [] else throw .unclosedGroup
    | ['\\'] => throw .trailingBackslash
    | '\\' :: c :: rest =>
      if !dialect.extended && c = '(' then opens rest
      else if !dialect.extended && c = ')' then closes rest
      else if !dialect.extended && c = '|' then go true .bar rest
      else if !dialect.extended && c = '\x7b' then
        if isStart then
          if dialect.lenient then limits ['\\', '\x7d'] rest else throw .nothingToRepeat
        else limits ['\\', '\x7d'] rest
      else if !dialect.extended && (c = '+' || c = '?') then
        if isStart then char c rest
        else go false (if c = '+' then .repeats 1 none else .repeats 0 (some 1)) rest
      else if '1' ≤ c && c ≤ '9' then
        let number := c.toNat - 48
        if begun < number || open_.contains number then throw .wrongReference
        else go false (.part (.again number)) rest
      else if c = 'n' && dialect.escapesInSets then char '\n' rest
      else
        match special? c with
        | some r => go false (.part r) rest
        | none => char c rest
    | '[' :: rest =>
      let (members, rest) ← setOf dialect rest
      go false (.part members) rest
    | '.' :: rest => go false (.part .any) rest
    | '*' :: rest =>
      if !isStart then go false (.repeats 0 none) rest
      else if !dialect.extended then char '*' rest
      else if dialect.lenient then go true (.part .empty) rest
      else throw .nothingToRepeat
    | '^' :: rest =>
      if dialect.extended then go true (.part frontMark) rest
      else if isStart then
        match rest with
        | '*' :: rest =>
          (tokensOf dialect fuel false begun open_ rest).map fun more =>
            .part frontMark :: .part (.one '*') :: more
        | _ => go true (.part frontMark) rest
      else char '^' rest
    | '$' :: rest =>
      let isEnd : Bool :=
        match rest with
        | [] | '\\' :: ')' :: _ | '\\' :: '|' :: _ => true
        | _ => false
      if dialect.extended || isEnd then go false (.part backMark) rest else char '$' rest
    | c :: rest =>
      if !dialect.extended then char c rest
      else if c = '(' then opens rest
      else if c = ')' then closes rest
      else if c = '|' then go true .bar rest
      else if c = '+' || c = '?' then
        if !isStart then go false (if c = '+' then .repeats 1 none else .repeats 0 (some 1)) rest
        else if dialect.lenient then go true (.part .empty) rest
        else throw .nothingToRepeat
      else if c = '\x7b' then
        if dialect.lenient then
          match limitsOf? ['\x7d'] rest with
          | some (_, _, after) =>
            if isStart then go true (.part .empty) after else limits ['\x7d'] rest
          | none => char c rest
        else if isStart then throw .nothingToRepeat
        else if (rest.head?.any fun c => c.isDigit || c = ',') || rest.isEmpty then
          limits ['\x7d'] rest
        else throw .nothingToRepeat
      else char c rest

/-- What has been put together of one alternative and those before it. -/
structure Partial where
  /-- The alternatives before this one. -/
  before : Option Regular
  /-- The parts of this alternative, the last one first. -/
  parts : List Regular

/-- The parts of an alternative one after the other. -/
def sequenceOf (parts : List Regular) : Regular :=
  match parts with
  | [] => .empty
  | last :: rest => rest.foldl (fun later part => .seq part later) last

/-- What alternatives are together. -/
def Partial.whole (p : Partial) : Regular :=
  match p.before with
  | none => sequenceOf p.parts
  | some before => .either before (sequenceOf p.parts)

/-- Put tokens together: what is being put together in each open group comes with its number. -/
def assemble : List Token → Nat → Partial → List (Nat × Partial) → Regular
  | [], _, present, _ => present.whole
  | .part r :: rest, begun, present, outer =>
    assemble rest begun { present with parts := r :: present.parts } outer
  | .repeats least most :: rest, begun, present, outer =>
    match present.parts with
    | last :: parts =>
      assemble rest begun { present with parts := .loop least most last :: parts } outer
    | [] => assemble rest begun present outer
  | .bar :: rest, begun, present, outer => assemble rest begun ⟨some present.whole, []⟩ outer
  | .opening :: rest, begun, present, outer =>
    assemble rest (begun + 1) ⟨none, []⟩ ((begun + 1, present) :: outer)
  | .closing :: rest, begun, present, outer =>
    match outer with
    | (number, around) :: outer =>
      let group := Regular.group number present.whole
      assemble rest begun { around with parts := group :: around.parts } outer
    | [] => assemble rest begun present outer

/-- The expression that a text writes. -/
def read (dialect : Dialect) (cs : List Char) : Except Flaw Regular := do
  let tokens ← tokensOf dialect (cs.length + 1) true 0 [] cs
  return assemble tokens 0 ⟨none, []⟩ []

end ConfigTemplate.Shell.Regular
