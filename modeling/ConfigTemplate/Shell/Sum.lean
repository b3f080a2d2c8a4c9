import ConfigTemplate.Json.Reader

/-!
# Sums

The arithmetic of shells: integers of 64 bits with the usual operators. A name stands for the
number in a variable; an operator may assign to one.
-/

namespace ConfigTemplate.Shell

/-- The operators between two sums. -/
inductive Operator where
  | mul | div | mod | add | sub | shiftLeft | shiftRight | lt | le | gt | ge | eq | ne
  | bitAnd | bitXor | bitOr
  deriving DecidableEq, Repr

/-- A sum. -/
inductive Sum where
  | number (n : Int)
  | name (name : String)
  | negate (a : Sum)
  | complement (a : Sum)
  | not (a : Sum)
  | binary (op : Operator) (a b : Sum)
  | and (a b : Sum)
  | or (a b : Sum)
  | choose (condition a b : Sum)
  | assign (name : String) (op : Option Operator) (a : Sum)
  deriving Repr

namespace Sum

/-- Why a sum has no value. -/
inductive Fault where
  | complaint (text : String)
  /-- A result lies beyond 64 bits, and the machine gives up. -/
  | overflow
  deriving DecidableEq, Repr

/-- A piece of reading a sum. A failure is given by its wording. -/
abbrev Reader := StateT (List Char) (Except String)

/-- The operators by precedence, the tightest first; of those that begin alike, longer ones come
first. -/
def levels : List (List (String × Operator)) :=
  [[("*", .mul), ("/", .div), ("%", .mod)], [("+", .add), ("-", .sub)],
    [("<<", .shiftLeft), (">>", .shiftRight)],
    [("<=", .le), (">=", .ge), ("<", .lt), (">", .gt)], [("==", .eq), ("!=", .ne)],
    [("&", .bitAnd)], [("^", .bitXor)], [("|", .bitOr)]]

/-- The operators that assign. -/
def assigning : List (String × Option Operator) :=
  [("<<=", some .shiftLeft), (">>=", some .shiftRight), ("*=", some .mul), ("/=", some .div),
    ("%=", some .mod), ("+=", some .add), ("-=", some .sub), ("&=", some .bitAnd),
    ("^=", some .bitXor), ("|=", some .bitOr), ("=", none)]

/-- Go past blanks. -/
def skipBlank : Reader Unit := modify fun cs => cs.dropWhile fun c => " \t\n".toList.contains c

/-- Take a sign if it follows. -/
def accept (sign : String) : Reader Bool := do
  skipBlank
  if sign.toList.isPrefixOf (← get) then
    modify (·.drop sign.length)
    return true
  else return false

/-- The first of some signs that follows, which is not part of a longer sign. -/
def acceptOf {α : Type} (signs : List (String × α)) : Reader (Option α) := do
  skipBlank
  let rest ← get
  match signs.find? fun (sign, _) => sign.toList.isPrefixOf rest with
  | none => return none
  | some (sign, value) =>
    let after := rest.drop sign.length
    let isLonger :=
      (after.head? = some '=' && !(["<=", ">=", "==", "!=", "="].contains sign)) ||
        (["&", "|", "<", ">"].contains sign && after.head? = sign.toList.head?) ||
        (["<<", ">>"].contains sign && after.head? = some '=') ||
        (sign = "=" && after.head? = some '=')
    if isLonger then return none
    else
      set after
      return some value

/-- The number that digits write in a base. -/
def numberIn (base : Nat) (digits : List Char) : Int :=
  (digits.foldl (fun n c => n * base + (Json.Reader.hexValue? c).getD 0) 0 : Nat)

/-- The digits of a base at the front of a text. -/
def digitsOf (base : Nat) (cs : List Char) : List Char :=
  cs.takeWhile fun c => (Json.Reader.hexValue? c).any (· < base)

/-- The number that a text begins with, and what follows it: in base ten, in base sixteen after
`0x`, in base two after `0b`, or in base eight after a zero. -/
def numeral (cs : List Char) : Int × List Char :=
  let inBase (base : Nat) (digits after : List Char) : Int × List Char :=
    (numberIn base digits, after)
  match cs with
  | '0' :: x :: rest =>
    let base : Nat :=
      if x = 'x' || x = 'X' then 16 else if x = 'b' || x = 'B' then 2 else 8
    let body := if base = 8 then x :: rest else rest
    match digitsOf base body with
    | [] => (0, x :: rest)
    | digits => inBase base digits (body.drop digits.length)
  | cs =>
    let digits := digitsOf 10 cs
    inBase 10 digits (cs.drop digits.length)

/-- The greatest number. -/
def greatest : Int := Int.pow 2 63 - 1

/-- The number nearest to another one within 64 bits. -/
def clamped (n : Int) : Int := max (-greatest - 1) (min greatest n)

mutual

/-- A sum with signs before it, or one between parentheses. -/
def primary : Nat → Reader Sum
  | 0 => throw "expecting primary"
  | fuel + 1 => do
    skipBlank
    match ← get with
    | '(' :: rest =>
      set rest
      let inner ← assignment fuel
      if ← accept ")" then return inner else throw "expecting ')'"
    | '-' :: rest => set rest; return .negate (← primary fuel)
    | '+' :: rest => set rest; primary fuel
    | '~' :: rest => set rest; return .complement (← primary fuel)
    | '!' :: rest => set rest; return .not (← primary fuel)
    | c :: rest =>
      if c.isDigit then
        let (n, rest) := numeral (c :: rest)
        set rest
        return .number (clamped n)
      else if c.isAlpha || c = '_' then
        let name := (c :: rest).takeWhile fun c => c.isAlphanum || c = '_'
        set ((c :: rest).drop name.length)
        return .name (String.ofList name)
      else throw "expecting primary"
    | [] => throw "expecting primary"

/-- A sum with operators of some levels. -/
def binaryFrom (ops : List (List (String × Operator))) : Nat → Reader Sum
  | 0 => throw "expecting primary"
  | fuel + 1 => do
    match ops with
    | [] => primary fuel
    | level :: tighter =>
      let first ← binaryFrom tighter fuel
      binaryRest level tighter first fuel

/-- A sum with operators of a level after its first part. -/
def binaryRest (level : List (String × Operator)) (tighter : List (List (String × Operator)))
    (first : Sum) : Nat → Reader Sum
  | 0 => throw "expecting primary"
  | fuel + 1 => do
    match ← acceptOf level with
    | some op =>
      let second ← binaryFrom tighter fuel
      binaryRest level tighter (.binary op first second) fuel
    | none => return first

/-- A sum with conjunctions. -/
def conjunction : Nat → Reader Sum
  | 0 => throw "expecting primary"
  | fuel + 1 => do
    let first ← binaryFrom levels.reverse fuel
    if ← accept "&&" then return .and first (← conjunction fuel) else return first

/-- A sum with disjunctions. -/
def disjunction : Nat → Reader Sum
  | 0 => throw "expecting primary"
  | fuel + 1 => do
    let first ← conjunction fuel
    if ← accept "||" then return .or first (← disjunction fuel) else return first

/-- A sum with a choice. -/
def choice : Nat → Reader Sum
  | 0 => throw "expecting primary"
  | fuel + 1 => do
    let condition ← disjunction fuel
    if ← accept "?" then
      let first ← assignment fuel
      if ← accept ":" then return .choose condition first (← choice fuel)
      else throw "expecting ':'"
    else return condition

/-- A sum that may assign. -/
def assignment : Nat → Reader Sum
  | 0 => throw "expecting primary"
  | fuel + 1 => do
    skipBlank
    let before ← get
    let name := before.takeWhile fun c => c.isAlphanum || c = '_'
    if name.head?.any fun c => c.isAlpha || c = '_' then
      set (before.drop name.length)
      match ← acceptOf assigning with
      | some op => return .assign (String.ofList name) op (← assignment fuel)
      | none =>
        set before
        choice fuel
    else choice fuel

end

/-- The sum that a text writes. -/
def ofText (text : List Char) : Except String Sum :=
  let fuel := 16 * text.length + 64
  let read : Reader Sum := do
    let sum ← assignment fuel
    skipBlank
    if (← get).isEmpty then return sum else throw "expecting EOF"
  (read.run text).map (·.1)

/-- A number within 64 bits. -/
def wrapped (n : Int) : Int := Int.bmod n (Nat.pow 2 64)

/-- The bits of a number. -/
def bits (n : Int) : Nat := (Int.emod n (Int.pow 2 64)).toNat

/-- One for what holds, zero for what does not. -/
def truth (b : Bool) : Int := if b then 1 else 0

/-- Why a division has no result. -/
def divisionFault? (a b : Int) : Option Fault :=
  if b = 0 then some (.complaint "division by zero")
  else if b = -1 && a < -greatest then some .overflow
  else none

/-- The value of an operator. -/
def apply (op : Operator) (a b : Int) : Except Fault Int :=
  match op with
  | .mul => .ok (wrapped (a * b))
  | .div =>
    match divisionFault? a b with
    | some fault => .error fault
    | none => .ok (Int.tdiv a b)
  | .mod =>
    match divisionFault? a b with
    | some fault => .error fault
    | none => .ok (Int.tmod a b)
  | .add => .ok (wrapped (a + b))
  | .sub => .ok (wrapped (a - b))
  | .shiftLeft => .ok (wrapped (a * Int.pow 2 (bits b % 64)))
  | .shiftRight => .ok (Int.fdiv a (Int.pow 2 (bits b % 64)))
  | .lt => .ok (truth (a < b))
  | .le => .ok (truth (a ≤ b))
  | .gt => .ok (truth (b < a))
  | .ge => .ok (truth (b ≤ a))
  | .eq => .ok (truth (a = b))
  | .ne => .ok (truth (a ≠ b))
  | .bitAnd => .ok (wrapped (bits a &&& bits b : Nat))
  | .bitXor => .ok (wrapped (bits a ^^^ bits b : Nat))
  | .bitOr => .ok (wrapped (bits a ||| bits b : Nat))

/-- The value of a sum, and the variables that it assigns. `numberOf` is the number in a variable
that no part of the sum has assigned. -/
def value (numberOf : String → Except Fault Int) :
    Sum → StateT (List (String × Int)) (Except Fault) Int
  | number n => return wrapped n
  | name n => do
    match Entries.get? n (← get) with
    | some v => return v
    | none => numberOf n
  | negate a => do return wrapped (-(← value numberOf a))
  | complement a => do return wrapped (-(← value numberOf a) - 1)
  | not a => do return truth ((← value numberOf a) = 0)
  | binary op a b => do
    let x ← value numberOf a
    let y ← value numberOf b
    apply op x y
  | and a b => do
    if (← value numberOf a) = 0 then return 0 else return truth ((← value numberOf b) ≠ 0)
  | or a b => do
    if (← value numberOf a) ≠ 0 then return 1 else return truth ((← value numberOf b) ≠ 0)
  | choose c a b => do
    if (← value numberOf c) ≠ 0 then value numberOf a else value numberOf b
  | assign n op a => do
    let x ← value numberOf a
    let result ←
      match op with
      | none => pure x
      | some op => do
        let present ←
          match Entries.get? n (← get) with
          | some v => pure v
          | none => numberOf n
        apply op present x
    modify (Entries.put n result)
    return result

end Sum

end ConfigTemplate.Shell
