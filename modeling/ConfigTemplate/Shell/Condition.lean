import ConfigTemplate.Shell.Format
import ConfigTemplate.Shell.Storage

/-!
# Conditions

The conditions that a shell can test: whether texts are equal or empty, how numbers compare, and
what lies at a location. An argument is an operator or an operand depending on those around it.
-/

namespace ConfigTemplate.Shell.Condition

open Text (Bytes)

/-- Bytes as the name of an operator. -/
def nameOf (b : Bytes) : String := String.ofList (charsOf b)

/-- The operators with one operand. -/
def unaryNames : List String :=
  ["-r", "-w", "-x", "-e", "-f", "-d", "-c", "-b", "-p", "-u", "-g", "-k", "-s", "-t", "-z", "-n",
    "-h", "-O", "-G", "-L", "-S"]

/-- The operators between two operands. -/
def binaryNames : List String :=
  ["=", "!=", "<", ">", "-eq", "-ne", "-ge", "-gt", "-le", "-lt", "-nt", "-ot", "-ef"]

/-- What an argument is. -/
inductive Token where
  | missing
  | unary (name : String)
  | binary (name : String)
  | not
  | and
  | or
  | opening
  | closing
  | operand
  deriving DecidableEq, Repr

/-- Whether an argument is the operator of two operands. -/
def isBinary (argument : Bytes) : Bool := binaryNames.contains (nameOf argument)

/-- Whether an argument that looks like an operator of one operand is an operand itself. -/
def isOperand : List Bytes → Bool
  | [] => true
  | [_] => false
  | next :: _ => isBinary next

/-- What the first of some arguments is. -/
def tokenOf : List Bytes → Token
  | [] => .missing
  | argument :: rest =>
    let name := nameOf argument
    if unaryNames.contains name then (if isOperand rest then .operand else .unary name)
    else if binaryNames.contains name then .binary name
    else
      match name with
      | "!" => .not
      | "-a" => .and
      | "-o" => .or
      | "(" => if rest.isEmpty then .operand else .opening
      | ")" => .closing
      | _ => .operand

/-- Tests of files, and of texts for being empty. -/
def unary (s : State) (name : String) (a : Bytes) : Except String Bool :=
  let found := (Storage.find s a).toOption
  let place := (Storage.place s a true).toOption
  let has (bits : Nat) : Bool :=
    found.isSome && place.any fun place => Storage.modeOf s place &&& bits ≠ 0
  let isDevice (name : String) : Bool :=
    ["/dev/null", "/dev/zero", "/dev/full", "/dev/tty", "/dev/random", "/dev/urandom"].contains name
  match name with
  | "-z" => .ok a.isEmpty
  | "-n" => .ok !a.isEmpty
  | "-e" | "-r" | "-w" | "-O" | "-G" => .ok (found.isSome || isDevice (nameOf a))
  | "-f" =>
    .ok (match found with
      | some (.file _) | some .program => true
      | _ => false)
  | "-d" => .ok (found = some .directory)
  | "-x" => .ok (has 0o111)
  | "-s" =>
    .ok (match found with
      | some (.file content) => !content.isEmpty
      | some .directory | some .program => true
      | _ => false)
  | "-c" => .ok (found = some .sink || isDevice (nameOf a))
  | "-k" => .ok (has 0o1000)
  | "-u" => .ok (has 0o4000)
  | "-g" => .ok (has 0o2000)
  | "-h" | "-L" =>
    .ok (((Storage.place s a false).toOption.bind fun place =>
      Entries.get? place s.links).isSome)
  | "-t" =>
    match Number.count? a with
    | some _ => .ok false
    | none => .error s!"Illegal number: {Format.shown a}"
  | _ => .ok false

/-- The order of bytes. -/
def isBefore : Bytes → Bytes → Bool
  | _, [] => false
  | [], _ :: _ => true
  | a :: as, b :: bs => a < b || (a = b && isBefore as bs)

/-- A number, or the complaint that a text is none. -/
def number (a : Bytes) : Except String Int :=
  match Number.decimal? a with
  | some n => .ok n
  | none => .error s!"Illegal number: {Format.shown a}"

/-- Tests of two texts, numbers or files. -/
def binary (s : State) (name : String) (a b : Bytes) : Except String Bool :=
  let compare (test : Int → Int → Bool) : Except String Bool := do
    return test (← number a) (← number b)
  let stamp? (a : Bytes) : Option Int :=
    (Storage.place s a true).toOption.bind fun place =>
      if Storage.isTaken s place then some (Storage.stampOf s place) else none
  let changedAfter (a b : Bytes) : Bool :=
    match stamp? a, stamp? b with
    | some x, some y => y < x
    | _, _ => false
  match name with
  | "=" => .ok (a = b)
  | "!=" => .ok (a ≠ b)
  | "<" => .ok (isBefore a b)
  | ">" => .ok (isBefore b a)
  | "-eq" => compare fun x y => x = y
  | "-ne" => compare fun x y => x ≠ y
  | "-lt" => compare fun x y => x < y
  | "-le" => compare fun x y => x ≤ y
  | "-gt" => compare fun x y => y < x
  | "-ge" => compare fun x y => y ≤ x
  | "-ef" =>
    .ok ((Storage.find s a).toOption.isSome &&
      (Storage.place s a true).toOption = (Storage.place s b true).toOption)
  | "-nt" => .ok (changedAfter a b)
  | "-ot" => .ok (changedAfter b a)
  | _ => .ok false

mutual

/-- Conditions of which one has to hold, from the first argument on. What comes back begins with
the last argument that was used. -/
def disjunction (s : State) : Nat → List Bytes → Except String (Bool × List Bytes)
  | 0, args => .ok (false, args)
  | fuel + 1, args => do
    let (a, used) ← conjunction s fuel args
    match tokenOf (used.drop 1) with
    | .or =>
      let (b, used) ← disjunction s fuel (used.drop 2)
      return (a || b, used)
    | _ => return (a, used)

/-- Conditions that all have to hold. -/
def conjunction (s : State) : Nat → List Bytes → Except String (Bool × List Bytes)
  | 0, args => .ok (false, args)
  | fuel + 1, args => do
    let (a, used) ← negation s fuel args
    match tokenOf (used.drop 1) with
    | .and =>
      let (b, used) ← conjunction s fuel (used.drop 2)
      return (a && b, used)
    | _ => return (a, used)

/-- A condition that may be turned around. -/
def negation (s : State) : Nat → List Bytes → Except String (Bool × List Bytes)
  | 0, args => .ok (false, args)
  | fuel + 1, args => do
    if tokenOf args ≠ .not then primary s fuel args
    else
      match args.drop 1 with
      | [] => return (true, args)
      | rest =>
        let (a, used) ← negation s fuel rest
        return (!a, used)

/-- A single condition. A missing one does not hold. -/
def primary (s : State) : Nat → List Bytes → Except String (Bool × List Bytes)
  | 0, args => .ok (false, args)
  | fuel + 1, args => do
    match tokenOf args, args with
    | .missing, _ | _, [] => return (false, args)
    | .opening, _ :: rest =>
      if tokenOf rest = .closing then return (false, rest)
      let (a, used) ← disjunction s fuel rest
      match tokenOf (used.drop 1) with
      | .closing => return (a, used.drop 1)
      | _ => throw "closing paren expected"
    | .unary name, _ :: rest =>
      match rest with
      | [] => throw s!"{name}: argument expected"
      | operand :: _ => return (← unary s name operand, rest)
    | _, a :: rest =>
      match tokenOf rest, rest with
      | .binary name, _ :: b :: more => return (← binary s name a b, b :: more)
      | .binary name, _ => throw s!"{name}: argument expected"
      | _, _ => return (!a.isEmpty, args)

end

/-- Whether a condition holds that is not one of those that their number of arguments explains. -/
def holdsPlain (s : State) (args : List Bytes) : Except String Bool := do
  let (result, used) ← disjunction s (4 * args.length + 8) args
  match used with
  | last :: _ :: _ =>
    throw (if last.isEmpty then "unexpected operator"
      else s!"{Format.shown last}: unexpected operator")
  | _ => return result

/-- Whether a condition holds; an empty one does not. Three or four arguments may be a condition
between parentheses, or one that is turned around. -/
def holds (s : State) : Nat → List Bytes → Except String Bool
  | 0, _ => .ok false
  | fuel + 1, args => do
    if args.isEmpty then return false
    let isComparison : Bool :=
      match args with
      | [_, op, _] => isBinary op
      | _ => false
    if isComparison then
      match args with
      | [a, op, b] => binary s (nameOf op) a b
      | _ => return false
    else if args.length = 3 || args.length = 4 then
      if args.head? = some [40] && args.getLast? = some [41] then
        holdsPlain s (args.drop 1).dropLast
      else if args.head? = some [33] then
        return !(← holds s fuel (args.drop 1))
      else holdsPlain s args
    else holdsPlain s args

end ConfigTemplate.Shell.Condition
