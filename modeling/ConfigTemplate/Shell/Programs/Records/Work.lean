import ConfigTemplate.Shell.Programs.Calendar
import ConfigTemplate.Shell.Programs.Records.Memory

/-!
# Working on records

What expressions and statements do. Expressions have values and may change variables, fields, tables
and files; statements are done one after the other until one of them leaves the present rule.
-/

namespace ConfigTemplate.Shell.Programs.Records

open Text (Bytes)
open Run (bytesOf textOf)

/-- A place that can be given a value, once its table and its key are known. -/
inductive Spot where
  | variable (name : String)
  | item (table : Nat) (key : Key)
  | field (number : Nat)

namespace Work

/-- The value at a spot. -/
def valueAt : Spot → Work Value
  | .variable name => valueOf name
  | .item id key => do
    let (v, table) := (← table id).get key
    putTable id table
    return v
  | .field number => field number

/-- Give a spot a value. -/
def putAt (spot : Spot) (v : Value) : Work Unit := do
  match spot with
  | .variable name => putVariable name v
  | .item id key => putTable id ((← table id).put key v)
  | .field number => putField number v

/-- What is left of a number after whole multiples of another one. -/
def remainder (x y : Float) : Float :=
  match Decimal.Parts.ofFloat x, Decimal.Parts.ofFloat y with
  | .zero _, .finite .. => x
  | .zero _, .infinite _ | .finite .., .infinite _ => x
  | .finite negative a, .finite _ b =>
    let low := min a.exponent b.exponent
    let scaled (c : Decimal.Binary) : Nat := c.mantissa * Nat.pow 2 (c.exponent - low).toNat
    let rest := (Float.ofNat (scaled a % scaled b)).scaleB low
    if negative then -rest else rest
  | _, _ => 0.0 / 0.0

/-- The result of an operation. -/
def computed (operation : Operation) (x y : Float) : Float :=
  match operation with
  | .add => x + y
  | .subtract => x - y
  | .multiply => x * y
  | .divide => x / y
  | .remainder => remainder x y
  | .power => x.pow y

/-- Whether a comparison holds. -/
def holds (comparison : Comparison) (order : Option Ordering) : Bool :=
  match comparison with
  | .less => order = some .lt
  | .atMost => order = some .lt || order = some .eq
  | .equal => order = some .eq
  | .different => order ≠ some .eq
  | .atLeast => order = some .gt || order = some .eq
  | .greater => order = some .gt

/-- A number without its fraction. -/
def truncated (x : Float) : Float := if x < 0.0 then x.ceil else x.floor

/-- A part of a text: so many bytes from a place on. -/
def partFrom (text : Bytes) (start : Float) (length : Option Float) : Bytes :=
  let start := bounded start
  let before := if start < 1 then start - 1 else 0
  let rest := text.drop (max start 1 - 1).toNat
  match length with
  | none => rest
  | some length => rest.take (bounded length + before).toNat

/-- The place at which a text begins in another one, counted from one; zero if there is none. -/
def indexOf (part : Bytes) : Nat → Bytes → Nat
  | place, text =>
    if part.isPrefixOf text then place
    else
      match text with
      | [] => 0
      | _ :: rest => indexOf part (place + 1) rest

/-- A replacement: bytes, or the match where there are none. -/
def piecesOf : Nat → Bytes → List (Option UInt8)
  | 0, _ => []
  | _ + 1, [] => []
  | fuel + 1, b :: rest =>
    if b = 92 then
      let marks := (b :: rest).takeWhile (· = 92)
      match (b :: rest).drop marks.length with
      | 38 :: after =>
        let front : List (Option UInt8) := List.replicate (marks.length / 2) (some 92)
        front ++ (if marks.length % 2 = 0 then none else some 38) :: piecesOf fuel after
      | after => marks.map some ++ piecesOf fuel after
    else if b = 38 then none :: piecesOf fuel rest
    else some b :: piecesOf fuel rest

/-- A match put into a replacement. -/
def filledIn (pieces : List (Option UInt8)) (found : Bytes) : Bytes :=
  pieces.flatMap fun
    | none => found
    | some b => [b]

/-- A subject from a place on with matches replaced, and the number of them. `isAfter` tells that a
match ends at the place, so that nothing cannot be matched there. -/
def replacedFrom (x : Regular.Subject) (r : Regular) (pieces : List (Option UInt8))
    (all : Bool) : Nat → Bool → Nat → Bytes × Nat
  | 0, _, place => (bytesIn (x.part place x.chars.size), 0)
  | fuel + 1, isAfter, place =>
    match r.find? x place with
    | none => (bytesIn (x.part place x.chars.size), 0)
    | some found =>
      let between := bytesIn (x.part place found.start)
      let text := bytesIn (x.part found.start found.stop)
      let isEmpty := found.stop = found.start
      let next := bytesIn (x.part found.start (found.start + 1))
      if isEmpty && isAfter && found.start = place then
        if x.chars.size ≤ place then ([], 0)
        else
          let (rest, count) := replacedFrom x r pieces all fuel false (place + 1)
          (next ++ rest, count)
      else if !all then
        (between ++ filledIn pieces text ++ bytesIn (x.part found.stop x.chars.size), 1)
      else if isEmpty then
        if x.chars.size ≤ found.start then (between ++ filledIn pieces text, 1)
        else
          let (rest, count) := replacedFrom x r pieces all fuel false (found.start + 1)
          (between ++ filledIn pieces text ++ next ++ rest, count + 1)
      else
        let (rest, count) := replacedFrom x r pieces all fuel true found.stop
        (between ++ filledIn pieces text ++ rest, count + 1)

/-- A text with its small letters in place of capitals, or the other way round. -/
def cased (toUpper : Bool) (text : Bytes) : Bytes :=
  text.map fun b =>
    if toUpper then if 97 ≤ b && b ≤ 122 then b - 32 else b
    else if 65 ≤ b && b ≤ 90 then b + 32 else b

/-- Values in a format; too few of them end the script. -/
def laidOut (function : String) (whenPartial : Bytes → Work Unit) (format : Bytes)
    (values : List Value) : Work Bytes := do
  let usual ← Work.format
  let (text, fault) := formatted (numberText usual) format values
  let shown := textOf format
  match fault with
  | none => return text
  | some .tooFew =>
    whenPartial text
    fail s!"not enough arguments passed to {function}(\"{shown}\")"
  | some (.improper number) =>
    whenPartial text
    fail s!"improper conversion(number {number}) in {function}(\"{shown}\")"

/-- The next number that looks like chance. -/
def chance : Work Float := do
  let m ← get
  let next := (m.random * 6364136223846793005 + 1442695040888963407) % 18446744073709551616
  set { m with random := next }
  return Float.ofNat (next / 2048) / 9007199254740992.0

/-- The seconds of a moment that numbers write. -/
def secondsOf (text : Bytes) : Value :=
  match (words text).map fun word => bounded (front word) with
  | year :: month :: day :: hour :: minute :: second :: _ =>
    let seconds := ((Calendar.daysTo year month day * 24 + hour) * 60 + minute) * 60 + second
    .number (Float.ofInt seconds)
  | _ => .number (-1.0)

/-- What a function of numbers and texts makes of its arguments. -/
def builtinOf (launch : Launch) (function : String) (arguments : List Value) : Work Value := do
  let number (n : Nat) : Float := (arguments.getD n .nothing).toNumber
  let text (n : Nat) : Work Bytes := textIn (arguments.getD n .nothing)
  match function with
  | "length" =>
    match arguments with
    | [] => return .ofNat (← get).record.length
    | v :: _ => return .ofNat (← textIn v).length
  | "substr" =>
    return .text (partFrom (← text 0) (number 1) ((arguments[2]?).map Value.toNumber))
  | "index" => return .ofNat (indexOf (← text 1) 1 (← text 0))
  | "sprintf" =>
    return .text (← laidOut "sprintf" (fun _ => pure ()) (← text 0) (arguments.drop 1))
  | "sin" => return .number (number 0).sin
  | "cos" => return .number (number 0).cos
  | "atan2" => return .number (Float.atan2 (number 0) (number 1))
  | "exp" => return .number (number 0).exp
  | "log" => return .number (number 0).log
  | "sqrt" => return .number (number 0).sqrt
  | "int" => return .number (truncated (number 0))
  | "rand" => return .number (← chance)
  | "srand" =>
    let m ← get
    let seed := if arguments.isEmpty then Float.ofInt Storage.firstSecond else number 0
    set { m with seed := seed, random := seed.toUInt64.toNat }
    return .number m.seed
  | "tolower" => return .text (cased false (← text 0))
  | "toupper" => return .text (cased true (← text 0))
  | "system" =>
    flushAll
    let command ← text 0
    return .ofNat (← perform (run launch "sh" command none))
  | "close" => return .number (Float.ofInt (← close launch (← text 0)))
  | "fflush" =>
    flushAll
    return .number 0.0
  | "systime" => return .number (Float.ofInt (Storage.now (← perform get)))
  | "strftime" =>
    let format ← if arguments.isEmpty then pure (bytesOf "%c") else text 0
    let present := Storage.now (← perform get)
    let moment := if arguments.length < 2 then present else bounded (number 1)
    return .text (bytesOf (Calendar.shownBy moment (textOf format)))
  | "mktime" => return secondsOf (← text 0)
  | _ => return .nothing

/-- The text of a value that is written. -/
def written (v : Value) : Work Bytes := do
  match v with
  | .number x =>
    return numberText ((← valueOf "OFMT").toText (bytesOf "%.6g")) x
  | v => textIn v

/-- Write to where output goes. -/
def deliver (destination : Option (Bool × Bool × Bytes)) (content : Bytes) : Work Unit := do
  match destination with
  | none => putStandard content
  | some (isCommand, appends, name) => put isCommand appends name content

mutual

/-- The value of an expression. -/
def value (launch : Launch) : Nat → Expression → Work Value
  | 0, _ => fail "out of memory"
  | fuel + 1, e => do
    match e with
    | .number x => return .number x
    | .text content => return .text content
    | .pattern r => return .ofBool ((r.find? (subjectOf (← get).record) 0).isSome)
    | .target place => valueAt (← spot launch fuel place)
    | .group members =>
      match members with
      | [a] => value launch fuel a
      | members => return .text (← joinedKeys launch fuel members)
    | .assign operation place e =>
      match operation with
      | none =>
        let v ← value launch fuel e
        putAt (← spot launch fuel place) v
        return v
      | some operation =>
        let spot ← spot launch fuel place
        let y := (← value launch fuel e).toNumber
        let v := Value.number (computed operation (← valueAt spot).toNumber y)
        putAt spot v
        return v
    | .step isBefore amount place =>
      let spot ← spot launch fuel place
      let x := (← valueAt spot).toNumber
      putAt spot (.number (x + amount))
      return .number (if isBefore then x else x + amount)
    | .choice condition yes no =>
      if (← value launch fuel condition).isTrue then value launch fuel yes else value launch fuel no
    | .either a b =>
      if (← value launch fuel a).isTrue then return .ofBool true
      return .ofBool (← value launch fuel b).isTrue
    | .both a b =>
      if !(← value launch fuel a).isTrue then return .ofBool false
      return .ofBool (← value launch fuel b).isTrue
    | .not a => return .ofBool (!(← value launch fuel a).isTrue)
    | .negative a => return .number (-(← value launch fuel a).toNumber)
    | .positive a => return .number (← value launch fuel a).toNumber
    | .compute operation a b =>
      let x := (← value launch fuel a).toNumber
      let y := (← value launch fuel b).toNumber
      return .number (computed operation x y)
    | .compare comparison a b =>
      let x ← value launch fuel a
      let y ← value launch fuel b
      return .ofBool (holds comparison (compared (← format) x y))
    | .join a b =>
      let x ← textIn (← value launch fuel a)
      let y ← textIn (← value launch fuel b)
      return .text (x ++ y)
    | .matches negated a p =>
      let text ← textIn (← value launch fuel a)
      let r ← patternFor launch fuel p
      return .ofBool ((r.find? (subjectOf text) 0).isSome != negated)
    | .contains keys name =>
      let key ← keyOf launch fuel keys
      let id ← tableOf name
      let table ← table id
      putTable id (table.asked key)
      return .ofBool (table.contains key)
    | .call name arguments => call launch fuel name arguments
    | .builtin function arguments => applied launch fuel function arguments
    | .read source place =>
      let result : Except Int Bytes ←
        match source with
        | .records =>
          match ← nextRecord? with
          | some record => pure (.ok record)
          | none => pure (.error 0)
        | .file name =>
          let name ← textIn (← value launch fuel name)
          readFrom launch false name
        | .command text =>
          let text ← textIn (← value launch fuel text)
          readFrom launch true text
      match result with
      | .error n => return .number (Float.ofInt n)
      | .ok record =>
        match place with
        | some place => putAt (← spot launch fuel place) (ofRead record)
        | none => putRecord record
        return .number 1.0

/-- The spot of a place. -/
def spot (launch : Launch) : Nat → Target → Work Spot
  | 0, _ => fail "out of memory"
  | fuel + 1, place => do
    match place with
    | .variable name => return .variable name
    | .item name keys =>
      let key ← keyOf launch fuel keys
      return .item (← tableOf name) key
    | .field e =>
      let n := bounded (← value launch fuel e).toNumber
      if n < 0 then fail s!"negative field index ${n}"
      return .field n.toNat

/-- The texts of keys as one. -/
def joinedKeys (launch : Launch) : Nat → List Expression → Work Bytes
  | 0, _ => return []
  | fuel + 1, keys => do
    let texts ← keys.mapM fun e => do textIn (← value launch fuel e)
    return (← textOfVariable "SUBSEP").intercalate texts

/-- The key that expressions write. -/
def keyOf (launch : Launch) : Nat → List Expression → Work Key
  | 0, _ => return .text []
  | fuel + 1, keys => do
    match keys with
    | [e] =>
      let v ← value launch fuel e
      match v with
      | .number x =>
        match whole? x with
        | some n => return .whole n
        | none => return .text (← textIn v)
      | v => return .text (← textIn v)
    | keys => return .text (← joinedKeys launch fuel keys)

/-- The pattern that an expression is or writes. -/
def patternFor (launch : Launch) : Nat → Expression → Work Regular
  | 0, _ => return .empty
  | fuel + 1, e => do
    match e with
    | .pattern r => return r
    | e => patternIn (← textIn (← value launch fuel e))

/-- The value of a call. -/
def call (launch : Launch) : Nat → String → List Expression → Work Value
  | 0, _, _ => fail "out of memory"
  | fuel + 1, name, arguments => do
    match (← get).script.functions.find? (·.name = name) with
    | none => return .nothing
    | some function =>
      let slots ← arguments.mapM fun e => do
        match e with
        | .target (.variable name) =>
          match ← slot? name with
          | some (.value .nothing) | none => return Slot.table (← tableOf name)
          | some slot => return slot
        | e => return Slot.value (← value launch fuel e)
      let before := (← get).locals
      let own := function.parameters.zipIdx.map fun (parameter, n) =>
        (parameter, slots.getD n (.value .nothing))
      change fun m => { m with locals := own }
      let result ← attempt (statement launch fuel function.body)
      change fun m => { m with locals := before }
      match result with
      | .ok () => return .nothing
      | .error (.back v) => return v
      | .error leap => throw leap

/-- The value of a function that there is. -/
def applied (launch : Launch) : Nat → String → List Expression → Work Value
  | 0, _, _ => fail "out of memory"
  | fuel + 1, function, arguments => do
    match function, arguments with
    | "length", [.target (.variable name)] =>
      match ← slot? name with
      | some (.table id) => return .ofNat (← table id).size
      | _ => return .ofNat (← textOfVariable name).length
    | "split", e :: .target (.variable name) :: rest =>
      let text ← textIn (← value launch fuel e)
      let divider ←
        match rest with
        | [] => dividerOf (← textOfVariable "FS")
        | .pattern r :: _ => pure (.pattern r)
        | e :: _ => dividerOf (← textIn (← value launch fuel e))
      let parts := partsOf divider text
      putTable (← tableOf name) (if parts.isEmpty then .empty else .ofParts (parts.map ofRead))
      return .ofNat parts.length
    | "match", [e, p] =>
      let text ← textIn (← value launch fuel e)
      let r ← patternFor launch fuel p
      let (start, length) : Nat × Int :=
        match r.find? (subjectOf text) 0 with
        | some found => (found.start + 1, found.stop - found.start)
        | none => (0, -1)
      putVariable "RSTART" (.ofNat start)
      putVariable "RLENGTH" (.number (Float.ofInt length))
      return .ofNat start
    | "sub", p :: e :: rest => replaced launch fuel false p e rest
    | "gsub", p :: e :: rest => replaced launch fuel true p e rest
    | function, arguments =>
      builtinOf launch function (← arguments.mapM (value launch fuel))

/-- Replace matches at a place, or in the record; the number of them comes back. -/
def replaced (launch : Launch) :
    Nat → Bool → Expression → Expression → List Expression → Work Value
  | 0, _, _, _, _ => fail "out of memory"
  | fuel + 1, all, p, e, rest => do
    let r ← patternFor launch fuel p
    let new ← textIn (← value launch fuel e)
    let spot ←
      match rest with
      | .target place :: _ => spot launch fuel place
      | _ => pure (.field 0)
    let x := subjectOf (← textIn (← valueAt spot))
    let (text, count) :=
      replacedFrom x r (piecesOf (new.length + 1) new) all (2 * x.chars.size + 2) false 0
    if count ≠ 0 then putAt spot (.text text)
    return .ofNat count

/-- Do a statement. -/
def statement (launch : Launch) : Nat → Statement → Work Unit
  | 0, _ => fail "out of memory"
  | fuel + 1, s => do
    match s with
    | .expression e =>
      let _ ← value launch fuel e
    | .print values output =>
      let texts ←
        if values.isEmpty then pure [(← get).record]
        else values.mapM fun e => do written (← value launch fuel e)
      let destination ← destinationOf launch fuel output
      let separator ← textOfVariable "OFS"
      deliver destination (separator.intercalate texts ++ (← textOfVariable "ORS"))
    | .printFormatted values output =>
      let values ← values.mapM (value launch fuel)
      let destination ← destinationOf launch fuel output
      let format ← textIn (values.headD .nothing)
      deliver destination (← laidOut "printf" (deliver destination) format (values.drop 1))
    | .block statements =>
      for inner in statements do statement launch fuel inner
    | .choice condition yes no =>
      if (← value launch fuel condition).isTrue then statement launch fuel yes
      else statement launch fuel no
    | .loop asksFirst condition after body => rounds launch fuel asksFirst condition after body
    | .each name table body =>
      let id ← tableOf table
      let (keys, listed) := (← Work.table id).keys
      putTable id listed
      let _ ← keys.foldlM (fun goesOn key => do
        if !goesOn then return false
        putVariable name (.text key)
        match ← attempt (statement launch fuel body) with
        | .ok () | .error .again => return true
        | .error .leave => return false
        | .error leap => throw leap) true
    | .next => throw .next
    | .nextFile => throw .nextFile
    | .exit status =>
      match status with
      | some e =>
        let n := bounded (← value launch fuel e).toNumber
        change fun m => { m with status := (n % 256).toNat }
      | none => pure ()
      throw .exit
    | .back e =>
      match e with
      | some e => throw (.back (← value launch fuel e))
      | none => throw (.back .nothing)
    | .leave => throw .leave
    | .again => throw .again
    | .erase name keys =>
      let id ← tableOf name
      if keys.isEmpty then putTable id .empty
      else
        let key ← keyOf launch fuel keys
        putTable id ((← table id).erase key)

/-- The rounds of a loop. -/
def rounds (launch : Launch) :
    Nat → Bool → Option Expression → Statement → Statement → Work Unit
  | 0, _, _, _, _ => fail "out of memory"
  | fuel + 1, asks, condition, after, body => do
    let goesOn ←
      match asks, condition with
      | true, some e => do pure (← value launch fuel e).isTrue
      | _, _ => pure true
    if goesOn then
      match ← attempt (statement launch fuel body) with
      | .ok () | .error .again =>
        statement launch fuel after
        rounds launch fuel true condition after body
      | .error .leave => return
      | .error leap => throw leap

/-- Where output goes: whether to a command, whether to the end of a file, and its name. -/
def destinationOf (launch : Launch) : Nat → Output → Work (Option (Bool × Bool × Bytes))
  | 0, _ => return none
  | fuel + 1, output => do
    match output with
    | .standard => return none
    | .file e => return some (false, false, ← textIn (← value launch fuel e))
    | .fileEnd e => return some (false, true, ← textIn (← value launch fuel e))
    | .command e => return some (true, false, ← textIn (← value launch fuel e))

end

end Work

end ConfigTemplate.Shell.Programs.Records
