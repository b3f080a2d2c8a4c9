import ConfigTemplate.Shell.State
import ConfigTemplate.Shell.Storage

/-!
# What programs have in common

How programs read their options and their files, and how they end with a complaint. The names of
files and the arguments that they complain about are shown between typographic quotes, or as a shell
would read them again.
-/

namespace ConfigTemplate.Shell.Programs

open Text (Bytes)
open Run (bytesOf textOf)

/-- Three octal digits. -/
def octalDigits (n : Nat) : List Char :=
  let digits := Nat.toDigits 8 n
  List.replicate (3 - digits.length) '0' ++ digits

/-- The letters of escapes by the characters that they stand for. -/
def escapeLetters : List (Char × Char) :=
  [('\x07', 'a'), ('\x08', 'b'), ('\x0c', 'f'), ('\n', 'n'), ('\r', 'r'), ('\t', 't'),
    ('\x0b', 'v')]

/-- The escape of a control character; none for other characters. -/
def controlEscape? (c : Char) : Option (List Char) :=
  match escapeLetters.find? (·.1 = c) with
  | some (_, letter) => some ['\\', letter]
  | none =>
    if c < ' ' || c = '\x7f' || Stray.isStray c then some ('\\' :: octalDigits (c.toNat % 256))
    else none

/-- A text between typographic quotes, as some complaints show it. -/
def curly (text : Bytes) : String :=
  let shown := (textOf text).toList.flatMap fun c =>
    if c = '\\' then ['\\', '\\'] else (controlEscape? c).getD [c]
  s!"‘{String.ofList shown}’"

/-- The characters that mean something to a shell. -/
def shellSigns : List Char := " !\"$&()*;<=>[^\x60|'\\?".toList

/-- Whether a character between double quotes stands for itself. -/
def isPlainSign (c : Char) : Bool :=
  c.isAlphanum || " '#~%+,-./:]_@".toList.contains c || 128 ≤ c.toNat

/-- A text between single quotes: what cannot stand there is written as escapes of its own. -/
def singleQuoted : Bool → List Char → List Char
  | _, [] => []
  | escaping, c :: rest =>
    match controlEscape? c with
    | some escape =>
      (if escaping then [] else ['\'', '$', '\'']) ++ escape ++ singleQuoted true rest
    | none =>
      (if escaping then ['\'', '\''] else []) ++
        (if c = '\'' then ['\'', '\\', '\'', '\''] else [c]) ++ singleQuoted false rest

/-- A text between quotes, as a shell would read it. -/
def straight (text : Bytes) : String :=
  let cs := (textOf text).toList
  if cs.contains '\'' && cs.all isPlainSign then "\"" ++ String.ofList cs ++ "\""
  else "'" ++ String.ofList (singleQuoted false cs) ++ "'"

/-- A text as it is, or between quotes if a shell would not read it as it is. -/
def named (text : Bytes) : String :=
  let cs := (textOf text).toList
  let isRisky (c : Char) : Bool := c = ':' || shellSigns.contains c || (controlEscape? c).isSome
  let isAlone := cs = ['\x7b'] || cs = ['\x7d']
  let hasMark := cs.head? = some '#' || cs.head? = some '~'
  if cs.isEmpty || cs.any isRisky || isAlone || hasMark then straight text else textOf text

/-! ### Options, files and complaints -/

/-- Whether an option takes a value. -/
inductive Need where
  | none
  | required
  /-- A value that is written together with the option, if there is one. -/
  | optional
  deriving DecidableEq, Repr

/-- An option: its letters, each of which is the option, its long name if it has one, and whether it
takes a value. It is known by its first letter, or else by its long name. -/
structure Choice where
  letters : List Char
  long : String
  need : Need

/-- What an option is known by. -/
def Choice.key (choice : Choice) : String :=
  match choice.letters with
  | c :: _ => String.singleton c
  | [] => choice.long

/-- Options without values by their letters. -/
def flags (letters : String) : List Choice :=
  letters.toList.map fun c => ⟨[c], "", .none⟩

/-- An option without a value by its letter and its long name. -/
def flag (letter : Char) (long : String) : Choice := ⟨[letter], long, .none⟩

/-- An option with a value by its letter and its long name. -/
def valued (letter : Char) (long : String) : Choice := ⟨[letter], long, .required⟩

/-- An option by its long name alone. -/
def long (name : String) (need : Need) : Choice := ⟨[], name, need⟩

/-- What a program takes: its name, its options, the status of a mistake, whether options may come
after other arguments, and what is done with an option and its value when it is read. -/
structure Manual where
  name : String
  choices : List Choice
  mistake : Nat := 1
  anywhere : Bool := true
  check : String → Bytes → Run Unit := fun _ _ => pure ()

/-- The options that were given, in order, and the other arguments. -/
structure Given where
  options : List (String × Bytes)
  operands : List Bytes

namespace Given

/-- Whether an option was given. -/
def has (g : Given) (key : String) : Bool := g.options.any (·.1 = key)

/-- The value of an option that was given last. -/
def value? (g : Given) (key : String) : Option Bytes :=
  (g.options.reverse.find? (·.1 = key)).map (·.2)

/-- The option among some that was given last. -/
def last? (g : Given) (keys : List String) : Option String :=
  (g.options.reverse.find? fun (key, _) => keys.contains key).map (·.1)

end Given

/-- End a program with a status. -/
def stop {α : Type} (status : Nat) : Run α := throw (.exit status)

/-- End a program with a complaint. -/
def fail {α : Type} (status : Nat) (text : String) : Run α := do
  Run.complainPlain text
  stop status

/-- The hint at the end of complaints about arguments. -/
def hint (name : String) : String := s!"Try '{name} --help' for more information."

/-- What a program says after a complaint about its arguments. -/
def adviceOf (name : String) : String :=
  match name with
  | "grep" => s!"Usage: {name} [OPTION]... PATTERNS [FILE]...\n{hint name}"
  | "cmp" | "diff" => s!"{name}: {hint name}"
  | _ => hint name

/-- End a program with a complaint about its arguments. -/
def misuse {α : Type} (manual : Manual) (text : String) : Run α :=
  fail manual.mistake s!"{manual.name}: {text}\n{adviceOf manual.name}"

/-- An option with its value, which is looked at, and the arguments that are left. -/
def Manual.taken (manual : Manual) (choice : Choice) (value : Bytes) (rest : List Bytes) :
    Run (List (String × Bytes) × List Bytes) := do
  manual.check choice.key value
  return ([(choice.key, value)], rest)

/-- The options among letters of one argument, and the arguments that are left. -/
def readLetters (manual : Manual) :
    List Char → List Bytes → Run (List (String × Bytes) × List Bytes)
  | [], rest => return ([], rest)
  | c :: more, rest => do
    match manual.choices.find? (·.letters.contains c) with
    | none => misuse manual s!"invalid option -- '{c}'"
    | some choice =>
      let value : Bytes := more.map fun c => UInt8.ofNat c.toNat
      match choice.need with
      | .none =>
        manual.check choice.key []
        let (found, rest) ← readLetters manual more rest
        return ((choice.key, []) :: found, rest)
      | .optional => manual.taken choice value rest
      | .required =>
        if !more.isEmpty then return ← manual.taken choice value rest
        match rest with
        | value :: rest => manual.taken choice value rest
        | [] => misuse manual s!"option requires an argument -- '{c}'"

/-- The option of a long name, which may be shortened, and the arguments that are left. -/
def readLong (manual : Manual) (text : Bytes) (rest : List Bytes) :
    Run (List (String × Bytes) × List Bytes) := do
  let name := textOf (text.takeWhile (· != 61))
  let value : Option Bytes :=
    if text.contains 61 then some ((text.dropWhile (· != 61)).drop 1) else none
  let named := manual.choices.filter fun choice => choice.long != ""
  let found := named.filter (·.long = name)
  let found := if found.isEmpty then named.filter (·.long.startsWith name) else found
  match found with
  | [] => misuse manual s!"unrecognized option '--{textOf text}'"
  | [choice] =>
    match choice.need, value with
    | .none, some _ => misuse manual s!"option '--{choice.long}' doesn't allow an argument"
    | .required, none =>
      match rest with
      | value :: rest => manual.taken choice value rest
      | [] => misuse manual s!"option '--{choice.long}' requires an argument"
    | _, value => manual.taken choice (value.getD []) rest
  | several =>
    let shown := String.join (several.map fun choice => s!" '--{choice.long}'")
    misuse manual s!"option '--{textOf text}' is ambiguous; possibilities:{shown}"

/-- Read the arguments of a program. -/
def readAll (manual : Manual) : Nat → List Bytes → Run Given
  | 0, operands => return ⟨[], operands⟩
  | fuel + 1, arguments => do
    match arguments with
    | [] => return ⟨[], []⟩
    | [45, 45] :: rest => return ⟨[], rest⟩
    | (45 :: 45 :: text) :: rest =>
      let (found, rest) ← readLong manual text rest
      let more ← readAll manual fuel rest
      return { more with options := found ++ more.options }
    | (45 :: b :: letters) :: rest =>
      let cs := (b :: letters).map fun b => Char.ofNat b.toNat
      let (found, rest) ← readLetters manual cs rest
      let more ← readAll manual fuel rest
      return { more with options := found ++ more.options }
    | operand :: rest =>
      if manual.anywhere then
        let more ← readAll manual fuel rest
        return { more with operands := operand :: more.operands }
      else return ⟨[], operand :: rest⟩

/-- The options and the other arguments of a program. -/
def Manual.read (manual : Manual) (arguments : List Bytes) : Run Given :=
  readAll manual (arguments.length + 1) arguments

/-- End a program with a complaint about a value that is none of some words, or short for
several. -/
def refuseValue {α : Type} (manual : Manual) (status : Nat) (option : String) (words : List String)
    (value : Bytes) : Run α :=
  let several := words.filter (·.startsWith (textOf value))
  let kind := if several.length ≤ 1 then "invalid" else "ambiguous"
  let shown := String.join (words.map fun word => s!"\n  - ‘{word}’")
  fail status
    (s!"{manual.name}: {kind} argument {curly value} for ‘--{option}’\nValid arguments are:" ++
      s!"{shown}\n{adviceOf manual.name}")

/-- The word that a value is or is short for, or a complaint. -/
def wordFor (manual : Manual) (status : Nat) (option : String) (words : List String)
    (value : Bytes) : Run String :=
  match words.find? (· = textOf value), words.filter (·.startsWith (textOf value)) with
  | some word, _ | none, [word] => return word
  | _, _ => refuseValue manual status option words value

/-- Complain about a lack of operands if there are fewer than that many. -/
def demand (manual : Manual) (count : Nat) (operands : List Bytes) : Run Unit := do
  if operands.length < count then
    match operands.getLast? with
    | none => misuse manual "missing operand"
    | some last => misuse manual s!"missing operand after {curly last}"

/-- Complain about an operand too many. -/
def demandAtMost (manual : Manual) (count : Nat) (operands : List Bytes) : Run Unit := do
  match operands[count]? with
  | some extra => misuse manual s!"extra operand {curly extra}"
  | none => pure ()

/-- The content of a file, or what there is to read for a hyphen. -/
def contentOf (name : Bytes) : Run (Except String Bytes) := do
  if name = [45] then
    match ← Run.readAll 0 with
    | .ok content => return .ok content
    | .error fault => return .error fault.message
  else Storage.read name

/-- Do something with the content of each file, or with what there is to read if none is named. The
status is one if a file cannot be read. -/
def eachFile (program : String) (failure : Nat) (names : List Bytes)
    (work : Bytes → Bytes → Run Unit) : Run Nat :=
  (if names.isEmpty then [[45]] else names).foldlM (fun status name => do
    match ← contentOf name with
    | .ok content =>
      work name content
      return status
    | .error fault =>
      Run.complainPlain s!"{program}: {named name}: {fault}"
      return failure) 0

/-- The contents of files one after the other, and the status. -/
def contents (program : String) (failure : Nat) (names : List Bytes) : Run (Bytes × Nat) :=
  (if names.isEmpty then [[45]] else names).foldlM (fun (all, status) name => do
    match ← contentOf name with
    | .ok content => return (all ++ content, status)
    | .error fault =>
      Run.complainPlain s!"{program}: {named name}: {fault}"
      return (all, failure)) ([], 0)

/-- Do something for each argument; the status is the greatest. -/
def forEach (arguments : List Bytes) (work : Bytes → Run Nat) : Run Nat :=
  arguments.foldlM (fun status argument => do return max status (← work argument)) 0

/-- Work whose output is written at once when it is done. -/
def atOnce (work : Run Nat) : Run Nat := do
  let (status, content) ← Run.capture 1 work
  Run.write 1 content
  return status

/-- The parts of a text that a byte ends, without that byte. -/
def partsBy (ending : UInt8) (text : Bytes) : List Bytes :=
  let parts := text.splitOn ending
  if parts.getLast? = some [] then parts.dropLast else parts

/-- The lines of a text without their ends. -/
def linesOf (text : Bytes) : List Bytes := partsBy 10 text

/-- Lines with their ends. -/
def ofLines (lines : List Bytes) : Bytes := lines.flatMap (· ++ [10])

/-- The parts of a text that a byte ends, with that byte as far as it is there. -/
def brokenBy (ending : UInt8) (text : Bytes) : List Bytes :=
  let parts := partsBy ending text
  if text.getLast? = some ending || parts.isEmpty then parts.map (· ++ [ending])
  else parts.dropLast.map (· ++ [ending]) ++ parts.getLast?.toList

/-- Lines with the ends that they have in a text. -/
def brokenLines (text : Bytes) : List Bytes := brokenBy 10 text

/-- Whether a line has an end. -/
def hasEnd (line : Bytes) : Bool := line.getLast? = some 10

/-- Whether a byte is a digit. -/
def isDigit (b : UInt8) : Bool := 48 ≤ b && b ≤ 57

/-- The number that digits write. -/
def ofDigits (digits : Bytes) : Nat := digits.foldl (fun n b => n * 10 + (b.toNat - 48)) 0

/-- The number that a text of digits writes. -/
def number? (text : Bytes) : Option Nat :=
  if !text.isEmpty && text.all isDigit then some (ofDigits text) else none

/-- The factors of units by their letters: powers of 1024, of 1000 with a further letter. -/
def unit? (text : List Char) : Option Nat :=
  let power (c : Char) : Option Nat :=
    ([('k', 1), ('K', 1), ('m', 2), ('M', 2), ('G', 3), ('T', 4), ('P', 5), ('E', 6)].find?
      (·.1 = c)).map (·.2)
  match text with
  | [] => some 1
  | ['b'] => some 512
  | [c] => (power c).map (Nat.pow 1024)
  | [c, 'B'] => (power c).map (Nat.pow 1000)
  | [c, 'i', 'B'] => (power c).map (Nat.pow 1024)
  | _ => none

/-- The number that digits and a unit write. -/
def amount? (text : Bytes) : Option Nat :=
  let digits := text.takeWhile isDigit
  if digits.isEmpty then none
  else
    (unit? ((text.drop digits.length).map fun b => Char.ofNat b.toNat)).map (ofDigits digits * ·)

/-- A text with blanks before it up to a width. -/
def padLeft (width : Nat) (text : Bytes) : Bytes :=
  List.replicate (width - text.length) 32 ++ text

/-- A text with blanks after it up to a width. -/
def padRight (width : Nat) (text : Bytes) : Bytes :=
  text ++ List.replicate (width - text.length) 32

end ConfigTemplate.Shell.Programs
