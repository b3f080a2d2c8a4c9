import ConfigTemplate.Shell.Builtins.Variables
import ConfigTemplate.Shell.Programs.Places
import ConfigTemplate.Shell.Search

/-!
# Programs that start others

The programs that run others: with other variables, with arguments that they read, for some time,
or after some time.
-/

namespace ConfigTemplate.Shell.Programs

open Text (Bytes)
open Run (bytesOf textOf)

/-- The place of a variable among those that programs see: variables are kept in 39 lists by a sum
over their names. -/
def bucketOf (name : String) : Nat :=
  let codes := (bytesOf name).map UInt8.toNat
  let sum := codes.headD 0 * 16 + codes.foldl (· + ·) 0
  sum % 39 * 2 + (if name = "PATH" then 0 else 1)

/-- The variables that programs see, in the order in which they see them. -/
def seenVariables : Run (List (String × Bytes)) := do
  let seen := (← Run.process).bindings.filterMap fun (name, held) =>
    if held.exported then held.value.map fun value => (name, value) else none
  return seen.mergeSort fun a b => bucketOf a.1 ≤ bucketOf b.1

/-- Let programs see other variables. -/
def setSeen (shown : List (String × Bytes)) : Run Unit :=
  Run.modifyProcess fun p =>
    { p with
      bindings := (p.bindings.filter fun (_, held) => !held.exported).filter (fun (name, _) =>
        !shown.any (·.1 = name)) ++
          shown.map fun (name, value) => (name, (⟨some value, true, false⟩ : Variable)) }

/-- The status of an ending as a program that started another one gives it. -/
def statusFrom (ending : Ending) : Run Nat := do
  match ending with
  | .exited status => return status
  | .killed signal => throw (.killed signal)

/-- Start a program in one's own place; `refusal` words that it cannot be started. -/
def startInstead (launch : Launch) (words : List Bytes) (refusal : String → String) : Run Nat := do
  match ← launch words with
  | .ok ending => statusFrom ending
  | .error fault => fail fault.status (refusal fault.message)

/-- The name and the value in an assignment. -/
def assignment? (word : Bytes) : Option (String × Bytes) :=
  if word.contains 61 then
    let name := word.takeWhile (· ≠ 61)
    some (textOf name, word.drop (name.length + 1))
  else none

/-- Show variables, or run a program with other ones. -/
def withVariables (launch : Launch) : Program := fun arguments => do
  let manual : Manual :=
    { name := "env"
      choices := [flag 'i' "ignore-environment", flag '0' "null", valued 'u' "unset",
        valued 'C' "chdir", valued 'S' "split-string", flag 'v' "debug"]
      mistake := 125
      anywhere := false }
  let given ← manual.read arguments
  let (bare, operands) :=
    match given.operands with
    | [45] :: rest => (true, rest)
    | operands => (false, operands)
  let split : List Bytes :=
    ((given.value? "S").getD []).splitOnP (fun b => b = 32 || b = 9) |>.filter (!·.isEmpty)
  let operands := split ++ operands
  let seen ← if given.has "i" || bare then pure [] else seenVariables
  let unset := given.options.filterMap fun (key, value) =>
    if key = "u" then some (textOf value) else none
  let seen := seen.filter fun (name, _) => !unset.contains name
  let given' := operands.takeWhile fun word => word.contains 61
  let seen := (given'.filterMap assignment?).foldl (fun all (name, value) =>
    Entries.put name value all) seen
  match given.value? "C" with
  | some directory =>
    match look (← get) directory true with
    | .ok (place, .directory) =>
      modify fun s => { s with files := { s.files with home := place } }
    | .ok _ =>
      fail 125 s!"env: cannot change directory to {straight directory}: Not a directory"
    | .error fault =>
      fail 125 s!"env: cannot change directory to {straight directory}: {fault}"
  | none => pure ()
  match operands.drop given'.length with
  | [] =>
    let ending : UInt8 := if given.has "0" then 0 else 10
    for (name, value) in seen do
      Run.write 1 (bytesOf (name ++ "=") ++ value ++ [ending])
    return 0
  | words =>
    let before ← Run.valueOf? "PATH"
    setSeen seen
    if !(seen.any (·.1 = "PATH")) then
      let path := if before.isSome then Search.standardPath else []
      Run.putVariable "PATH" ⟨some path, false, false⟩
    startInstead launch words fun fault => s!"env: {curly (words.headD [])}: {fault}"

/-- Show the values of variables. -/
def showVariables : Program := fun arguments => do
  let manual : Manual :=
    { name := "printenv"
      choices := [flag '0' "null"]
      mistake := 2
      anywhere := false }
  let given ← manual.read arguments
  let seen ← seenVariables
  let ending : UInt8 := if given.has "0" then 0 else 10
  if given.operands.isEmpty then
    for (name, value) in seen do
      Run.write 1 (bytesOf (name ++ "=") ++ value ++ [ending])
    return 0
  forEach given.operands fun name => do
    match seen.find? (·.1 = textOf name) with
    | some (_, value) =>
      Run.write 1 (value ++ [ending])
      return 0
    | none => return 1

/-- The thousandths of a second that a text asks for. -/
def interval? (text : Bytes) : Option Nat :=
  let cs := (textOf text).toList
  let whole := cs.takeWhile Char.isDigit
  let rest := cs.drop whole.length
  let (fraction, rest) : List Char × List Char :=
    match rest with
    | '.' :: more =>
      let digits := more.takeWhile Char.isDigit
      (digits, more.drop digits.length)
    | _ => ([], rest)
  let factor : Option Nat :=
    match rest with
    | [] | ['s'] => some 1
    | ['m'] => some 60
    | ['h'] => some 3600
    | ['d'] => some 86400
    | _ => none
  if textOf text = "infinity" || textOf text = "inf" then some (Nat.pow 10 12)
  else if whole.isEmpty && fraction.isEmpty then none
  else
    let digits := (whole ++ (fraction ++ ['0', '0', '0']).take 3)
    factor.map (digits.foldl (fun n c => n * 10 + (c.toNat - 48)) 0 * ·)

/-- Let time go by. -/
def sleep : Program := fun arguments => do
  let manual : Manual := { name := "sleep", choices := [] }
  let given ← manual.read arguments
  demand manual 1 given.operands
  let wrong := given.operands.filter fun text => (interval? text).isNone
  if !wrong.isEmpty then
    wrong.forM fun text => Run.complainPlain s!"sleep: invalid time interval {curly text}"
    Run.complainPlain (hint "sleep")
    return 1
  let time := (given.operands.filterMap interval?).foldl (· + ·) 0
  modify fun s => { s with clock := s.clock + time }
  return 0

/-- Run a program for some time at most. -/
def limitTime (launch : Launch) : Program := fun arguments => do
  let manual : Manual :=
    { name := "timeout"
      choices := [valued 's' "signal", valued 'k' "kill-after", flag 'v' "verbose",
        long "preserve-status" .none, long "foreground" .none]
      mistake := 125
      anywhere := false }
  let given ← manual.read arguments
  demand manual 2 given.operands
  let text := given.operands.headD []
  match interval? text with
  | none => misuse manual s!"invalid time interval {curly text}"
  | some limit =>
    let before := (← get).clock
    let words := given.operands.drop 1
    let isOver : Run Bool := do
      let s ← get
      if limit ≠ 0 && before + limit < s.clock then
        set { s with clock := before + limit }
        return true
      else return false
    match ← launch words with
    | .error fault =>
      fail fault.status
        s!"timeout: failed to run command {curly (words.headD [])}: {fault.message}"
    | .ok ending =>
      if ← isOver then return if given.has "preserve-status" then 143 else 124
      match ending with
      | .exited status => return status
      | .killed signal => return 128 + signal

/-- A program that does nothing but run another one after its options. -/
def runner (name : String) (choices : List Choice) (failure skipped : Nat) (launch : Launch) :
    Program := fun arguments => do
  let manual : Manual := { name := name, choices := choices, mistake := failure, anywhere := false }
  let given ← manual.read arguments
  let words := given.operands.drop skipped
  if words.isEmpty then misuse manual "missing operand"
  startInstead launch words fun fault =>
    let shown := if name = "setsid" then textOf (words.headD []) else curly (words.headD [])
    if name = "nice" then s!"nice: {shown}: {fault}"
    else if name = "setsid" then s!"setsid: failed to execute {shown}: {fault}"
    else s!"{name}: failed to run command {shown}: {fault}"

/-- Tell how nice a process is, or run a program that is nicer. -/
def nice (launch : Launch) : Program := fun arguments => do
  if arguments.isEmpty then
    say "0"
    return 0
  runner "nice" [valued 'n' "adjustment"] 125 0 launch arguments

/-- Tell where programs are. -/
def locate : Program := fun arguments => do
  let manual : Manual := { name := "which", choices := flags "as", mistake := 2, anywhere := false }
  let given ← manual.read arguments
  let s ← get
  let path := (← Run.valueOf? "PATH").getD []
  if given.operands.isEmpty then return 1
  forEach given.operands fun name => do
    let candidates :=
      if name.contains 47 then [name]
      else (pathDirectories path).map fun directory =>
        within (if directory.isEmpty then [46] else directory) name
    let found := candidates.filter fun candidate =>
      match look s candidate true with
      | .ok (place, .file _) => Storage.isExecutable s place
      | _ => false
    let found := if given.has "a" then found else found.take 1
    if !given.has "s" then found.forM fun path => Run.write 1 (path ++ [10])
    return if found.isEmpty then 1 else 0

namespace Arguments

/-- The words in a text: blanks and the ends of lines are between them, quotes and backslashes
protect blanks. With each word comes whether it is the last one of its line; a line that ends with
a blank goes on. A quote that is not closed is a fault. -/
def words : Nat → Option Bytes → Option UInt8 → Bytes → Except UInt8 (List (Bytes × Bool))
  | 0, _, _, _ => .ok []
  | _ + 1, _, some quote, [] => .error quote
  | _ + 1, word, none, [] => .ok (word.toList.map (·, true))
  | fuel + 1, word, some quote, b :: rest =>
    if b = quote then words fuel (some (word.getD [])) none rest
    else if b = 10 then .error quote
    else words fuel (some (word.getD [] ++ [b])) (some quote) rest
  | fuel + 1, word, none, b :: rest =>
    if b = 32 || b = 9 then
      let isLast := (rest.dropWhile fun b => b = 32 || b = 9).isEmpty
      match word with
      | none => words fuel none none rest
      | some word => (words fuel none none rest).map ((word, isLast) :: ·)
    else if b = 10 then
      match word with
      | none => words fuel none none rest
      | some word => (words fuel none none rest).map ((word, true) :: ·)
    else if b = 39 || b = 34 then words fuel (some (word.getD [])) (some b) rest
    else if b = 92 then
      match rest with
      | c :: rest => words fuel (some (word.getD [] ++ [c])) none rest
      | [] => words fuel word none []
    else words fuel (some (word.getD [] ++ [b])) none rest

/-- The complaint about a quote that is not closed. -/
def unmatched (quote : UInt8) : String :=
  let name := if quote = 34 then "double" else "single"
  s!"unmatched {name} quote; by default quotes are special to xargs unless you use the -0 option"

/-- Words in groups of so many. -/
def grouped {α : Type} (count : Nat) : Nat → List α → List (List α)
  | 0, _ => []
  | fuel + 1, all =>
    if all.isEmpty then [] else all.take count :: grouped count fuel (all.drop count)

/-- Words in groups of so many lines. -/
def byLines (count : Nat) : List (Bytes × Bool) → Nat → List Bytes → List (List Bytes)
  | [], _, present => if present.isEmpty then [] else [present]
  | (word, isLast) :: rest, lines, present =>
    let present := present ++ [word]
    if isLast then
      if lines + 1 = count then present :: byLines count rest 0 []
      else byLines count rest (lines + 1) present
    else byLines count rest lines present

/-- Words in groups whose lengths stay below a limit. -/
def bySize (limit : Nat) : List Bytes → Nat → List Bytes → List (List Bytes)
  | [], _, present => if present.isEmpty then [] else [present]
  | word :: rest, size, present =>
    let size' := size + word.length + 1
    if limit < size' && !present.isEmpty then
      present :: bySize limit rest (word.length + 1) [word]
    else bySize limit rest size' (present ++ [word])

/-- A text with another one in place of each occurrence of a mark. -/
def replaced (mark new : Bytes) : Nat → Bytes → Bytes
  | 0, text => text
  | _ + 1, [] => []
  | fuel + 1, b :: rest =>
    if !mark.isEmpty && mark.isPrefixOf (b :: rest) then
      new ++ replaced mark new fuel ((b :: rest).drop mark.length)
    else b :: replaced mark new fuel rest

end Arguments

/-- The number of bytes that arguments may take together. -/
def mostArgumentBytes : Nat := 131072

/-- Run a program with the words that there are to read as its arguments. -/
def withArguments (launch : Launch) : Program := fun arguments => do
  let manual : Manual :=
    { name := "xargs"
      choices := [flag '0' "null", valued 'a' "arg-file", valued 'd' "delimiter", valued 'E' "",
        ⟨['e'], "eof", .optional⟩, valued 'I' "", ⟨['i'], "replace", .optional⟩, valued 'L' "",
        ⟨['l'], "max-lines", .optional⟩, valued 'n' "max-args", valued 'P' "max-procs",
        flag 'p' "interactive", flag 'r' "no-run-if-empty", valued 's' "max-chars",
        flag 't' "verbose", flag 'x' "exit", flag 'o' "open-tty"]
      anywhere := false }
  let given ← manual.read arguments
  let numbered (key : String) : Run (Option Nat) := do
    match given.value? key with
    | none => return none
    | some text =>
      match number? text with
      | some 0 => misuse manual s!"value 0 for -{key} option should be >= 1"
      | some n => return some n
      | none => misuse manual s!"invalid number \"{textOf text}\" for -{key} option"
  let most ← numbered "n"
  let lines ← match given.value? "l" with
    | some [] => pure (some 1)
    | some text => pure (number? text)
    | none => numbered "L"
  let limit ← numbered "s"
  let mark : Option Bytes :=
    match given.last? ["I", "i", "L", "l", "n"] with
    | some "I" => given.value? "I"
    | some "i" =>
      (given.value? "i").map fun mark => if mark.isEmpty then bytesOf "\x7b\x7d" else mark
    | _ => none
  let content : Bytes ←
    match given.value? "a" with
    | some name =>
      match ← Storage.read name with
      | .ok content => pure content
      | .error fault => fail 1 s!"xargs: Cannot open input file {curly name}: {fault}"
    | none => do pure ((← Run.readAll 0).toOption.getD [])
  let separator : Option UInt8 :=
    if given.has "0" then some 0
    else (given.value? "d").bind fun text =>
      ((withEscape text).head?)
  let found : List (Bytes × Bool) ←
    match separator, mark with
    | some separator, _ => pure ((partsBy separator content).map (·, true))
    | none, some _ =>
      let all := (linesOf content).map fun line =>
        Arguments.words (line.length + 2) none none
          (line.dropWhile (fun b => b = 32 || b = 9) |>.flatMap fun b =>
            if b = 32 || b = 9 then [92, b] else [b])
      let words ← all.mapM fun words =>
        match words with
        | .ok words => pure words
        | .error kind => fail 1 s!"xargs: {Arguments.unmatched kind}"
      pure (words.flatten.map fun (word, _) => (word, true))
    | none, none =>
      match Arguments.words (content.length + 2) none none content with
      | .ok words => pure words
      | .error kind => fail 1 s!"xargs: {Arguments.unmatched kind}"
  let found : List (Bytes × Bool) :=
    match given.value? "E" with
    | some ending => if ending.isEmpty then found else found.takeWhile (·.1 ≠ ending)
    | none => found
  let command := if given.operands.isEmpty then [bytesOf "echo"] else given.operands
  let words := found.map (·.1)
  let own := (command.map fun word => word.length + 1).foldl (· + ·) 0
  let limit := limit.getD mostArgumentBytes
  if mark.isNone && limit < own then fail 1 "xargs: argument list too long"
  let tooLong := mark.isNone && words.any fun word => limit < own + word.length + 1
  if tooLong then fail 1 "xargs: argument line too long"
  let calls : List (List Bytes) :=
    match mark with
    | some mark =>
      words.map fun word =>
        command.take 1 ++ (command.drop 1).map fun part =>
          Arguments.replaced mark word (part.length + 1) part
    | none =>
      let groups : List (List Bytes) :=
        match given.last? ["n", "L", "l"] with
        | some "n" => Arguments.grouped (most.getD 1) (words.length + 1) words
        | some _ => Arguments.byLines (lines.getD 1) found 0 []
        | none => Arguments.bySize (limit - own) words 0 []
      let groups := if groups.isEmpty && !given.has "r" then [[]] else groups
      groups.map (command ++ ·)
  let (status, _) ← calls.foldlM (fun (status, goesOn) call => do
    if !goesOn then return (status, false)
    if given.has "t" then
      Run.complainPlain (String.intercalate " " (call.map named))
    let nothing ← Run.openChannel ⟨.sink, 0, true, false, false⟩
    let before := (← Run.process).descriptors
    if (given.value? "a").isNone then Run.connect 0 nothing
    let result ← launch call
    Run.modifyProcess ({ · with descriptors := before })
    let name := textOf (call.headD [])
    match result with
    | .error fault =>
      Run.complainPlain s!"xargs: {name}: {fault.message}"
      return (fault.status, false)
    | .ok (.exited 255) =>
      Run.complainPlain s!"xargs: {name}: exited with status 255; aborting"
      return (124, false)
    | .ok (.exited 0) => return (status, true)
    | .ok (.exited _) => return (123, true)
    | .ok (.killed signal) =>
      Run.complainPlain s!"xargs: {name}: terminated by signal {signal}"
      return (125, false)) (0, true)
  return status
where
  /-- The character that a text writes, perhaps by an escape. -/
  withEscape (text : Bytes) : Bytes :=
    match text with
    | [92, 110] => [10]
    | [92, 116] => [9]
    | [92, 48] => [0]
    | [92, 92] => [92]
    | text => text

end ConfigTemplate.Shell.Programs
