import ConfigTemplate.Shell.Builtins.Names
import ConfigTemplate.Shell.Builtins.Signals
import ConfigTemplate.Shell.Builtins.Surroundings
import ConfigTemplate.Shell.Builtins.Text
import ConfigTemplate.Shell.Redirect
import ConfigTemplate.Shell.Start

/-!
# Running commands

What the commands of a script do to the state of a shell. The commands inside a command are run by
an evaluator that is given; running with some fuel uses the evaluator with less of it, so that all
work comes to an end.
-/

namespace ConfigTemplate.Shell

open Text (Bytes)
open Run (bytesOf textOf)

namespace Execute

/-- Run the commands that arguments write. -/
def evaluate (run : Evaluator) (tested : Bool) (arguments : List Bytes) : Run Nat :=
  script run tested false ([32].intercalate arguments)

/-- Run the commands that a file holds. A name without slashes is looked for in the path. -/
def source (run : Evaluator) (arguments : List Bytes) : Run Nat := do
  match (← Builtins.options [] [] arguments).2 with
  | [] => return 0
  | name :: _ =>
    let path ←
      match ← Search.program (← Search.path) name with
      | .program path => pure path
      | _ => if name.contains 47 then pure name else Run.fail s!"{textOf name}: not found"
    match ← Storage.read path with
    | .error _ => Run.fail s!"cannot open {textOf path}: No such file"
    | .ok text =>
      Run.modifyProcess ({ · with speaker := some (textOf path) })
      tryCatch (script run false true text) fun stop =>
        match stop with
        | .back status => return status
        | stop => throw stop

/-- Run a program in place of the shell. -/
def become (run : Evaluator) (arguments : List Bytes) : Run Nat := do
  match arguments with
  | [] => return 0
  | name :: rest =>
    Run.modifyProcess ({ · with traps := [] })
    let ending ←
      match ← Search.program (← Search.path) name with
      | .program path => startCommand run path name rest
      | found => do
        let refusal : Refusal :=
          match found with
          | .denied => .denied
          | _ => .missing
        Run.complain s!"{textOf name}: {refusal.shellMessage}"
        pure (.exited refusal.status)
    match ending with
    | .exited status => throw (.exit status)
    | .killed signal => throw (.killed signal)

/-- The number of a job that a text names. -/
def jobNumber (text : Bytes) : Run Nat :=
  if text.head? = some 37 then Builtins.jobOf (some text) else Builtins.demandNumber text

/-- The shell's own commands by name. -/
def builtin? (run : Evaluator) (tested : Bool) (name : String) : Option Program :=
  match name with
  | ":" | "true" => some fun _ => return 0
  | "false" => some fun _ => return 1
  | "." => some (source run)
  | "eval" => some (evaluate run tested)
  | "exec" => some (become run)
  | "exit" => some Builtins.exit
  | "return" => some Builtins.goBack
  | "break" => some Builtins.leave
  | "continue" => some Builtins.again
  | "shift" => some Builtins.shift
  | "export" => some Builtins.exportVariables
  | "readonly" => some Builtins.fixVariables
  | "unset" => some Builtins.unset
  | "set" => some Builtins.set
  | "trap" => some Builtins.trap
  | "times" => some Builtins.times
  | "[" => some Builtins.bracket
  | "alias" => some Builtins.abbreviate
  | "bg" | "fg" => some Builtins.resume
  | "cd" => some Builtins.changeDirectory
  | "command" => some Builtins.command
  | "echo" => some Builtins.echo
  | "getopts" => some Builtins.stepLetters
  | "hash" => some Builtins.hash
  | "jobs" => some Builtins.jobs
  | "kill" => some Builtins.kill
  | "local" => some Builtins.makeLocal
  | "printf" => some Builtins.printf
  | "pwd" => some Builtins.workingDirectory
  | "read" => some Builtins.read
  | "test" => some Builtins.test
  | "type" => some Builtins.type
  | "ulimit" => some Builtins.limit
  | "umask" => some Builtins.mask
  | "unalias" => some Builtins.unalias
  | "wait" => some fun arguments => do
    wait run jobNumber (← Builtins.options [] [] arguments).2
  | _ => none

/-- The commands whose arguments may be assignments. -/
def takesAssignments : List String := ["export", "readonly", "local", "alias"]

/-- What is known of a simple command when its words are expanded. -/
structure Plan where
  fields : List Bytes
  /-- What the name means. -/
  meaning : Option Meaning
  /-- Whether a mistake in it ends the shell. -/
  isStrict : Bool
  /-- Whether assignments before it remain. -/
  keepsAssignments : Bool
  /-- Whether it is looked for in the standard path. -/
  standard : Bool := false
  /-- Whether the path is another one for this command alone. -/
  hasOwnPath : Bool := false

/-- The fields of the first words that stand for any, and the words after them. -/
def firstFields (outputOf : OutputOf) : List Word → Run (List Bytes × List Word)
  | [] => return ([], [])
  | word :: rest => do
    match ← wordFields outputOf word with
    | [] => firstFields outputOf rest
    | fields => return (fields, rest)

/-- The value of an assignment among arguments; none for a word that is no assignment. -/
def assignedWord? (word : Word) : Option (List Char × Word) :=
  let (name, rest) := plainFront (· = '=') word
  match rest with
  | .text ['='] false :: value =>
    if isName (String.ofList name) then some (name, value) else none
  | _ => none

/-- The fields of arguments, which may be assignments. -/
def argumentFields (outputOf : OutputOf) (assigns : Bool) (words : List Word) :
    Run (List Bytes) := do
  let fields ← words.mapM fun word => do
    match if assigns then assignedWord? word else none with
    | some (name, value) =>
      return [bytesOf (String.ofList name) ++ 61 :: (← valueBytes outputOf value)]
    | none => wordFields outputOf word
  return fields.flatten

/-- What follows the options of a command that runs another one: the fields and words that are left,
and whether it is looked for in the standard path; none if it does not run one. -/
def afterCommand (outputOf : OutputOf) : Nat → List Bytes → List Word → Bool →
    Run (List Bytes × Option (List Bytes × List Word × Bool))
  | 0, fields, _, _ => return (fields, none)
  | fuel + 1, fields, words, standard => do
    let (fields, words) ←
      if fields.isEmpty then firstFields outputOf words else pure (fields, words)
    match fields with
    | [] => return ([], none)
    | [45, 45] :: rest =>
      let (rest, words) ← if rest.isEmpty then firstFields outputOf words else pure (rest, words)
      return (fields, if rest.isEmpty then none else some (rest, words, standard))
    | (45 :: b :: letters) :: rest =>
      if (b :: letters).all (· = 112) then
        let (later, found) ← afterCommand outputOf fuel rest words true
        return ((45 :: b :: letters) :: later, found)
      else return (fields ++ (← argumentFields outputOf false words), none)
    | fields => return (fields, some (fields, words, standard))

/-- Expand the words of a simple command as far as is needed to know what it is, and then all of
them. Some fields may be expanded already. -/
def planOf (outputOf : OutputOf) : Nat → Bool → Bool → List Bytes → List Word → Run Plan
  | 0, _, _, fields, _ =>
    return { fields, meaning := none, isStrict := false, keepsAssignments := false }
  | fuel + 1, isInner, standard, fields, words => do
    let (fields, words) ←
      if fields.isEmpty then firstFields outputOf words else pure (fields, words)
    match fields with
    | [] => return { fields := [], meaning := none, isStrict := false, keepsAssignments := true }
    | name :: given =>
      let path ← if standard then pure Search.standardPath else Search.path
      let means ← meaning isInner path name
      let text := textOf name
      let finish (isStrict keeps : Bool) : Run Plan := do
        let rest ← argumentFields outputOf (takesAssignments.contains text) words
        return {
          fields := fields ++ rest
          meaning := means
          isStrict := isStrict && !isInner
          keepsAssignments := keeps && !isInner
          standard := standard }
      match means with
      | .special => finish true true
      | .ordinary =>
        if text = "command" then
          match ← afterCommand outputOf (given.length + words.length + 1) given words standard with
          | (rest, none) =>
            return {
              fields := name :: rest, meaning := means, isStrict := false
              keepsAssignments := false }
          | (_, some (fields, words, standard)) =>
            planOf outputOf fuel true standard fields words
        else finish (text = "local") false
      | _ => finish false false

/-- A plan with assignments made for its command alone: a program is looked for in the path that it
gets. -/
def Plan.afterAssigning (plan : Plan) (names : List String) : Run Plan := do
  if plan.standard || !names.contains "PATH" then return plan
  match plan.meaning with
  | some (.program _) | some (.none _) =>
    let means : Meaning :=
      match ← Search.program (← Search.path) (plan.fields.headD []) with
      | .program path => .program path
      | found => .none found
    return { plan with meaning := means, hasOwnPath := true }
  | _ => return plan

/-- The number of commands that run other commands in a row. -/
def mostCommands : Nat := 32

/-- The text before commands that are shown. -/
def traceFront (run : Evaluator) : Run Bytes := do
  let text := textOf ((← Run.valueOf? "PS4").getD [])
  match Reader.quotedPieces text with
  | .error _ => return bytesOf text
  | .ok pieces =>
    let options := (← Run.process).options
    Run.modifyProcess ({ · with options := options.filter (· != 'x') })
    let glyphs ← wordGlyphs (outputOf run) pieces
    Run.modifyProcess ({ · with options := options })
    return joinedBytes glyphs

/-- Show a command if an option asks for that, by the descriptors that the shell had before. -/
def trace (run : Evaluator) (before : List (Nat × Nat)) (assigned : List (String × Bytes))
    (fields : List Bytes) : Run Unit := do
  if (← Run.process).options.contains 'x' then
    let front ← traceFront run
    let texts := assigned.map fun (name, value) => bytesOf (name ++ "=") ++ value
    let now := (← Run.process).descriptors
    Run.modifyProcess ({ · with descriptors := before })
    Run.write 2 (front ++ [32].intercalate (texts ++ fields) ++ [10])
    Run.modifyProcess ({ · with descriptors := now })

/-- Run one of the shell's own commands. A mistake ends the shell if the command is strict. -/
def runBuiltin (work : Program) (isStrict : Bool) (name : String) (arguments : List Bytes) :
    Run Nat := do
  let before ← Run.process
  Run.modifyProcess ({ · with speaker := some name })
  let restore : Run Unit :=
    Run.modifyProcess ({ · with speaker := before.speaker })
  let status ← tryCatch (work arguments) fun stop => do
    match stop with
    | .mistake status =>
      if isStrict then
        restore
        throw stop
      else
        Run.modifyProcess ({ · with loops := before.loops })
        return status
    | stop =>
      restore
      throw stop
  let fault := (← get).writeFault
  if fault.isSome then
    modify ({ · with writeFault := none })
    Run.modifyProcess ({ · with speaker := some name })
    Run.complain s!"{name}: I/O error"
  restore
  return if fault.isSome then status ||| 1 else status

/-- Run a function with arguments. -/
def callFunction (run : Evaluator) (tested : Bool) (body : Command) (arguments : List Bytes) :
    Run Nat := do
  let before ← Run.process
  let restore : Run Unit :=
    Run.modifyProcess ({ · with
      arguments := before.arguments
      loops := before.loops
      letterIndex := before.letterIndex
      letterPlace := before.letterPlace })
  Run.modifyProcess ({ · with
    arguments := arguments, loops := 0, letterIndex := 1, letterPlace := 0 })
  let status ← tryCatch (Run.inFrame (run tested body)) fun stop =>
    match stop with
    | .back status => return status
    | stop => do
      restore
      throw stop
  restore
  return status

/-- Run what a name means. -/
def invoke (run : Evaluator) (tested : Bool) (plan : Plan) (name : Bytes)
    (arguments : List Bytes) : Run Nat := do
  let text := textOf name
  match plan.meaning with
  | some (.function body) => callFunction run tested body arguments
  | some .special | some .ordinary =>
    match builtin? run tested text with
    | some work => runBuiltin work plan.isStrict text arguments
    | none => return 0
  | some (.program path) =>
    if !plan.hasOwnPath then Search.remember name path
    let ending ← startCommand run path name arguments
    performDue run
    statusOf ending
  | some (.none found) =>
    Run.complain s!"{text}: {found.complaint}"
    return 127
  | none => return (← Run.process).outputStatus

/-- Assign the values of words to variables; before most commands for the time of the command
alone, so that programs see them. -/
def assignAll (run : Evaluator) (keeps : Bool) (assignments : List (String × Word)) :
    Run (List (String × Bytes)) :=
  assignments.mapM fun (name, word) => do
    let value ← valueBytes (outputOf run) word
    if !keeps then Run.makeLocal name
    Run.assign name value
    if !keeps then Run.exportVariable name
    return (name, value)

/-- Run a simple command: its words are expanded first, then its redirections are made, then its
assignments. -/
def simple (run : Evaluator) (tested : Bool) (assignments : List (String × Word))
    (words : List Word) (redirections : List Redirection) : Run Nat := do
  Run.modifyProcess ({ · with outputStatus := 0 })
  let plan ← planOf (outputOf run) mostCommands false false [] words
  let before := (← Run.process).descriptors
  let name := plan.fields.headD []
  let restore : Run Unit := Run.modifyProcess ({ · with descriptors := before })
  let isOpen ← tryCatch (Redirect.performAll (outputOf run) redirections) fun stop => do
    restore
    throw stop
  if !isOpen then
    restore
    if plan.isStrict then throw (.mistake 2) else return 2
  let work : Run Nat := do
    let assigned ← assignAll run plan.keepsAssignments assignments
    trace run before assigned plan.fields
    let plan ← plan.afterAssigning (assigned.map (·.1))
    invoke run tested plan name (plan.fields.drop 1)
  let status ← tryCatch
    (if assignments.isEmpty || plan.keepsAssignments then work else Run.inFrame work)
    fun stop => do
      restore
      throw stop
  if textOf name != "exec" then restore
  return status

/-- Run stages so that each one reads what the one before it writes. -/
def stages (run : Evaluator) (tested : Bool) : List Command → Run Nat
  | [] => return 0
  | [last] => do statusOf (← child run (run tested last))
  | stage :: rest => do
    let number ← Run.openChannel (.pipe [])
    let ending ← child run do
      Run.connect 1 number
      run tested stage
    performInto run number
    let _ ← statusOf ending
    Run.withDescriptors do
      Run.connect 0 number
      stages run tested rest

/-- Run a pipe. -/
def pipe (run : Evaluator) (tested negated : Bool) (commands : List Command) : Run Nat := do
  let status ←
    match commands with
    | [single] => run (tested || negated) single
    | commands => stages run (tested || negated) commands
  if negated then settled true (if status = 0 then 1 else 0) else settled tested status

/-- Work inside a loop. -/
def inLoop {α : Type} (work : Run α) : Run α := do
  Run.modifyProcess fun p => { p with loops := p.loops + 1 }
  let leave : Run Unit := Run.modifyProcess fun p => { p with loops := p.loops - 1 }
  let result ← tryCatch work fun stop => do
    leave
    throw stop
  leave
  return result

/-- Run the body of a loop once: its status, and whether the loop goes on. -/
def round (body : Run Nat) : Run (Nat × Bool) :=
  tryCatch (do return (← body, true)) fun stop =>
    match stop with
    | .leave loops => if loops ≤ 1 then return (0, false) else throw (.leave (loops - 1))
    | .again loops => if loops ≤ 1 then return (0, true) else throw (.again (loops - 1))
    | stop => throw stop

/-- Run a loop as long as its condition says, so many rounds at most. -/
def rounds (condition : Run Bool) (body : Run Nat) : Nat → Nat → Run Nat
  | 0, status => return status
  | count + 1, status => do
    let (checked, goesOn) ← round do return if ← condition then 1 else 0
    if !goesOn then return status
    if checked = 0 then return status
    let (status, goesOn) ← round body
    if goesOn then rounds condition body count status else return status

/-- Run a loop's body for each value of a variable. -/
def each (name : String) (body : Run Nat) : List Bytes → Nat → Run Nat
  | [], status => return status
  | value :: rest, _ => do
    Run.assign name value
    let (status, goesOn) ← round body
    if goesOn then each name body rest status else return status

/-- Whether one of some words matches a text as a pattern. -/
def anyMatches (outputOf : OutputOf) (subject : List Char) : List Word → Run Bool
  | [] => return false
  | word :: rest => do
    let pattern := patternOf (← wordGlyphs outputOf (← withHome false word))
    if isMatch pattern subject then return true else anyMatches outputOf subject rest

/-- The command of the first case that matches a text. -/
def caseOf? (outputOf : OutputOf) (subject : List Char) :
    List (List Word × Command) → Run (Option Command)
  | [] => return none
  | (patterns, body) :: rest => do
    if ← anyMatches outputOf subject patterns then return some body
    else caseOf? outputOf subject rest

/-- Run a command by an evaluator for the commands inside it, loops for so many rounds at most. -/
def step (limit : Nat) (run : Evaluator) (tested : Bool) (command : Command) : Run Nat := do
  match command with
  | .simple line assignments words redirections =>
    Run.modifyProcess ({ · with line := line })
    settled tested (← simple run tested assignments words redirections)
  | .pipe negated commands => pipe run tested negated commands
  | .and first second =>
    let status ← run true first
    if status = 0 then run tested second else return status
  | .or first second =>
    let status ← run true first
    if status = 0 then return status else run tested second
  | .sequence commands =>
    commands.foldlM (fun _ command => run tested command) (← Run.process).status
  | .subshell body =>
    settled tested (← statusOf (← child run (run tested body)))
  | .redirected body redirections =>
    let before := (← Run.process).descriptors
    let restore : Run Unit := Run.modifyProcess ({ · with descriptors := before })
    let status ← tryCatch (do
      if ← Redirect.performAll (outputOf run) redirections then run tested body else return 2)
      fun stop => do
        restore
        throw stop
    restore
    settled true status
  | .branch condition body otherwise =>
    if (← run true condition) = 0 then run tested body
    else
      match otherwise with
      | .sequence [] => settled true 0
      | otherwise => run tested otherwise
  | .loop negated condition body =>
    let goesOn : Run Bool := do return ((← run true condition) = 0) != negated
    settled true (← inLoop (rounds goesOn (run tested body) limit 0))
  | .each name words body =>
    let values ←
      match words with
      | some words => argumentFields (outputOf run) false words
      | none => do pure (← Run.process).arguments
    settled true (← inLoop (each name (run tested body) values 0))
  | .select word cases =>
    let subject ← wordBytes (outputOf run) word
    match ← caseOf? (outputOf run) (charsOf subject) cases with
    | some (.sequence []) | none => settled true 0
    | some body => run tested body
  | .define name body =>
    Run.modifyProcess fun p => { p with functions := Entries.put name body p.functions }
    settled true 0
  | .background line body =>
    Run.modifyProcess ({ · with line := line })
    background body

/-- Run a command, unless an option says that none is run, and do what is to be done about signals
that have come meanwhile. -/
def noticed (limit : Nat) (run : Evaluator) : Evaluator := fun tested command => do
  let p ← Run.process
  if p.options.contains 'n' then return p.status
  let status ← step limit run tested command
  if !(← get).pending.isEmpty then attend run
  return status

/-- Run a command with some fuel. -/
def withFuel : Nat → Evaluator
  | 0 => fun _ _ => throw (.killed 11)
  | fuel + 1 => noticed (fuel + 1) (withFuel fuel)

end Execute

end ConfigTemplate.Shell
