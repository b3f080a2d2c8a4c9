import ConfigTemplate.Shell.Builtins.Variables
import ConfigTemplate.Shell.Child
import ConfigTemplate.Shell.Programs
import ConfigTemplate.Shell.Search

/-!
# Starting programs

How a shell starts what lies at a path: a program, another shell, or a script, which a first line
may give to a program. What is started works in a process of its own.
-/

namespace ConfigTemplate.Shell.Execute

open Text (Bytes)
open Run (bytesOf textOf)

/-- The names of shells. -/
def shells : List String := ["sh", "dash", "bash"]

/-- The greatest number of bytes of an argument, and of all of them. -/
def longestArgument : Nat := 131071

/-- The greatest number of bytes of all arguments together. -/
def longestArguments : Nat := 2097152

/-- What is known from the arguments of a shell before it begins. -/
structure Opening where
  /-- The letters of its options; `c` for a script among the arguments. -/
  letters : List Char
  rest : List Bytes

/-- Turn options on or off by letters. The letter of a login shell says nothing here. -/
def turned (on : Bool) (letters : List Char) : List Char → List Bytes →
    Except String (List Char × List Bytes)
  | [], rest => .ok (letters, rest)
  | c :: more, rest =>
    let after (c : Char) : List Char :=
      let others := letters.filter (· != c)
      if on || c = 'c' then c :: others else others
    if c = 'o' then
      match rest with
      | [] => turned on letters more []
      | name :: rest =>
        match Entries.get? (textOf name) Builtins.optionNames with
        | some c => turned on (after c) more rest
        | none => .error s!"Illegal option -o {textOf name}"
    else if c = 'l' then turned on letters more rest
    else if c = 'c' || Builtins.optionLetters.contains c then turned on (after c) more rest
    else .error s!"Illegal option -{c}"

/-- The options at the front of a shell's arguments. -/
def openingOf : Nat → List Char → List Bytes → Except String Opening
  | 0, letters, arguments => .ok ⟨letters, arguments⟩
  | fuel + 1, letters, arguments =>
    match arguments with
    | [45] :: rest | [45, 45] :: rest => .ok ⟨letters, rest⟩
    | (45 :: signs) :: rest =>
      match turned true letters (charsOf signs) rest with
      | .error complaint => .error complaint
      | .ok (letters, rest) => openingOf fuel letters rest
    | (43 :: signs) :: rest =>
      match turned false letters (charsOf signs) rest with
      | .error complaint => .error complaint
      | .ok (letters, rest) => openingOf fuel letters rest
    | arguments => .ok ⟨letters, arguments⟩

/-- The variables that programs see. -/
def environment : Run (List (String × Bytes)) := do
  return (← Run.process).bindings.filterMap fun (name, held) =>
    if held.exported then held.value.map fun value => (name, value) else none

/-- Let the process at work be a shell that has just begun. -/
def begin (name : String) (options : List Char) (arguments : List Bytes) : Run Unit := do
  let given ← environment
  let number ← nextNumber
  modify fun s =>
    let p := Process.start name s.files.home given
    { s with
      process := { p with
        number := number
        options := options
        arguments := arguments
        line := 0
        descriptors := s.process.descriptors
        mask := s.process.mask } }
  Builtins.refuseControl
  Run.modifyProcess ({ · with line := 1 })

/-- Run a shell with arguments. A script may be among them, in a file, or what there is to read. -/
def shell (run : Evaluator) (name : String) (arguments : List Bytes) : Run Ending := do
  let refuse (complaint : String) : Run Ending := do
    Run.complainPlain s!"{name}: 0: {complaint}"
    return .exited 2
  match openingOf (arguments.length + 1) [] arguments with
  | .error complaint => refuse complaint
  | .ok ⟨letters, rest⟩ =>
    let options := letters.filter (· != 'c')
    if letters.contains 'c' then
      match rest with
      | [] => refuse "-c requires an argument"
      | text :: rest =>
        begin (rest.head?.elim name textOf) options (rest.drop 1)
        whole run (script run false false text)
    else
      match (if letters.contains 's' then [] else rest) with
      | file :: rest =>
        match ← Storage.read file with
        | .error _ => refuse s!"cannot open {textOf file}: No such file"
        | .ok text =>
          begin (textOf file) options rest
          whole run (script run false true text)
      | [] =>
        begin name ('s' :: options.filter (· != 's')) rest
        let text ← Run.readAll 0
        whole run (script run false true (text.toOption.getD []))

/-- Run a program. It is a failure if something could not be written. -/
def program (name : String) (work : Run Nat) : Run Ending := do
  modify ({ · with writeFault := none })
  let ending : Ending ←
    match ← attempt work with
    | .ok status | .error (.exit status) | .error (.mistake status) | .error (.back status) =>
      pure (.exited (status % 256))
    | .error (.killed signal) => pure (.killed signal)
    | .error _ => pure (.exited 0)
  match (← get).writeFault with
  | none => return ending
  | some fault =>
    modify ({ · with writeFault := none })
    let about :=
      if name = "cat" && fault = .badDescriptor then "standard output" else "write error"
    Run.complainPlain s!"{name}: {about}: {fault.message}"
    return .exited (if name = "sort" || name = "ls" || name = "grep" then 2 else 1)

/-- The program that a script names in its first line, with an argument for it. -/
def interpreter? (content : Bytes) : Option (Bytes × List Bytes) :=
  match content with
  | 35 :: 33 :: rest =>
    let isBlank (b : UInt8) : Bool := b = 32 || b = 9
    let line := (rest.takeWhile (· != 10)).dropWhile isBlank
    let path := line.takeWhile (!isBlank ·)
    let argument :=
      (((line.drop path.length).dropWhile isBlank).reverse.dropWhile isBlank).reverse
    some (path, if argument.isEmpty then [] else [argument])
  | _ => none

/-- Run a program by its name; none if there is no such program. -/
def named? (run : Evaluator) (launch : Launch) (name : String) (shown : Bytes)
    (arguments : List Bytes) : Option (Run Ending) :=
  if shells.contains name then some (shell run (textOf shown) arguments)
  else
    match Programs.find? launch (textOf (Programs.baseOf shown)) name with
    | some work => some (program name (work arguments))
    | none => none

/-- Start what lies at a path, by the name that is given to it, so many scripts for scripts at
most. -/
def startPath (run : Evaluator) (launch : Launch) :
    Nat → Bytes → Bytes → List Bytes → Run (Except Refusal Ending)
  | 0, _, _, _ => return .error .missing
  | fuel + 1, path, shown, arguments => do
    let lengths := (shown :: arguments).map (·.length)
    if lengths.any (longestArgument < ·) || longestArguments < lengths.foldl (· + ·) 0 then
      return .error .tooLong
    let s ← get
    match Storage.place s path true with
    | .error .notDirectory => return .error .notDirectory
    | .error _ => return .error .missing
    | .ok place =>
      match s.files.entry? place with
      | none => return .error .missing
      | some .program =>
        match named? run launch (place.getLast?.getD "") shown arguments with
        | some work => return .ok (← Run.isolated work)
        | none =>
          Run.complainPlain s!"{textOf shown}: no such command here"
          return .ok (.exited 127)
      | some (.file content) =>
        if !Storage.isExecutable s place then return .error .denied
        match interpreter? content with
        | some (other, argument) =>
          startPath run launch fuel other other (argument ++ path :: arguments)
        | none => return .ok (← Run.isolated (shell run "/bin/sh" (path :: arguments)))
      | some _ => return .error .denied

/-- The number of scripts for scripts. -/
def mostScripts : Nat := 8

/-- Launch a program that is looked for in the path, so many programs within programs at most. -/
def launch (run : Evaluator) : Nat → Launch
  | 0, _ => return .error .missing
  | fuel + 1, words => do
    let name := words.headD []
    match ← Search.program (← Search.path) name with
    | .program path => startPath run (launch run fuel) mostScripts path name (words.drop 1)
    | .denied => return .error .denied
    | .missing => return .error .missing

/-- The number of programs within programs. -/
def mostPrograms : Nat := 64

/-- Start a program of a shell: what lies at a path. The status comes back, after a complaint if it
cannot be started. -/
def startCommand (run : Evaluator) (path name : Bytes) (arguments : List Bytes) : Run Ending := do
  match ← startPath run (launch run mostPrograms) mostScripts path name arguments with
  | .ok ending => return ending
  | .error refusal =>
    Run.complain s!"{textOf name}: {refusal.shellMessage}"
    return .exited refusal.status

end ConfigTemplate.Shell.Execute
