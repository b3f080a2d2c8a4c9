import ConfigTemplate.Shell.Programs.Editing.Script

/-!
# Reading editing scripts

How a script is written: addresses, a letter for what is done, and what the letter needs, one step
after the other between semicolons and ends of lines.
-/

namespace ConfigTemplate.Shell.Programs.Editing

open Text (Bytes)
open Run (bytesOf textOf)

/-- The letters after an expression in an address. -/
def addressLetters : List Char → Bool × Bool × List Char
  | 'I' :: rest =>
    let (_, byLines, rest) := addressLetters rest
    (true, byLines, rest)
  | 'M' :: rest =>
    let (ignoresCase, _, rest) := addressLetters rest
    (ignoresCase, true, rest)
  | rest => (false, false, rest)

/-- The address at the front of a text, if there is one. -/
def addressAt (extended isSecond : Bool) (cs : List Char) :
    Except Mistake (Option Address × List Char) := do
  let expression (delimiter : Char) (rest : List Char) :
      Except Mistake (Option Address × List Char) := do
    match delimited delimiter true rest with
    | none => wrong "unterminated address regex" []
    | some (text, rest) =>
      let (ignoresCase, byLines, rest) := addressLetters rest
      return (some (.matching (← patternOf extended ignoresCase byLines text rest)), rest)
  match cs with
  | '$' :: rest => return (some .last, rest)
  | '/' :: rest => expression '/' rest
  | '\\' :: delimiter :: rest => expression delimiter rest
  | '+' :: rest =>
    if !isSecond then return (none, cs)
    match numberAt rest with
    | (some n, rest) => return (some (.further n), rest)
    | _ => wrong "expected number" rest
  | '~' :: rest =>
    if !isSecond then return (none, cs)
    match numberAt rest with
    | (some n, rest) => return (some (.multiple n), rest)
    | _ => wrong "expected number" rest
  | _ =>
    match numberAt cs with
    | (some n, '~' :: rest) =>
      let (step, rest) := numberAt rest
      return (some (.every n (step.getD 0)), rest)
    | (some n, rest) => return (some (.line n), rest)
    | (none, _) => return (none, cs)

/-- The end of a step: nothing, a semicolon, an end of a line, a comment or the end of a block. -/
def stepEnd (cs : List Char) : Except Mistake (List Char) :=
  let rest := cs.dropWhile isBlank
  match rest with
  | [] => .ok []
  | ';' :: rest | '\n' :: rest => .ok rest
  | '}' :: _ | '#' :: _ => .ok rest
  | _ :: rest => wrong "extra characters after command" rest

/-- The name of a label. -/
def labelAt (cs : List Char) : String × List Char :=
  let body := cs.dropWhile isBlank
  let name := body.takeWhile fun c => !isGap c && c ≠ ';' && c ≠ '}'
  (String.ofList name, body.drop name.length)

/-- The name of a file, which takes what is left of the line. -/
def fileNameAt (cs : List Char) : Except Mistake (Bytes × List Char) := do
  let body := cs.dropWhile isBlank
  let name := body.takeWhile (· ≠ '\n')
  if name.isEmpty then wrong "missing filename in r/R/w/W commands" body
  else return (bytesOf (String.ofList name), (body.drop name.length).drop 1)

/-- What the letters after a replacement ask for. -/
structure Flags where
  global : Bool
  prints : Bool
  ignoresCase : Bool
  byLines : Bool
  number : Option Nat
  file : Option Bytes

/-- The letters after a replacement. -/
def flagsAt : Nat → Flags → List Char → Except Mistake (Flags × List Char)
  | 0, flags, cs => .ok (flags, cs)
  | fuel + 1, flags, cs => do
    match cs with
    | 'g' :: rest =>
      if flags.global then wrong "multiple \x60g' options to \x60s' command" rest
      else flagsAt fuel { flags with global := true } rest
    | 'p' :: rest =>
      if flags.prints then wrong "multiple \x60p' options to \x60s' command" rest
      else flagsAt fuel { flags with prints := true } rest
    | 'i' :: rest | 'I' :: rest => flagsAt fuel { flags with ignoresCase := true } rest
    | 'm' :: rest | 'M' :: rest => flagsAt fuel { flags with byLines := true } rest
    | 'e' :: rest => flagsAt fuel flags rest
    | 'w' :: rest =>
      let (name, rest) ← fileNameAt rest
      return ({ flags with file := some name }, rest)
    | c :: rest =>
      if c.isDigit then
        let (n, after) := numberAt cs
        if flags.number.isSome then
          wrong "multiple number options to \x60s' command" rest
        else if n = some 0 then
          wrong "number option to \x60s' command may not be zero" after
        else flagsAt fuel { flags with number := n } after
      else if c = '}' || c = '#' then return (flags, cs)
      else if c = ';' || c = '\n' then return (flags, rest)
      else if isBlank c then
        let more := rest.dropWhile isBlank
        match more with
        | d :: _ =>
          if d.isDigit && flags.number.isSome then
            wrong "multiple number options to \x60s' command" (more.drop 1)
          else flagsAt fuel flags more
        | [] => return (flags, [])
      else wrong "unknown option to \x60s'" rest
    | [] => return (flags, [])

/-- A replacement after its letter. -/
def substitutionAt (extended : Bool) (cs : List Char) : Except Mistake (Action × List Char) := do
  let unterminated : Mistake := ⟨"unterminated \x60s' command", 0⟩
  match cs with
  | [] | '\n' :: _ | '\\' :: _ => throw unterminated
  | delimiter :: rest =>
    match delimited delimiter true rest with
    | none => throw unterminated
    | some (pattern, rest) =>
      match delimited delimiter false rest with
      | none => throw unterminated
      | some (replacement, rest) =>
        let plain : Flags := ⟨false, false, false, false, none, none⟩
        let (flags, rest) ← flagsAt (rest.length + 1) plain rest
        let pattern ← patternOf extended flags.ignoresCase flags.byLines pattern rest
        let parts := partsOf (replacement.length + 1) [] replacement
        let groups := (pattern.map fun (r, _) => r.groupCount).getD 9
        let greatest := greatestGroup parts
        if groups < greatest then
          wrong ("invalid reference \\" ++ toString greatest ++ " on \x60s' command's RHS") rest
        return (.substitute ⟨pattern, parts, flags.number.getD 1, flags.global, flags.prints,
          flags.file⟩, rest)

/-- The characters of a list between delimiters, with their escapes. -/
def listed : List Char → List Char
  | '\\' :: 'n' :: rest => '\n' :: listed rest
  | '\\' :: 't' :: rest => '\t' :: listed rest
  | '\\' :: '\\' :: rest => '\\' :: listed rest
  | c :: rest => c :: listed rest
  | [] => []

/-- An exchange of characters after its letter. -/
def exchangeAt (cs : List Char) : Except Mistake (Action × List Char) := do
  let unterminated : Mistake := ⟨"unterminated \x60y' command", 0⟩
  match cs with
  | [] => throw unterminated
  | delimiter :: rest =>
    match delimited delimiter false rest with
    | none => throw unterminated
    | some (first, rest) =>
      match delimited delimiter false rest with
      | none => throw unterminated
      | some (second, rest) =>
        let first := listed first
        let second := listed second
        if first.length ≠ second.length then
          wrong "strings for \x60y' command are different lengths" rest
        return (.mapChars (first.zip second), ← stepEnd rest)

/-- Where a script goes on after a step, and the step, if it is one. -/
def actionAt (extended : Bool) (letter : Char) (rest : List Char) :
    Except Mistake (Action × List Char) := do
  let plain (action : Action) : Except Mistake (Action × List Char) := do
    return (action, ← stepEnd rest)
  let withText (make : List Char → Action) : Except Mistake (Action × List Char) := do
    match textOf? rest with
    | some (text, rest) => return (make text, rest)
    | none => wrong "expected \\ after \x60a', \x60c' or \x60i'" rest
  let withFile (make : Bytes → Action) : Except Mistake (Action × List Char) := do
    let (name, rest) ← fileNameAt rest
    return (make name, rest)
  let withNumber (make : Option Nat → Action) : Except Mistake (Action × List Char) := do
    let (n, rest) := numberAt (rest.dropWhile isBlank)
    return (make n, ← stepEnd rest)
  match letter with
  | 'p' => plain .print
  | 'P' => plain .printFirst
  | 'd' => plain .delete
  | 'D' => plain .deleteFirst
  | 'n' => plain .nextLine
  | 'N' => plain .joinNext
  | 'h' => plain .hold
  | 'H' => plain .holdMore
  | 'g' => plain .fetch
  | 'G' => plain .fetchMore
  | 'x' => plain .exchange
  | 'z' => plain .clear
  | '=' => plain .number
  | 'F' => plain .fileName
  | 'e' => plain .nothing
  | 'l' => withNumber fun n => .display (n.getD 70)
  | 'L' => withNumber fun _ => .nothing
  | 'q' => withNumber fun n => .quit (n.getD 0) true
  | 'Q' => withNumber fun n => .quit (n.getD 0) false
  | 'v' => return (.nothing, (rest.dropWhile fun c => c ≠ '\n' && c ≠ ';').drop 1)
  | 'a' => withText .append
  | 'i' => withText .insert
  | 'c' => withText .change
  | 'r' => withFile .readFile
  | 'R' => withFile .readLine
  | 'w' => withFile .writeFile
  | 'W' => withFile .writeFirst
  | 's' => substitutionAt extended rest
  | 'y' => exchangeAt rest
  | c => wrong s!"unknown command: \x60{c}'" rest

/-- Read the steps of a script behind those of a draft. -/
def readSteps (extended : Bool) : Nat → Draft → List Char → Except Mistake Draft
  | 0, draft, _ => .ok draft
  | fuel + 1, draft, cs => do
    match cs.dropWhile fun c => isGap c || c = ';' with
    | [] => return draft
    | '#' :: rest => readSteps extended fuel draft (rest.dropWhile (· ≠ '\n'))
    | cs =>
      let (first, rest) ← addressAt extended false cs
      let rest := if first.isSome then rest.dropWhile isBlank else rest
      let (second, rest) ←
        match first, rest with
        | some _, ',' :: more => do
          let more := more.dropWhile isBlank
          match ← addressAt extended true more with
          | (some second, rest) => pure (some second, rest.dropWhile isBlank)
          | (none, rest) => wrong "unexpected \x60,'" (rest.drop 1)
        | _, _ => pure (none, rest)
      let isExpression : Bool :=
        match second with
        | some (.matching _) => true
        | _ => false
      match first with
      | some (.line 0) =>
        if !isExpression then wrong "invalid usage of line address 0" (rest.drop 1)
      | _ => pure ()
      let (negated, rest) :=
        match rest with
        | '!' :: rest => (true, rest.dropWhile isBlank)
        | _ => (false, rest)
      let add (action : Action) : Draft :=
        { draft with steps := draft.steps.push ⟨first, second, negated, action⟩ }
      match rest with
      | [] => wrong "missing command" []
      | '!' :: rest => wrong "multiple \x60!'s" rest
      | '\n' :: rest | ';' :: rest => wrong "missing command" rest
      | '\x7b' :: rest =>
        readSteps extended fuel
          { add (.block 0) with blocks := draft.steps.size :: draft.blocks } rest
      | '\x7d' :: rest =>
        match draft.blocks with
        | [] => wrong "unexpected \x60\x7d'" rest
        | opened :: outer =>
          if first.isSome then wrong "\x7d doesn't want any addresses" rest
          let steps := draft.steps.modify opened fun step =>
            { step with action := .block draft.steps.size }
          readSteps extended fuel { draft with steps := steps, blocks := outer } (← stepEnd rest)
      | ':' :: rest =>
        if first.isSome then wrong ": doesn't want any addresses" rest
        let body := rest.dropWhile isBlank
        let name := body.takeWhile fun c => !isGap c && c ≠ ';'
        if name.isEmpty then wrong "\":\" lacks a label" rest
        readSteps extended fuel
          { draft with labels := (String.ofList name, draft.steps.size) :: draft.labels }
          (body.drop name.length)
      | letter :: rest =>
        if letter = 'b' || letter = 't' || letter = 'T' then
          let (label, rest) := labelAt rest
          let condition : Option Bool :=
            if letter = 'b' then none else some (letter = 't')
          let jump : Jump := ⟨draft.steps.size, label, condition⟩
          readSteps extended fuel
            { add (.jump 0 condition) with jumps := jump :: draft.jumps } (← stepEnd rest)
        else
          if (letter = 'q' || letter = 'Q') && second.isSome then
            wrong "command only uses one address" rest
          let (action, rest) ← actionAt extended letter rest
          readSteps extended fuel (add action) rest

/-- The steps of a draft with its jumps; what is wrong otherwise. -/
def Draft.finish (draft : Draft) : Except String (Array Step) :=
  draft.jumps.foldlM (fun steps jump => do
    let target ←
      if jump.label.isEmpty then pure steps.size
      else
        match Entries.get? jump.label draft.labels with
        | some target => pure target
        | none => throw s!"can't find label for jump to \x60{jump.label}'"
    return steps.modify jump.step fun step =>
      { step with action := .jump target jump.condition }) draft.steps

end ConfigTemplate.Shell.Programs.Editing
