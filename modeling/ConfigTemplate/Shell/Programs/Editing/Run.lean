import ConfigTemplate.Shell.Programs.Editing.Reader
import ConfigTemplate.Shell.Programs.Places

/-!
# Editing lines

The program that edits lines by a script: each line is taken in turn, the steps of the script that
are for it are taken, and what has become of it is written.
-/

namespace ConfigTemplate.Shell.Programs.Editing

open Text (Bytes)
open Run (bytesOf textOf)

/-- A line of some input: its text, whether it has an end, and the file that it is from. -/
structure Line where
  text : List Char
  ended : Bool
  file : Bytes

/-- What is written after the present line. -/
inductive Later where
  | text (cs : List Char)
  | file (name : Bytes)

/-- An editor at work. -/
structure Editor where
  steps : Array Step
  quiet : Bool
  ending : Char
  rest : List Line
  space : List Char
  ended : Bool
  file : Bytes
  held : List Char
  number : Nat
  /-- The ranges that have begun, with the line at which they end if that is known. -/
  ranges : List (Nat × Option Nat)
  /-- The ranges that are over. -/
  closed : List Nat
  replaced : Bool
  used : Pattern
  later : List Later
  /-- What has been written, the last piece first. -/
  written : List (List Char)
  /-- Whether what was written last lacks its end. -/
  isOpen : Bool
  /-- Lines that are read one by one from files, as far as they are left. -/
  readers : List (Bytes × List (List Char))

/-- Work of an editor. -/
abbrev Edit := StateT Editor Run

/-- How a line is left. -/
inductive Exit where
  /-- Write the line and go on with the next one. -/
  | done
  /-- Go on with the next line. -/
  | deleted
  /-- Take the steps again without another line. -/
  | again
  | quit (status : Nat)

/-- Whether there are no further lines. -/
def isLast (e : Editor) : Bool := e.rest.isEmpty

/-- Write a piece. -/
def put (text : List Char) (ended : Bool) : Edit Unit :=
  modify fun e =>
    let front : List Char := if e.isOpen then [e.ending] else []
    let back : List Char := if ended then [e.ending] else []
    { e with written := (front ++ text ++ back) :: e.written, isOpen := !ended }

/-- Write a text whose lines have their ends. -/
def putLines (text : List Char) : Edit Unit :=
  if text.isEmpty then pure ()
  else
    modify fun e =>
      let front : List Char := if e.isOpen then [e.ending] else []
      { e with written := (front ++ text) :: e.written, isOpen := text.getLast? ≠ some '\n' }

/-- Write to the end of a file. -/
def putFile (name : Bytes) (text : List Char) : Edit Unit := do
  if textOf name = "/dev/stdout" then put text true
  else if textOf name = "/dev/stderr" then
    Run.write 2 (bytesOf (String.ofList text ++ "\n"))
  else
    let _ ← (Storage.write name true (bytesOf (String.ofList text ++ "\n")) : Run _)

/-- Write what is to be written after a line. -/
def putLater : Edit Unit := do
  for later in (← get).later do
    match later with
    | .text cs => putLines cs
    | .file name =>
      match ← (contentOf name : Run _) with
      | .ok content => putLines (textOf content).toList
      | .error _ => pure ()
  modify ({ · with later := [] })

/-- Write something after the present line. -/
def addLater (later : Later) : Edit Unit :=
  modify fun e => { e with later := e.later ++ [later] }

/-- Change the pattern space. -/
def changeSpace (change : List Char → List Char) : Edit Unit :=
  modify fun e => { e with space := change e.space }

/-- A character after an exchange of characters. -/
def exchanged (pairs : List (Char × Char)) (c : Char) : Char :=
  ((pairs.find? (·.1 = c)).map (·.2)).getD c

/-- Take the next line; whether there is one comes back. -/
def takeLine : Edit Bool := do
  let e ← get
  match e.rest with
  | [] => return false
  | line :: rest =>
    set { e with
      rest := rest, space := line.text, ended := line.ended, file := line.file
      number := e.number + 1, replaced := false }
    return true

/-- The expression to be used, which may be the one that was used last. -/
def patternFor (pattern : Pattern) : Edit Pattern := do
  match pattern with
  | some found =>
    modify ({ · with used := some found })
    return some found
  | none => return (← get).used

/-- The pattern space as a subject of matches. -/
def subjectOf (space : List Char) (ignoresCase : Bool) : Regular.Subject :=
  ⟨space.toArray, ignoresCase, true⟩

/-- Whether a line is at an address by itself. -/
def isAt (address : Address) : Edit Bool := do
  let e ← get
  match address with
  | .line n => return e.number = n
  | .every first step =>
    return if step = 0 then e.number = first
      else first ≤ e.number && (e.number - first) % step = 0
  | .last => return isLast e
  | .matching pattern =>
    match ← patternFor pattern with
    | some (r, ignoresCase) =>
      return (Regular.find? (subjectOf e.space ignoresCase) r 0).isSome
    | none => (Programs.fail 1 "sed: no previous regular expression" : Run Bool)
  | .further _ | .multiple _ => return false

/-- Whether a step is for the present line. -/
def isChosen (index : Nat) (step : Step) : Edit Bool := do
  match step.first, step.second with
  | none, _ => return true
  | some first, none => isAt first
  | some first, some second =>
    let e ← get
    let close : Edit Unit :=
      modify fun e =>
        { e with
          ranges := e.ranges.filter (·.1 != index)
          closed := index :: e.closed }
    match Entries.get? index e.ranges with
    | some (some stop) =>
      if stop ≤ e.number then close
      return e.number ≤ stop
    | some none =>
      if ← isAt second then close
      return true
    | none =>
      let isZero : Bool :=
        match first with
        | .line 0 => !e.closed.contains index
        | _ => false
      let begins ←
        match first with
        | .line n => pure (n ≤ e.number && !e.closed.contains index)
        | _ => isAt first
      if !begins then return false
      let openUntil (stop : Option Nat) : Edit Unit :=
        modify fun e => { e with ranges := (index, stop) :: e.ranges }
      match second with
      | .line n => if e.number < n then openUntil (some n) else close
      | .further n => if n = 0 then close else openUntil (some (e.number + n))
      | .multiple n =>
        if n = 0 || e.number % n = 0 then close
        else openUntil (some ((e.number / n + 1) * n))
      | _ =>
        openUntil none
        if isZero then
          if ← isAt second then close
      return true

/-- Letters changed as a replacement asks for. -/
def cased (casing : Option Casing) (cs : List Char) : List Char :=
  match casing with
  | some .upper => cs.map Char.toUpper
  | some .lower => cs.map Char.toLower
  | _ => cs

/-- The text of a replacement for a match: how letters are changed from here on, and how the next
letter is changed. -/
def replacement (x : Regular.Subject) (m : Regular.Match) :
    Option Casing → Option Casing → List Part → List Char
  | _, _, [] => []
  | all, one, part :: rest =>
    let emit (text : List Char) : List Char :=
      match cased all text, one with
      | c :: more, some .upper => c.toUpper :: more ++ replacement x m all none rest
      | c :: more, some .lower => c.toLower :: more ++ replacement x m all none rest
      | shown, _ => shown ++ replacement x m all (if shown.isEmpty then one else none) rest
    match part with
    | .text cs => emit cs
    | .group n => emit ((m.group? n).elim [] fun (start, stop) => x.part start stop)
    | .all .ended => replacement x m none none rest
    | .all casing => replacement x m (some casing) one rest
    | .next casing => replacement x m all (some casing) rest

/-- The text with its matches replaced from the one of a number on, and whether there were any. -/
def substituted (x : Regular.Subject) (r : Regular) (s : Substitution) :
    Nat → Nat → Nat → Option Nat → List Char × Bool
  | 0, place, _, _ => (x.part place x.chars.size, false)
  | fuel + 1, place, count, lastStop =>
    match Regular.find? x r place with
    | none => (x.part place x.chars.size, false)
    | some m =>
      let before := x.part place m.start
      let isEmpty := m.start = m.stop
      let step : List Char := if isEmpty then x.part m.stop (m.stop + 1) else []
      let next := if isEmpty then m.stop + 1 else m.stop
      let goOn (count : Nat) : List Char × Bool :=
        if x.chars.size < next then ([], false)
        else substituted x r s fuel next count (some m.stop)
      if isEmpty && lastStop = some m.start then
        let (rest, found) := goOn count
        (before ++ step ++ rest, found)
      else if count < s.first then
        let (rest, found) := goOn (count + 1)
        (before ++ x.part m.start m.stop ++ step ++ rest, found)
      else
        let new := replacement x m none none s.parts
        let (rest, _) : List Char × Bool :=
          if s.global then goOn (count + 1) else (x.part next x.chars.size, false)
        (before ++ new ++ step ++ rest, true)

/-- A character as it is shown. -/
def visible (c : Char) : List Char :=
  if c = '\\' then ['\\', '\\']
  else
    match escapeLetters.find? (·.1 = c) with
    | some (_, letter) => ['\\', letter]
    | none =>
      if ' ' ≤ c && c ≤ '~' then [c]
      else (bytesOf (String.singleton c)).flatMap fun b => '\\' :: octalDigits b.toNat

/-- A text as it is shown, in lines of some width. -/
def displayed (width : Nat) (cs : List Char) : List Char :=
  let pieces := cs.map visible
  let step : List Char × Nat → List Char → List Char × Nat := fun (text, column) piece =>
    if 1 < width && width - 1 < column + piece.length then
      (text ++ ['\\', '\n'] ++ piece, piece.length)
    else (text ++ piece, column + piece.length)
  (pieces.foldl step ([], 0)).1 ++ ['$', '\n']

/-- The first line of a text. -/
def firstLine (cs : List Char) : List Char := cs.takeWhile (· ≠ '\n')

/-- Write the pattern space. -/
def putSpace : Edit Unit := do
  let e ← get
  put e.space e.ended

/-- Leave the script because there are no further lines. -/
def finish (prints : Bool) (status : Nat) : Edit Exit := do
  if prints && !(← get).quiet then putSpace
  putLater
  return .quit status

/-- Take steps from one on; how the line is left comes back. -/
def takeSteps : Nat → Nat → Edit Exit
  | 0, _ => return .done
  | fuel + 1, index => do
    let e ← get
    match e.steps[index]? with
    | none => return .done
    | some step =>
      let chosen := (← isChosen index step) != step.negated
      let goOn : Edit Exit := takeSteps fuel (index + 1)
      if !chosen then
        match step.action with
        | .block stop => takeSteps fuel stop
        | _ => goOn
      else
        let e ← get
        match step.action with
        | .nothing | .block _ => goOn
        | .print =>
          putSpace
          goOn
        | .printFirst =>
          put (firstLine e.space) true
          goOn
        | .delete =>
          changeSpace fun _ => []
          putLater
          return .deleted
        | .deleteFirst =>
          if e.space.contains '\n' then
            set { e with space := e.space.drop ((firstLine e.space).length + 1) }
            putLater
            return .again
          else
            changeSpace fun _ => []
            putLater
            return .deleted
        | .nextLine =>
          if isLast e then
            finish true 0
          else
            if !e.quiet then putSpace
            putLater
            let _ ← takeLine
            goOn
        | .joinNext =>
          if isLast e then
            finish true 0
          else
            putLater
            let _ ← takeLine
            modify fun after =>
              { after with space := e.space ++ e.ending :: after.space, replaced := e.replaced }
            goOn
        | .hold =>
          set { e with held := e.space }
          goOn
        | .holdMore =>
          set { e with held := e.held ++ '\n' :: e.space }
          goOn
        | .fetch =>
          changeSpace fun _ => e.held
          goOn
        | .fetchMore =>
          changeSpace fun space => space ++ '\n' :: e.held
          goOn
        | .exchange =>
          set { e with space := e.held, held := e.space }
          goOn
        | .clear =>
          changeSpace fun _ => []
          goOn
        | .number =>
          putLines (toString e.number ++ "\n").toList
          goOn
        | .fileName =>
          putLines (textOf e.file ++ "\n").toList
          goOn
        | .display width =>
          putLines (displayed width e.space)
          goOn
        | .quit status prints =>
          if prints then finish true status else return .quit status
        | .append text =>
          addLater (.text text)
          goOn
        | .insert text =>
          putLines text
          goOn
        | .change text =>
          let isWithin := (Entries.get? index e.ranges).isSome && !step.negated
          if !isWithin then putLines text
          changeSpace fun _ => []
          putLater
          return .deleted
        | .readFile name =>
          addLater (.file name)
          goOn
        | .readLine name =>
          let lines ←
            match Entries.get? name e.readers with
            | some lines => pure lines
            | none => do
              let content ← (contentOf name : Run _)
              pure ((linesOf (content.toOption.getD [])).map fun line => (textOf line).toList)
          let more : List Later := (lines.take 1).map fun line => .text (line ++ ['\n'])
          modify fun e =>
            { e with
              later := e.later ++ more
              readers := Entries.put name (lines.drop 1) e.readers }
          goOn
        | .writeFile name =>
          putFile name e.space
          goOn
        | .writeFirst name =>
          putFile name (firstLine e.space)
          goOn
        | .jump target condition =>
          match condition with
          | none => takeSteps fuel target
          | some wanted =>
            let replaced := e.replaced
            set { e with replaced := false }
            if replaced = wanted then takeSteps fuel target else goOn
        | .mapChars pairs =>
          changeSpace (List.map (exchanged pairs))
          goOn
        | .substitute s =>
          match ← patternFor s.pattern with
          | none =>
            (Programs.fail 1 "sed: no previous regular expression" : Run Exit)
          | some (r, ignoresCase) =>
            let x := subjectOf e.space ignoresCase
            let (text, found) := substituted x r s (2 * x.chars.size + 4) 0 1 none
            if found then
              modify ({ · with space := text, replaced := true })
              if s.prints then putSpace
              match s.file with
              | some name => putFile name text
              | none => pure ()
            goOn

/-- The number of steps that are taken for a line at most. -/
def mostSteps : Nat := 1000000

/-- Edit all lines, the script being begun anew without another line if `again` says so. The status
comes back if the script asks for the end. -/
def editLines : Nat → Bool → Edit (Option Nat)
  | 0, _ => return none
  | fuel + 1, again => do
    let isThere ← if again then pure true else takeLine
    if !isThere then return none
    match ← takeSteps mostSteps 0 with
    | .quit status => return some status
    | .again => editLines fuel true
    | .deleted => editLines fuel false
    | .done =>
      if !(← get).quiet then putSpace
      putLater
      editLines fuel false

end ConfigTemplate.Shell.Programs.Editing
