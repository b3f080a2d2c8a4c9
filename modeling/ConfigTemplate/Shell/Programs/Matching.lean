import ConfigTemplate.Shell.Programs.Places
import ConfigTemplate.Shell.Regular.Reader

/-!
# Matching lines

The programs that select the lines of files that match expressions.
-/

namespace ConfigTemplate.Shell.Programs

open Text (Bytes)
open Run (bytesOf textOf)

namespace Matching

/-- What lines are matched with. -/
structure Matcher where
  expressions : List Regular
  ignoresCase : Bool
  /-- Whether a match has to be a whole line, or whole words. -/
  wholeLines : Bool
  wholeWords : Bool

/-- Whether a match does not begin or end within a word. -/
def isWordMatch (x : Regular.Subject) (start stop : Nat) : Bool :=
  !x.wordBefore start && !x.wordAfter stop

/-- Where the longest match ends that begins at a place. -/
def Matcher.endAt? (m : Matcher) (x : Regular.Subject) (place : Nat) : Option Nat :=
  let ends := m.expressions.flatMap fun r =>
    (Regular.ends x (r.refers || m.wholeWords) r ⟨place, []⟩).map (·.place)
  let ends := ends.filter fun stop =>
    (!m.wholeLines || (place = 0 && stop = x.chars.size)) &&
      (!m.wholeWords || isWordMatch x place stop)
  ends.max?

/-- The first match from a place on. -/
def Matcher.find? (m : Matcher) (x : Regular.Subject) (place : Nat) : Option (Nat × Nat) :=
  (List.range' place (x.chars.size + 1 - place)).findSome? fun start =>
    (m.endAt? x start).map fun stop => (start, stop)

/-- The matches of a line that are not empty. -/
def Matcher.all (m : Matcher) (x : Regular.Subject) : Nat → Nat → List (Nat × Nat)
  | 0, _ => []
  | fuel + 1, place =>
    match m.find? x place with
    | none => []
    | some (start, stop) =>
      if start = stop then m.all x fuel (stop + 1) else (start, stop) :: m.all x fuel stop

/-- The expression for a text that stands for itself. -/
def literal (cs : List Char) : Regular :=
  cs.foldr (fun c rest => .seq (.one c) rest) .empty

/-- What is done with a content that is not text. -/
inductive Binary where
  /-- It is only said that it matches. -/
  | told
  /-- It does not match. -/
  | skipped
  /-- It is shown like text. -/
  | shown
  deriving DecidableEq, Repr

/-- How lines are selected and shown. -/
structure Selection where
  matcher : Matcher
  given : Given
  /-- How many lines of context are shown, and how many lines are selected at most. -/
  before : Nat
  after : Nat
  most : Option Nat
  showsName : Bool
  /-- The byte that ends a line. -/
  ending : UInt8
  binary : Binary

/-- A line with its number, its place in bytes, and whether it is selected. -/
structure Numbered where
  number : Nat
  offset : Nat
  line : Bytes
  selected : Bool

/-- The lines of a content with their numbers and places. -/
def Selection.lines (s : Selection) (content : Bytes) : List Numbered :=
  let step : List Numbered × Nat × Nat → Bytes → List Numbered × Nat × Nat :=
    fun (done, number, offset) line =>
      let subject : Regular.Subject := ⟨(textOf line).toList.toArray, s.matcher.ignoresCase, true⟩
      let isMatch := (s.matcher.find? subject 0).isSome
      (⟨number, offset, line, isMatch != s.given.has "v"⟩ :: done, number + 1,
        offset + line.length + 1)
  ((partsBy s.ending content).foldl step ([], 1, 0)).1.reverse

/-- Lines up to a number of selected ones, and the context behind them. -/
def upTo (most after : Nat) : Nat → List Numbered → List Numbered
  | _, [] => []
  | count, l :: rest =>
    if most ≤ count then
      if count = 0 then [] else ((l :: rest).take after).map ({ · with selected := false })
    else l :: upTo most after (if l.selected then count + 1 else count) rest

/-- What stands before a line. -/
def Selection.front (s : Selection) (name : Bytes) (l : Numbered) (offset : Nat) (sign : UInt8) :
    Bytes :=
  (if s.showsName then name ++ [if s.given.has "Z" then 0 else sign] else []) ++
    (if s.given.has "n" then bytesOf (toString l.number) ++ [sign] else []) ++
    (if s.given.has "b" then bytesOf (toString offset) ++ [sign] else []) ++
    (if s.given.has "T" then [9] else [])

/-- Whether a text is not shown since it is none. -/
def Selection.hides (s : Selection) (text : String) : Bool :=
  s.binary ≠ .shown && text.any Stray.isStray

/-- A line behind what stands before it, and whether it is hidden. -/
def Selection.wholeLine (s : Selection) (name : Bytes) (l : Numbered) (sign : UInt8) :
    Bytes × Bool :=
  if s.hides (textOf l.line) then ([], true)
  else (s.front name l l.offset sign ++ l.line ++ [s.ending], false)

/-- What is written for a selected line, and whether some of it is hidden. -/
def Selection.shown (s : Selection) (name : Bytes) (l : Numbered) : Bytes × Bool :=
  if s.given.has "o" then
    if s.given.has "v" then ([], false)
    else
      let subject : Regular.Subject := ⟨(textOf l.line).toList.toArray, s.matcher.ignoresCase, true⟩
      let found := s.matcher.all subject (subject.chars.size + 2) 0
      let texts := found.map fun (start, stop) => (start, String.ofList (subject.part start stop))
      let plain := texts.takeWhile fun (_, text) => !s.hides text
      (plain.flatMap fun (start, text) =>
        let before := bytesOf (String.ofList (subject.part 0 start))
        s.front name l (l.offset + before.length) 58 ++ bytesOf text ++ [s.ending],
        plain.length < texts.length)
  else s.wholeLine name l 58

/-- Whether a line stands near a selected one. -/
def Selection.isNear (s : Selection) (chosen : List Nat) (l : Numbered) : Bool :=
  chosen.any fun n => l.number ≤ n + s.after && n ≤ l.number + s.before

/-- What is written for lines, with their context, and whether some of it is hidden. -/
def Selection.output (s : Selection) (name : Bytes) (lines : List Numbered) : Bytes × Bool :=
  if s.before = 0 && s.after = 0 &&
      !(s.given.options.any fun (key, _) => ["A", "B", "C"].contains key) then
    let parts := (lines.filter (·.selected)).map (s.shown name)
    (parts.flatMap (·.1), parts.any (·.2))
  else
    let chosen := (lines.filter (·.selected)).map (·.number)
    let separator : Bytes :=
      match s.given.last? ["group-separator", "no-group-separator"] with
      | some "group-separator" => ((s.given.value? "group-separator").getD []) ++ [10]
      | some _ => []
      | none => [45, 45, 10]
    let near := lines.filter (s.isNear chosen)
    let step : Bytes × Bool × Option Nat → Numbered → Bytes × Bool × Option Nat :=
      fun (text, hidden, last) l =>
        let gap : Bytes := if last.any (· + 1 < l.number) then separator else []
        let (own, hides) :=
          if l.selected then s.shown name l
          else if s.given.has "o" then ([], false)
          else s.wholeLine name l 45
        (text ++ gap ++ own, hidden || hides, some l.number)
    let (text, hidden, _) := near.foldl step ([], false, none)
    (text, hidden)

/-- Select lines of a content; whether any is selected comes back. A byte of zero, which no text
has, ends a line. -/
def Selection.file (s : Selection) (name content : Bytes) : Run Bool := do
  let hasZeros := s.binary ≠ .shown && s.ending ≠ 0 && content.contains 0
  let lines :=
    if !hasZeros then s.lines content
    else if s.binary = .skipped then []
    else s.lines (content.map fun b => if b = 0 then s.ending else b)
  let lines := s.most.elim lines fun most => upTo most s.after 0 lines
  let chosen := lines.filter (·.selected)
  let found := !chosen.isEmpty
  let nameEnd : UInt8 := if s.given.has "Z" then 0 else 10
  if s.given.has "q" then return found
  match s.given.last? ["l", "L"] with
  | some key =>
    if found = (key = "l") then Run.write 1 (name ++ [nameEnd])
    return found
  | none => pure ()
  if s.given.has "c" then
    let front := if s.showsName then name ++ [if s.given.has "Z" then 0 else 58] else []
    Run.write 1 (front ++ bytesOf (toString chosen.length) ++ [10])
    return found
  let (text, hidden) := if hasZeros then ([], found) else s.output name lines
  Run.write 1 text
  if hidden && s.binary = .told then
    Run.complainPlain s!"grep: {textOf name}: binary file matches"
  return found

/-- Whether a file is left out by its name. -/
def isLeftOut (given : Given) (isDirectory : Bool) (name : Bytes) : Bool :=
  let fits (key : String) : Bool :=
    given.options.any fun (k, pattern) =>
      k = key && isMatch ((textOf pattern).toList.map (·, false)) (textOf name).toList
  if isDirectory then fits "exclude-dir"
  else
    fits "exclude" || (given.has "include" && !fits "include")

/-- The files in a directory and below it. -/
def filesBelow (s : State) (given : Given) : Nat → Bytes → Place → List Bytes
  | 0, _, _ => []
  | fuel + 1, name, place =>
    (childrenOf s place).flatMap fun child =>
      let inner := place ++ [textOf child]
      let path := if name.isEmpty then child else below name child
      match kindAt? s inner with
      | some .directory =>
        if isLeftOut given true child then [] else filesBelow s given fuel path inner
      | some (.link _) => if given.has "R" && !isLeftOut given false child then [path] else []
      | some (.file _) => if isLeftOut given false child then [] else [path]
      | _ => []

/-- What the program takes. -/
def manual : Manual :=
  { name := "grep"
    mistake := 2
    choices := [flag 'E' "extended-regexp", flag 'F' "fixed-strings", flag 'G' "basic-regexp",
      flag 'P' "perl-regexp", valued 'e' "regexp", valued 'f' "file",
      ⟨['i', 'y'], "ignore-case", .none⟩, flag 'v' "invert-match", flag 'w' "word-regexp",
      flag 'x' "line-regexp", flag 'z' "null-data", flag 's' "no-messages", valued 'm' "max-count",
      flag 'b' "byte-offset", flag 'n' "line-number", flag 'H' "with-filename",
      flag 'h' "no-filename", flag 'o' "only-matching", ⟨['q'], "quiet", .none⟩,
      long "silent" .none, flag 'a' "text", flag 'I' "", valued 'd' "directories",
      valued 'D' "devices", flag 'r' "recursive", flag 'R' "dereference-recursive",
      flag 'L' "files-without-match", flag 'l' "files-with-matches", flag 'c' "count",
      flag 'T' "initial-tab", flag 'Z' "null", valued 'A' "after-context",
      valued 'B' "before-context", valued 'C' "context", flag 'U' "binary",
      long "color" .optional, long "colour" .optional, long "include" .required,
      long "exclude" .required, long "exclude-dir" .required, long "label" .required,
      long "group-separator" .required, long "no-group-separator" .none,
      long "line-buffered" .none, long "binary-files" .required, long "no-ignore-case" .none] }

/-- The number of lines that a value of an option writes. -/
def lineCount? (text : Bytes) : Option Nat :=
  let text := text.dropWhile fun b => b = 32 || (9 ≤ b && b ≤ 13)
  number? (if text.head? = some 43 then text.drop 1 else text)

/-- How many lines are selected at most; a number below zero is no limit. -/
def limitOf? (text : Bytes) : Option (Option Nat) :=
  match text with
  | 45 :: digits => (number? digits).map fun n => if n = 0 then some 0 else none
  | _ => (lineCount? text).map some

/-- What is done with directories. -/
def directoryWords : List String := ["read", "recurse", "skip"]

/-- Complain about the value of an option that is none. -/
def checkOption (key : String) (value : Bytes) : Run Unit := do
  match key with
  | "A" | "B" | "C" =>
    if (lineCount? value).isNone then
      fail 2 s!"grep: {textOf value}: invalid context length argument"
  | "m" => if (limitOf? value).isNone then fail 2 "grep: invalid max count"
  | "d" => discard <| wordFor manual 1 "directories" directoryWords value
  | "D" =>
    if !(["read", "skip"].contains (textOf value)) then fail 2 "grep: unknown devices method"
  | "binary-files" =>
    if !(["binary", "text", "without-match"].contains (textOf value)) then
      fail 2 "grep: unknown binary-files type"
  | "f" =>
    if value ≠ [45] then
      if let .error fault ← contentOf value then fail 2 s!"grep: {textOf value}: {fault}"
  | _ => pure ()

/-- What is done with contents that are not text, by the options. -/
def binaryOf (given : Given) : Binary :=
  match given.last? ["a", "I", "binary-files"] with
  | some "a" => .shown
  | some "I" => .skipped
  | some _ =>
    match ((given.value? "binary-files").map textOf).getD "" with
    | "text" => .shown
    | "without-match" => .skipped
    | _ => .told
  | none => .told

/-- The letters of options that take a value. -/
def valuedLetters : List UInt8 := "efmdDABC".toUTF8.toList

/-- The arguments that letters of one argument stand for, where digits are a number of lines of
context. Whether the last letter takes the next argument for its value comes with them. -/
def withContext : Nat → Bytes → List Bytes × Bool
  | 0, letters => ([45 :: letters], false)
  | fuel + 1, letters =>
    let isDigit (b : UInt8) : Bool := 48 ≤ b && b ≤ 57
    let isPlain (b : UInt8) : Bool := !isDigit b && !valuedLetters.contains b
    let plain := letters.takeWhile isPlain
    match letters.drop plain.length with
    | [] => ([45 :: plain], false)
    | b :: rest =>
      if isDigit b then
        let digits := (b :: rest).takeWhile isDigit
        let more := (b :: rest).drop digits.length
        let (others, awaits) := if more.isEmpty then ([], false) else withContext fuel more
        let front := if plain.isEmpty then [] else [45 :: plain]
        (front ++ (45 :: 67 :: digits) :: others, awaits)
      else ([45 :: letters], rest.isEmpty)

/-- Arguments with numbers of lines of context in the form of an option. Where `awaits` holds, the
first one is a value. -/
def contextArguments (awaits : Bool) : List Bytes → List Bytes
  | [] => []
  | argument :: rest =>
    if awaits then argument :: contextArguments false rest
    else
      match argument with
      | [45, 45] => argument :: rest
      | 45 :: 45 :: _ => argument :: contextArguments false rest
      | 45 :: b :: letters =>
        let (found, awaits) := withContext (letters.length + 1) (b :: letters)
        found ++ contextArguments awaits rest
      | _ => argument :: contextArguments false rest

end Matching

open Matching in
/-- Select the lines of files that match. -/
def matchingLines (kind : String) : Program := fun arguments => do
  let given ← { manual with check := checkOption }.read (contextArguments false arguments)
  let texts := given.options.filterMap fun (key, value) => if key = "e" then some value else none
  let fromFiles ← (given.options.filter (·.1 = "f")).mapM fun (_, name) => do
    match ← contentOf name with
    | .ok content => pure (linesOf content)
    | .error fault => fail 2 s!"grep: {textOf name}: {fault}"
  let isGiven := given.has "e" || given.has "f"
  let (patterns, names) ←
    if isGiven then
      pure (texts.flatMap (·.splitOn 10) ++ fromFiles.flatten, given.operands)
    else
      match given.operands with
      | [] =>
        Run.complainPlain (adviceOf "grep")
        stop 2
      | pattern :: names => pure (pattern.splitOn 10, names)
  let most := (given.value? "m").bind fun text => (limitOf? text).join
  let matchesAll := patterns.all (·.isEmpty) && !given.has "x" && !given.has "w"
  if (most = some 0 || (matchesAll && given.has "v")) && given.last? ["l", "L"] ≠ some "L" then
    stop 1
  let kind := (given.last? ["E", "F", "G", "P"]).getD kind
  let expressions ← patterns.mapM fun pattern => do
    let cs := (textOf pattern).toList
    if kind = "F" then pure (literal cs)
    else
      match Regular.read ⟨kind = "E" || kind = "P", true, false, false⟩ cs with
      | .ok r => pure r
      | .error flaw => fail 2 s!"grep: {flaw.message}"
  let context (key : String) : Option Nat := (given.value? key).bind lineCount?
  let around := (context "C").getD 0
  let after := (context "A").getD around
  let before := (context "B").getD around
  let directories ←
    match given.value? "d" with
    | some word => wordFor manual 1 "directories" directoryWords word
    | none => pure "read"
  let recursive := given.has "r" || given.has "R" || directories = "recurse"
  let names := if names.isEmpty then (if recursive then [[]] else [[45]]) else names
  let s ← get
  let expanded : List (Bytes × Bool) := names.flatMap fun name =>
    if recursive && name ≠ [45] then
      match look s (if name.isEmpty then [46] else name) true with
      | .ok (place, .directory) =>
        (filesBelow s given deepest name place).map (·, true)
      | _ => [(name, false)]
    else [(name, false)]
  let several := 1 < names.length || expanded.any (·.2)
  let showsName :=
    match given.last? ["H", "h"] with
    | some key => key = "H"
    | none => several
  let matcher : Matcher := ⟨expressions, given.has "i", given.has "x", given.has "w"⟩
  let given := if given.has "silent" then { given with options := ("q", []) :: given.options }
    else given
  let selection : Selection :=
    { matcher := matcher, given := given, before := before, after := after, most := most
      showsName := showsName, ending := if given.has "z" then 0 else 10
      binary := binaryOf given }
  let (found, failed) ← expanded.foldlM (fun (found, failed) (name, _) => do
    if found && given.has "q" then return (found, failed)
    match ← contentOf name with
    | .ok content =>
      let shown :=
        if name = [45] then (given.value? "label").getD (bytesOf "(standard input)") else name
      return (found || (← selection.file shown content), failed)
    | .error fault =>
      let skips := fault = Storage.wording .isDirectory && (directories = "skip" || recursive)
      if skips then return (found, failed)
      if !given.has "s" then Run.complainPlain s!"grep: {textOf name}: {fault}"
      return (found, true)) (false, false)
  if found && given.has "q" then return 0
  return if failed then 2 else if found then 0 else 1

end ConfigTemplate.Shell.Programs
