import ConfigTemplate.Shell.Programs.Lines

/-!
# Programs for columns and neighbours

The programs that take columns out of lines, put lines side by side, and compare lines that follow
each other or stand in two files.
-/

namespace ConfigTemplate.Shell.Programs

open Text (Bytes)
open Run (bytesOf textOf)

/-- Some members of a list by their places from one on: ranges that may have no end. -/
abbrev Ranges := List (Nat × Option Nat)

/-- Whether a range holds a place. -/
def inRange (n : Nat) (range : Nat × Option Nat) : Bool :=
  range.1 ≤ n && range.2.all (n ≤ ·)

/-- The wording for what a list of places is about. -/
structure PlaceWords where
  numbered : String
  value : String
  range : String

/-- The wording for fields. -/
def fieldWords : PlaceWords :=
  ⟨"fields are numbered from 1", "invalid field value", "invalid field range"⟩

/-- The wording for bytes. -/
def byteWords : PlaceWords :=
  ⟨"byte/character positions are numbered from 1", "invalid byte/character position",
    "invalid byte or character range"⟩

/-- The range that a text writes. -/
def rangeOf (words : PlaceWords) (text : Bytes) : Except String (Nat × Option Nat) :=
  match text.find? fun b => !isDigit b && b != 45 with
  | some b => .error s!"{words.value} {curly (text.dropWhile (· != b))}"
  | none =>
    match text.splitOn 45 with
    | [single] =>
      if ofDigits single = 0 then .error words.numbered
      else .ok (ofDigits single, some (ofDigits single))
    | [[], []] => .error "invalid range with no endpoint: -"
    | [low, high] =>
      if !low.isEmpty && ofDigits low = 0 then .error words.numbered
      else if high.isEmpty then .ok (ofDigits low, none)
      else if ofDigits high < max (ofDigits low) 1 then .error "invalid decreasing range"
      else .ok (max (ofDigits low) 1, some (ofDigits high))
    | _ => .error words.range

/-- The ranges that a list writes. -/
def rangesOf (words : PlaceWords) (text : Bytes) : Except String Ranges :=
  (text.splitOnP fun b => b = 44 || b = 32 || b = 9).mapM (rangeOf words)

/-- Take columns out of lines. -/
def cut : Program := fun arguments => do
  let manual : Manual :=
    { name := "cut"
      choices := [valued 'b' "bytes", valued 'c' "characters", valued 'd' "delimiter",
        valued 'f' "fields", flag 'n' "", flag 's' "only-delimited", flag 'z' "zero-terminated",
        long "complement" .none, long "output-delimiter" .required] }
  let check (key : String) (value : Bytes) : Run Unit := do
    if key = "d" && 1 < value.length then
      misuse manual "the delimiter must be a single character"
  let given ← { manual with check := check }.read arguments
  let lists ← given.options.foldlM (fun (lists : List (String × Bytes)) (key, value) => do
    if !(["b", "c", "f"].contains key) then return lists
    if !lists.isEmpty then misuse manual "only one list may be specified"
    return [(key, value)]) []
  let (key, list) ←
    match lists with
    | single :: _ => pure single
    | [] => misuse manual "you must specify a list of bytes, characters, or fields"
  let byFields : Bool := key = "f"
  let delimiter := (given.value? "d").getD [9]
  let words := if byFields then fieldWords else byteWords
  let ranges ←
    match rangesOf words list with
    | .ok ranges => pure ranges
    | .error complaint => misuse manual complaint
  if !byFields && given.has "d" then
    misuse manual "an input delimiter may be specified only when operating on fields"
  if !byFields && given.has "s" then
    misuse manual
      "suppressing non-delimited lines makes sense\n\tonly when operating on fields"
  let separator := delimiter.headD 0
  let between := (given.value? "output-delimiter").getD (if byFields then [separator] else [])
  let selects (n : Nat) : Bool := ranges.any (inRange n) != given.has "complement"
  let begins (n : Nat) : Bool := ranges.any fun range => range.1 = n
  let ending : UInt8 := if given.has "z" then 0 else 10
  let shown (line : Bytes) : Option Bytes :=
    if byFields then
      let parts := line.splitOn separator
      if parts.length ≤ 1 then (if given.has "s" then none else some line)
      else
        some (between.intercalate ((parts.zipIdx 1).filterMap fun (part, n) =>
          if selects n then some part else none))
    else
      let chosen := (line.zipIdx 1).filter fun (_, n) => selects n
      some (chosen.zipIdx.flatMap fun ((b, n), place) =>
        if 0 < place && begins n then between ++ [b] else [b])
  eachFile "cut" 1 given.operands fun _ content =>
    Run.write 1 ((partsBy ending content).flatMap fun line =>
      match shown line with
      | some text => text ++ [ending]
      | none => [])

/-- The separators that a text with escapes writes; an escaped zero is none at all. -/
def separatorsOf : Bytes → List Bytes
  | [] => []
  | 92 :: 48 :: rest => [] :: separatorsOf rest
  | 92 :: 110 :: rest => [10] :: separatorsOf rest
  | 92 :: 116 :: rest => [9] :: separatorsOf rest
  | 92 :: b :: rest => [b] :: separatorsOf rest
  | b :: rest => [b] :: separatorsOf rest

/-- Texts with separators between them, which are used in turn. -/
def joinedBy (separators : List Bytes) (texts : List Bytes) : Bytes :=
  (texts.zipIdx).flatMap fun (text, n) =>
    if n = 0 then text else separators.getD ((n - 1) % separators.length) [] ++ text

/-- The next line of each file; files that are a hyphen share one list of lines. -/
def nextRow : List (Bytes × List Bytes) → List Bytes →
    List (Option Bytes) × List (Bytes × List Bytes) × List Bytes
  | [], shared => ([], [], shared)
  | (name, lines) :: rest, shared =>
    let (line, lines, shared) :=
      if name = [45] then (shared.head?, lines, shared.drop 1)
      else (lines.head?, lines.drop 1, shared)
    let (row, files, shared) := nextRow rest shared
    (line :: row, (name, lines) :: files, shared)

/-- The lines of files side by side. -/
def rowsOf (separators : List Bytes) : Nat → List (Bytes × List Bytes) → List Bytes → Bytes
  | 0, _, _ => []
  | fuel + 1, files, shared =>
    let (row, files, shared) := nextRow files shared
    if row.all Option.isNone then []
    else
      joinedBy separators (row.map (·.getD [])) ++ 10 :: rowsOf separators fuel files shared

/-- Put the lines of files side by side, or those of each file in one line. -/
def paste : Program := fun arguments => do
  let manual : Manual :=
    { name := "paste"
      choices := [valued 'd' "delimiters", flag 's' "serial", flag 'z' "zero-terminated"] }
  let given ← manual.read arguments
  let separators := separatorsOf ((given.value? "d").getD [9])
  let separators := if separators.isEmpty then [[]] else separators
  let names := if given.operands.isEmpty then [[45]] else given.operands
  if given.has "s" then
    eachFile "paste" 1 names fun _ content =>
      Run.write 1 (joinedBy separators (linesOf content) ++ [10])
  else
    let shared ← if names.contains [45] then contentOf [45] else pure (.ok [])
    let files ← names.mapM fun name => do
      if name = [45] then return (name, [])
      match ← contentOf name with
      | .ok content => return (name, linesOf content)
      | .error fault => fail 1 s!"paste: {named name}: {fault}"
    let shared := linesOf (shared.toOption.getD [])
    let most := (files.map (·.2.length)).foldl max shared.length
    Run.write 1 (rowsOf separators (most + 1) files shared)
    return 0

/-- The order of bytes. -/
def bytesLe : Bytes → Bytes → Bool
  | [], _ => true
  | _ :: _, [] => false
  | a :: as, b :: bs => a < b || (a = b && bytesLe as bs)

/-- Small letters in place of capital ones. -/
def lowered (text : Bytes) : Bytes := text.map fun b => if 65 ≤ b && b ≤ 90 then b + 32 else b

/-- The runs of neighbours that are alike. -/
def runsOf {α : Type} (alike : α → α → Bool) : List α → List (List α)
  | [] => []
  | a :: rest =>
    match runsOf alike rest with
    | (b :: more) :: others =>
      if alike a b then (a :: b :: more) :: others else [a] :: (b :: more) :: others
    | others => [a] :: others

/-- Two files that are read by a program that compares them. -/
def twoFiles (manual : Manual) (given : Given) (failure : String → String) :
    Run (Bytes × Bytes × List Bytes × List Bytes) := do
  demand manual 2 given.operands
  demandAtMost manual 2 given.operands
  let read (name : Bytes) : Run (List Bytes) := do
    match ← contentOf name with
    | .ok content => return linesOf content
    | .error fault =>
      if fault = Storage.wording .isDirectory && failure "" != "" then
        fail manual.mistake (failure fault)
      else fail manual.mistake s!"{manual.name}: {named name}: {fault}"
  let first := given.operands.getD 0 []
  let second := given.operands.getD 1 []
  return (first, second, ← read first, ← read second)

/-- Lines of two sorted files with the column in which they belong: the first file, the second one,
or both. -/
def compared : Nat → List Bytes → List Bytes → List (Nat × Bytes)
  | 0, _, _ => []
  | _ + 1, [], second => second.map (2, ·)
  | _ + 1, first, [] => first.map (1, ·)
  | fuel + 1, a :: first, b :: second =>
    if a = b then (3, a) :: compared fuel first second
    else if bytesLe a b then (1, a) :: compared fuel first (b :: second)
    else (2, b) :: compared fuel (a :: first) second

/-- Whether lines are in order. -/
def isSorted : List Bytes → Bool
  | a :: b :: rest => bytesLe a b && isSorted (b :: rest)
  | _ => true

/-- Show what lines two sorted files have in common. -/
def common : Program := fun arguments => do
  let manual : Manual :=
    { name := "comm"
      choices := [flag '1' "", flag '2' "", flag '3' "", flag 'z' "zero-terminated",
        long "total" .none, long "output-delimiter" .required, long "check-order" .none,
        long "nocheck-order" .none] }
  let given ← manual.read arguments
  let (_, _, first, second) ← twoFiles manual given fun _ => ""
  let lines := compared (first.length + second.length + 1) first second
  let separator := (given.value? "output-delimiter").getD [9]
  let shows (n : Nat) : Bool := !given.has (toString n)
  let indent (n : Nat) : Bytes :=
    ((List.range (n - 1)).filter fun k => shows (k + 1)).flatMap fun _ => separator
  for (n, line) in lines do
    if shows n then Run.write 1 (indent n ++ line ++ [10])
  if given.has "total" then
    let count (n : Nat) : Bytes := bytesOf (toString (lines.filter (·.1 = n)).length)
    Run.write 1 (separator.intercalate [count 1, count 2, count 3, bytesOf "total"] ++ [10])
  let checks := !given.has "nocheck-order" && lines.any (·.1 != 3)
  let flaws := ([(1, first), (2, second)].filter fun (_, lines) => !isSorted lines).map (·.1)
  if checks && !flaws.isEmpty then
    for n in flaws do
      Run.complainPlain s!"comm: file {n} is not in sorted order"
    fail 1 "comm: input is not in sorted order"
  return 0

/-- The fields of a line: between separators, or between blanks. -/
def fieldsOf (separator : Option UInt8) (line : Bytes) : List Bytes :=
  match separator with
  | some b => line.splitOn b
  | none => (line.splitOnP fun b => b = 32 || b = 9).filter (!·.isEmpty)

/-- How lines of two files are put together. -/
structure Joining where
  separator : Option UInt8
  /-- The places of the fields by which lines belong together. -/
  first : Nat
  second : Nat
  ignoresCase : Bool
  /-- The files whose other lines are shown, and whether the lines that belong together are. -/
  others : List Nat
  showsPairs : Bool
  empty : Bytes
  /-- The fields that are shown; those of all as a rule. -/
  format : Option (List (Nat × Nat))

namespace Joining

/-- The field by which a line belongs to others. -/
def keyOf (place : Nat) (fields : List Bytes) : Bytes := fields.getD (place - 1) []

/-- The order of keys. -/
def shape (j : Joining) (key : Bytes) : Bytes := if j.ignoresCase then lowered key else key

/-- A line of the output out of a line of each file or of one of them. -/
def line (j : Joining) (first second : Option (List Bytes)) : Bytes :=
  let key : Bytes :=
    match first, second with
    | some fields, _ => keyOf j.first fields
    | none, some fields => keyOf j.second fields
    | none, none => []
  let others (place : Nat) (fields : Option (List Bytes)) : List Bytes :=
    (fields.getD []).eraseIdx (place - 1)
  let filled (field : Option Bytes) : Bytes :=
    match field with
    | some (b :: bs) => b :: bs
    | _ => j.empty
  let shown : List Bytes :=
    match j.format with
    | none => key :: others j.first first ++ others j.second second
    | some format => format.map fun (file, place) =>
      if file = 0 then filled (some key)
      else
        let fields := if file = 1 then first else second
        filled (fields.bind fun fields => fields[place - 1]?)
  [j.separator.getD 32].intercalate shown ++ [10]

/-- The output for lines of two files that are in the order of their keys. -/
def lines (j : Joining) : Nat → List (List Bytes) → List (List Bytes) → Bytes
  | 0, _, _ => []
  | fuel + 1, first, second =>
    let alone (file : Nat) (fields : List Bytes) : Bytes :=
      if !j.others.contains file then []
      else if file = 1 then j.line (some fields) none
      else j.line none (some fields)
    match first, second with
    | [], rest => rest.flatMap (alone 2)
    | rest, [] => rest.flatMap (alone 1)
    | a :: as, b :: bs =>
      let keyA := j.shape (keyOf j.first a)
      let keyB := j.shape (keyOf j.second b)
      if keyA = keyB then
        let isKey (place : Nat) (fields : List Bytes) : Bool :=
          j.shape (keyOf place fields) = keyA
        let groupA := (a :: as).takeWhile (isKey j.first)
        let groupB := (b :: bs).takeWhile (isKey j.second)
        let pairs := groupA.flatMap fun x => groupB.flatMap fun y => j.line (some x) (some y)
        (if j.showsPairs then pairs else []) ++
          j.lines fuel ((a :: as).drop groupA.length) ((b :: bs).drop groupB.length)
      else if bytesLe keyA keyB then alone 1 a ++ j.lines fuel as (b :: bs)
      else alone 2 b ++ j.lines fuel (a :: as) bs

/-- The fields that a text asks for. -/
def formatOf? (text : Bytes) : Option (List (Nat × Nat)) :=
  ((text.splitOnP fun b => b = 44 || b = 32).filter (!·.isEmpty)).mapM fun part =>
    match part with
    | [48] => some (0, 0)
    | 49 :: 46 :: n => (number? n).map fun n => (1, n)
    | 50 :: 46 :: n => (number? n).map fun n => (2, n)
    | _ => none

end Joining

/-- Put together the lines of two files that have a field in common. -/
def join : Program := fun arguments => do
  let manual : Manual :=
    { name := "join"
      choices := [valued 'a' "", valued 'e' "", flag 'i' "ignore-case", valued 'j' "",
        valued 'o' "", valued 't' "", valued 'v' "", valued '1' "", valued '2' "",
        flag 'z' "zero-terminated", long "check-order" .none, long "nocheck-order" .none,
        long "header" .none] }
  let given ← manual.read arguments
  let place (key : String) : Nat :=
    (((given.value? key).orElse fun _ => given.value? "j").bind number?).getD 1
  let files (key : String) : List Nat :=
    (given.options.filter (·.1 = key)).filterMap fun (_, value) => number? value
  let j : Joining :=
    { separator := (given.value? "t").bind List.head?
      first := place "1", second := place "2"
      ignoresCase := given.has "i"
      others := files "a" ++ files "v"
      showsPairs := !given.has "v"
      empty := (given.value? "e").getD []
      format := (given.value? "o").bind Joining.formatOf? }
  let (_, _, first, second) ← twoFiles manual given fun fault => s!"join: read error: {fault}"
  let fields := fieldsOf j.separator
  Run.write 1 (j.lines (first.length + second.length + 1) (first.map fields) (second.map fields))
  return 0

/-- A line without some fields and characters at its front, as far as it is compared. -/
def comparedPart (fields chars : Nat) (width : Option Nat) (line : Bytes) : Bytes :=
  let isBlank (b : UInt8) : Bool := b = 32 || b = 9
  let rec skip : Nat → Bytes → Bytes
    | 0, line => line
    | n + 1, line => skip n ((line.dropWhile isBlank).dropWhile (!isBlank ·))
  let rest := (skip fields line).drop chars
  match width with
  | some width => rest.take width
  | none => rest

/-- Show lines without repetitions in a row. -/
def unique : Program := fun arguments => do
  let manual : Manual :=
    { name := "uniq"
      choices := [flag 'c' "count", flag 'd' "repeated", ⟨['D'], "all-repeated", .none⟩,
        flag 'u' "unique", flag 'i' "ignore-case", valued 'f' "skip-fields",
        valued 's' "skip-chars", valued 'w' "check-chars", flag 'z' "zero-terminated",
        long "group" .optional] }
  let given ← manual.read arguments
  let number (key what : String) : Run (Option Nat) := do
    match given.value? key with
    | none => return none
    | some text =>
      match number? text with
      | some n => return some n
      | none => fail 1 s!"uniq: {textOf text}: invalid number of {what}"
  let fields ← number "f" "fields to skip"
  let chars ← number "s" "bytes to skip"
  let width ← number "w" "bytes to compare"
  demandAtMost manual 2 given.operands
  let name := given.operands.getD 0 [45]
  let content : Bytes ←
    match ← contentOf name with
    | .ok content => pure content
    | .error fault =>
      if fault = Storage.wording .isDirectory then
        fail 1 s!"uniq: error reading {straight name}: {fault}"
      else fail 1 s!"uniq: {named name}: {fault}"
  let ending : UInt8 := if given.has "z" then 0 else 10
  let part (line : Bytes) : Bytes :=
    let part := comparedPart (fields.getD 0) (chars.getD 0) width line
    if given.has "i" then lowered part else part
  let runs := runsOf (fun a b => part a = part b) (partsBy ending content)
  let kept := runs.filter fun run =>
    (!(given.has "d" || given.has "D") || 1 < run.length) && (!given.has "u" || run.length = 1)
  let shown (run : List Bytes) : Bytes :=
    if given.has "D" || given.has "group" then run.flatMap (· ++ [ending])
    else
      let count := if given.has "c" then padLeft 7 (bytesOf (toString run.length)) ++ [32] else []
      count ++ run.headD [] ++ [ending]
  let output :=
    if given.has "group" then [ending].intercalate (kept.map shown) else kept.flatMap shown
  match given.operands[1]? with
  | none => Run.write 1 output
  | some target =>
    if target = [45] then Run.write 1 output
    else
      match ← Storage.write target false output with
      | .ok () => pure ()
      | .error fault => fail 1 s!"uniq: {textOf target}: {Storage.wording fault}"
  return 0

end ConfigTemplate.Shell.Programs
