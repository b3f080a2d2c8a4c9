import ConfigTemplate.Shell.Programs.Basic

/-!
# Programs that show lines

The programs that show the lines of files: all of them or some, forwards or backwards, with numbers,
or broken at a width; and the one that counts them.
-/

namespace ConfigTemplate.Shell.Programs

open Text (Bytes)
open Run (bytesOf textOf)

/-- How lines are shown. -/
structure LineStyle where
  numbersAll : Bool
  numbersFilled : Bool
  squeezes : Bool
  marksEnds : Bool
  marksTabs : Bool
  marksControls : Bool

/-- A byte that cannot be seen, shown by others. -/
def visibleByte (style : LineStyle) (b : UInt8) : Bytes :=
  let low (b : UInt8) : Bytes :=
    if b < 32 then [94, b + 64] else if b = 127 then [94, 63] else [b]
  if b = 9 then (if style.marksTabs then [94, 73] else [9])
  else if b = 10 || !style.marksControls then [b]
  else if b < 128 then low b
  else [77, 45] ++ low (b - 128)

/-- Lines in a style. The number of the line before and whether it was empty are given. -/
def styledLines (style : LineStyle) : Nat → Bool → List Bytes → Bytes
  | _, _, [] => []
  | number, afterEmpty, line :: rest =>
    let isEmpty := line = [10]
    if style.squeezes && isEmpty && afterEmpty then styledLines style number true rest
    else
      let counts := style.numbersFilled && !isEmpty || style.numbersAll && !style.numbersFilled
      let number := if counts then number + 1 else number
      let front := if counts then padLeft 6 (bytesOf (toString number)) ++ [9] else []
      let body := if hasEnd line then line.dropLast else line
      let returns :=
        style.marksEnds && !style.marksControls && hasEnd line && body.getLast? = some 13
      let shown := (if returns then body.dropLast else body).flatMap (visibleByte style)
      let shown := if returns then shown ++ [94, 77] else shown
      let ending : Bytes :=
        if hasEnd line then (if style.marksEnds then [36, 10] else [10]) else []
      front ++ shown ++ ending ++ styledLines style number isEmpty rest

/-- The options of the program that shows files. -/
def catManual : Manual :=
  { name := "cat"
    choices := [flag 'A' "show-all", flag 'b' "number-nonblank", flag 'e' "", flag 'E' "show-ends",
      flag 'n' "number", flag 's' "squeeze-blank", flag 't' "", flag 'T' "show-tabs", flag 'u' "",
      flag 'v' "show-nonprinting"] }

/-- Whether a file is the one to which the output is added. -/
def isOwnOutput (name : Bytes) : Run Bool := do
  let s ← get
  match ← Run.channel? 1, Storage.place s name true with
  | some (_, channel), .ok place =>
    match channel.target with
    | .file other => return other = place && channel.appends
    | _ => return false
  | _, _ => return false

/-- Show files. -/
def cat : Program := fun arguments => do
  let given ← catManual.read arguments
  let has (keys : List String) : Bool := keys.any given.has
  let style : LineStyle :=
    { numbersAll := has ["n"], numbersFilled := has ["b"], squeezes := has ["s"]
      marksEnds := has ["A", "e", "E"], marksTabs := has ["A", "t", "T"]
      marksControls := has ["A", "e", "t", "v"] }
  let names := if given.operands.isEmpty then [[45]] else given.operands
  let isPlain := given.options.all (·.1 = "u")
  let shown (all : Bytes) : Bytes := styledLines style 0 false (brokenLines all)
  let (_, status) ← names.foldlM (fun (all, status) name => do
    let isInput : Bool := name = [45]
    if !isInput && (← isOwnOutput name) then
      match ← contentOf name with
      | .ok (_ :: _) =>
        Run.complainPlain s!"cat: {named name}: input file is output file"
        return (all, 1)
      | _ => return (all, status)
    match ← contentOf name with
    | .ok content =>
      if isPlain then
        Run.write 1 content
        return (all, status)
      else
        -- Lines go on from one file to the next one, and so do their numbers.
        Run.write 1 ((shown (all ++ content)).drop (shown all).length)
        return (all ++ content, status)
    | .error fault =>
      Run.complainPlain s!"cat: {named name}: {fault}"
      if isInput && fault = Channel.Fault.badDescriptor.message then
        Run.complainPlain s!"cat: closing standard input: {fault}"
      return (all, 1)) (([] : Bytes), 0)
  return status

/-- Show files from their last line to their first. -/
def tac : Program := fun arguments => do
  let manual : Manual :=
    { name := "tac"
      choices := [flag 'b' "before", flag 'r' "regex", valued 's' "separator"] }
  let given ← manual.read arguments
  let separator := ((given.value? "s").bind List.head?).getD 10
  let names := if given.operands.isEmpty then [[45]] else given.operands
  atOnce <| forEach names fun name => do
    match ← contentOf name with
    | .ok content =>
      let parts :=
        if given.has "b" then
          match content.splitOn separator with
          | first :: rest => first :: rest.map (separator :: ·)
          | [] => []
        else brokenBy separator content
      Run.write 1 parts.reverse.flatten
      return 0
    | .error fault =>
      if fault = Storage.wording .isDirectory then
        Run.complainPlain s!"tac: {named name}: read error: Invalid argument"
      else
        Run.complainPlain s!"tac: failed to open {straight name} for reading: {fault}"
      return 1

/-- Show each line from its last character to its first. -/
def rev : Program := fun arguments => do
  let manual : Manual := { name := "rev", choices := [flag '0' "zero"] }
  let given ← manual.read arguments
  let names := if given.operands.isEmpty then [[45]] else given.operands
  atOnce <| forEach names fun name => do
    match ← contentOf name with
    | .ok content =>
      let turned (line : Bytes) : Bytes :=
        let body := if hasEnd line then line.dropLast else line
        bytesOf (String.ofList (textOf body).toList.reverse) ++
          (if hasEnd line then [10] else [])
      Run.write 1 ((brokenLines content).flatMap turned)
      return 0
    | .error fault =>
      Run.complainPlain s!"rev: cannot open {textOf name}: {fault}"
      return 1

/-- What part of a file is shown: so many of its lines or bytes, counted from the front or from the
end. -/
structure Share where
  counts : Char
  amount : Nat
  /-- Whether the number is one of those that are left out. -/
  isRest : Bool

/-- The lines or bytes of a text. -/
def unitsOf (counts : Char) (ending : UInt8) (text : Bytes) : List Bytes :=
  if counts = 'c' then text.map ([·]) else brokenBy ending text

/-- The front of a text. -/
def Share.front (share : Share) (ending : UInt8) (text : Bytes) : Bytes :=
  let units := unitsOf share.counts ending text
  (units.take (if share.isRest then units.length - share.amount else share.amount)).flatten

/-- The end of a text; the rest is what follows all but one of the units that are left out. -/
def Share.back (share : Share) (ending : UInt8) (text : Bytes) : Bytes :=
  let units := unitsOf share.counts ending text
  (units.drop
    (if share.isRest then share.amount - 1 else units.length - share.amount)).flatten

/-- What an option with a number says. A sign that turns it around stands before the number. -/
def shareOf (program : String) (turning : Char) (counts : Char) (text : Bytes) : Run Share := do
  let (isRest, digits) : Bool × Bytes :=
    match text with
    | 45 :: rest => (turning = '-', rest)
    | 43 :: rest => (turning = '+', rest)
    | text => (false, text)
  match amount? digits with
  | some amount => return ⟨counts, amount, isRest⟩
  | none =>
    let what := if counts = 'c' then "bytes" else "lines"
    let shown := if text.head? = some 45 then digits else text
    fail 1 s!"{program}: invalid number of {what}: {curly shown}"

/-- The old form of an option, a number after a hyphen with letters after it, in its new form. -/
def modernised (sign : UInt8) (signs : List UInt8) : List Bytes → List Bytes
  | (s :: b :: rest) :: more =>
    if signs.contains s && isDigit b then
      let digits := (b :: rest).takeWhile isDigit
      let letters := (b :: rest).drop digits.length
      if letters.all (bytesOf "cblqvf").contains then
        let counts : UInt8 := if letters.contains 99 || letters.contains 98 then 99 else 110
        let unit : Bytes := if letters.contains 98 then [98] else []
        let marked : Bytes := if s = sign then digits else s :: digits
        let others := letters.filter ([113, 118] : Bytes).contains
        (45 :: counts :: (marked ++ unit)) ::
          ((if others.isEmpty then [] else [45 :: others]) ++ more)
      else (s :: b :: rest) :: more
    else (s :: b :: rest) :: more
  | arguments => arguments

/-- Show a part of each file, after a line with its name if there are several. -/
def parts (program : String) (turning : Char) (choose : Share → UInt8 → Bytes → Bytes)
    (isFront : Bool) : Program := fun arguments => do
  let signs : List UInt8 := if isFront then [45] else [45, 43]
  let manual : Manual :=
    { name := program
      choices := [valued 'n' "lines", valued 'c' "bytes", ⟨['q'], "quiet", .none⟩,
        ⟨['q'], "silent", .none⟩, flag 'v' "verbose", flag 'z' "zero-terminated"] ++
        if isFront then [] else [flag 'f' "follow", flag 'F' ""] }
  let given ← manual.read (modernised 45 signs arguments)
  let share ← (given.options.filter fun (key, _) => key = "n" || key = "c").foldlM
    (fun _ (key, value) => shareOf program turning (if key = "c" then 'c' else 'n') value)
    ⟨'n', 10, false⟩
  let ending : UInt8 := if given.has "z" then 0 else 10
  let names := if given.operands.isEmpty then [[45]] else given.operands
  let shows := (1 < names.length && given.last? ["q", "v"] != some "q") ||
    given.last? ["q", "v"] = some "v"
  let (status, _) ← names.foldlM (fun (status, isFirst) name => do
    let shown := if name = [45] then "standard input" else textOf name
    let content : Except String Bytes ←
      if name = [45] then do
        let channel ← Run.channel? 0
        let seeks := channel.any fun (_, channel) => channel.isSeekable
        let read ← Run.readWith 0 fun content =>
          if isFront && seeks then (choose share ending content).length else content.length
        pure (read.mapError Channel.Fault.message)
      else contentOf name
    match content with
    | .error fault =>
      if fault = Storage.wording .isDirectory then
        Run.complainPlain s!"{program}: error reading '{shown}': {fault}"
      else Run.complainPlain s!"{program}: cannot open '{shown}' for reading: {fault}"
      return (1, isFirst)
    | .ok content =>
      if shows then
        Run.write 1 (bytesOf ((if isFirst then "" else "\n") ++ s!"==> {shown} <==\n"))
      Run.write 1 (choose share ending content)
      return (status, false)) (0, true)
  return status

/-- Show the beginnings of files. -/
def head : Program := parts "head" '-' Share.front true

/-- Show the ends of files. -/
def tail : Program := parts "tail" '+' Share.back false

/-- How numbers are laid out before lines. -/
def numberText (layout : Bytes) (width : Nat) (n : Int) : Bytes :=
  let digits := bytesOf (toString n)
  if layout = bytesOf "ln" then padRight width digits
  else if layout = bytesOf "rz" then
    let sign : Bytes := if n < 0 then [45] else []
    let body := bytesOf (toString n.natAbs)
    sign ++ List.replicate (width - sign.length - body.length) 48 ++ body
  else padLeft width digits

/-- Show lines with numbers: those that are filled, all, or none. -/
def numberLines : Program := fun arguments => do
  let manual : Manual :=
    { name := "nl"
      choices := [valued 'b' "body-numbering", valued 's' "number-separator",
        valued 'w' "number-width", valued 'v' "starting-line-number", valued 'i' "line-increment",
        valued 'n' "number-format", valued 'h' "header-numbering", valued 'f' "footer-numbering",
        flag 'p' "no-renumber", valued 'l' "join-blank-lines", valued 'd' "section-delimiter"] }
  let given ← manual.read arguments
  let style := (given.value? "b").getD [116]
  if ¬ [[97], [116], [110]].contains style then
    misuse manual s!"invalid body numbering style: {curly style}"
  let number (key : String) (default : Nat) : Nat :=
    ((given.value? key).bind number?).getD default
  let width := number "w" 6
  let separator := (given.value? "s").getD [9]
  let shown (all : Bytes) : Bytes :=
    ((linesOf all).foldl (fun (shown, n) line =>
      let counts : Bool := style = [97] || (style = [116] && !line.isEmpty)
      if counts then
        let front := numberText ((given.value? "n").getD []) width n
        (shown ++ front ++ separator ++ line ++ [10], n + (number "i" 1 : Nat))
      else
        let blanks := List.replicate (width + separator.length) 32
        (shown ++ blanks ++ line ++ [10], n)) (([] : Bytes), (number "v" 1 : Int))).1
  let (_, status) ← (if given.operands.isEmpty then [[45]] else given.operands).foldlM
    (fun ((all : Bytes), status) name => do
      match ← contentOf name with
      | .ok content =>
        let content := if content.isEmpty || hasEnd content then content else content ++ [10]
        Run.write 1 ((shown (all ++ content)).drop (shown all).length)
        return (all ++ content, status)
      | .error fault =>
        Run.complainPlain s!"nl: {named name}: {fault}"
        return (all, 1)) ([], 0)
  return status

/-- The column after a byte. -/
def columnAfter (column : Nat) (b : UInt8) : Nat :=
  if b = 9 then (column / 8 + 1) * 8
  else if b = 8 then column - 1
  else if b = 13 then 0
  else column + 1

/-- A line in pieces that are no wider than a width. The piece so far is given in reverse. -/
def foldedLine (width : Nat) (byBytes atBlanks : Bool) : Nat → Bytes → Nat → Bytes → List Bytes
  | 0, piece, _, _ => [piece.reverse]
  | _ + 1, piece, _, [] => [piece.reverse]
  | fuel + 1, piece, column, b :: rest =>
    let next := if byBytes then column + 1 else columnAfter column b
    if next ≤ width || piece.isEmpty then
      foldedLine width byBytes atBlanks fuel (b :: piece) next rest
    else
      let isBlank (b : UInt8) : Bool := b = 32 || b = 9
      let after := piece.takeWhile (!isBlank ·)
      if atBlanks && after.length < piece.length then
        let kept := piece.drop after.length
        kept.reverse :: foldedLine width byBytes atBlanks fuel [] 0 (after.reverse ++ b :: rest)
      else piece.reverse :: foldedLine width byBytes atBlanks fuel [] 0 (b :: rest)

/-- Break lines at a width. -/
def foldLines : Program := fun arguments => do
  let manual : Manual :=
    { name := "fold"
      choices := [flag 'b' "bytes", flag 's' "spaces", valued 'w' "width"] }
  let arguments :=
    match arguments with
    | (45 :: digits) :: rest =>
      if !digits.isEmpty && digits.all isDigit then (45 :: 119 :: digits) :: rest
      else (45 :: digits) :: rest
    | arguments => arguments
  let given ← manual.read arguments
  let shown := (given.value? "w").getD (bytesOf "80")
  match number? shown with
  | none => fail 1 s!"fold: invalid number of columns: {curly shown}"
  | some 0 =>
    fail 1 s!"fold: invalid number of columns: {curly shown}: Numerical result out of range"
  | some width =>
    eachFile "fold" 1 given.operands fun _ content =>
      (brokenLines content).forM fun line => do
        let body := if hasEnd line then line.dropLast else line
        let pieces := foldedLine width (given.has "b") (given.has "s")
          (2 * body.length * (body.length + 1) + 2) [] 0 body
        Run.write 1 ([10].intercalate pieces ++ (if hasEnd line then [10] else []))

/-- The stops of tabulators: a distance, or a list of columns. -/
def tabStops? (text : Bytes) : Option (List Nat) :=
  (text.splitOnP fun b => b = 44 || b = 32).mapM number?

/-- The column of the next stop after a column; the next column if there is none. -/
def nextStop (stops : List Nat) (column : Nat) : Nat :=
  match stops with
  | [distance] => (column / distance + 1) * distance
  | stops => (stops.find? (column < ·)).getD (column + 1)

/-- A line with blanks in place of tabulators: in place of all, or of those at its front. -/
def expandedLine (stops : List Nat) (onlyFront : Bool) : Nat → Bool → Bytes → Bytes
  | _, _, [] => []
  | column, isFront, b :: rest =>
    if b = 9 && (isFront || !onlyFront) then
      let next := nextStop stops column
      List.replicate (next - column) 32 ++ expandedLine stops onlyFront next isFront rest
    else
      let next := if b = 8 then column - 1 else column + 1
      b :: expandedLine stops onlyFront next (isFront && (b = 32 || b = 9)) rest

/-- The stops that options ask for. -/
def stopsOf (program : String) (given : Given) : Run (List Nat) := do
  match given.value? "t" with
  | none => return [8]
  | some text =>
    match tabStops? text with
    | some stops =>
      if stops.contains 0 then fail 1 s!"{program}: tab size cannot be 0" else return stops
    | none => fail 1 s!"{program}: tab size contains invalid character(s): {curly text}"

/-- Put blanks in place of tabulators. -/
def expand : Program := fun arguments => do
  let manual : Manual :=
    { name := "expand", choices := [flag 'i' "initial", valued 't' "tabs"] }
  let given ← manual.read arguments
  let stops ← stopsOf "expand" given
  eachFile "expand" 1 given.operands fun _ content =>
    Run.write 1 ((brokenLines content).flatMap (expandedLine stops (given.has "i") 0 true))

/-- A line with tabulators in place of blanks. The blanks before it and the column where they begin
are given. -/
def unexpandedLine (stops : List Nat) (all : Bool) : Nat → Nat → Bytes → Bytes
  | _, blanks, [] => List.replicate blanks 32
  | column, blanks, b :: rest =>
    if b = 32 then
      let next := column + 1
      let stop := nextStop stops column
      if next = stop && (0 < blanks || rest.head? = some 32 || rest.head? = some 9) then
        9 :: unexpandedLine stops all next 0 rest
      else unexpandedLine stops all next (blanks + 1) rest
    else if b = 9 then 9 :: unexpandedLine stops all (nextStop stops column) 0 rest
    else
      List.replicate blanks 32 ++
        (if all then b :: unexpandedLine stops all (column + 1) 0 rest else b :: rest)

/-- Put tabulators in place of blanks. -/
def unexpand : Program := fun arguments => do
  let manual : Manual :=
    { name := "unexpand"
      choices := [flag 'a' "all", valued 't' "tabs", long "first-only" .none] }
  let given ← manual.read arguments
  let stops ← stopsOf "unexpand" given
  let all := (given.has "a" || given.has "t") && !given.has "first-only"
  eachFile "unexpand" 1 given.operands fun _ content =>
    Run.write 1 ((brokenLines content).flatMap (unexpandedLine stops all 0 0))

/-- White space. -/
def isSpace (b : UInt8) : Bool := b = 32 || (9 ≤ b && b ≤ 13)

/-- The numbers of lines, words, characters and bytes of a text, and the width of its longest
line. -/
def countsOf (text : Bytes) : List Nat :=
  let words := (text.splitOnP isSpace).filter (!·.isEmpty)
  let widths := (linesOf text).map fun line =>
    (textOf line).toList.foldl (fun column c =>
      if c = '\t' then (column / 8 + 1) * 8 else column + 1) 0
  [text.count 10, words.length, ((textOf text).toList.filter (!Stray.isStray ·)).length,
    text.length, widths.foldl max 0]

/-- Count lines, words and bytes. -/
def wordCount : Program := fun arguments => do
  let manual : Manual :=
    { name := "wc"
      choices := [flag 'l' "lines", flag 'w' "words", flag 'm' "chars", flag 'c' "bytes",
        flag 'L' "max-line-length"] }
  let given ← manual.read arguments
  let keys := ["l", "w", "m", "c", "L"]
  let wanted := keys.map fun key =>
    if given.options.isEmpty then key != "m" && key != "L" else given.has key
  let names := if given.operands.isEmpty then [[45]] else given.operands
  let sizes : List (Option Nat) ← names.mapM fun name => do
    if name = [45] then
      let files := (← get).files
      match ← Run.channel? 0 with
      | some (_, channel) =>
        return if channel.isSeekable then (channel.unread files).toOption.map List.length else none
      | none => return none
    else
      match Storage.find (← get) name with
      | .ok (.file content) => return some content.length
      | .error _ => return some 0
      | .ok _ => return none
  let isNarrow := names.length = 1 && (wanted.filter id).length = 1
  let total := (sizes.filterMap id).foldl (· + ·) 0
  let least : Nat := if sizes.any Option.isNone then 7 else 1
  let width := if isNarrow then 1 else max least (toString total).length
  let report (counts : List Nat) (name : Bytes) : Run Unit := do
    let numbers := (counts.zip wanted).filterMap fun (n, isWanted) =>
      if isWanted then some (padLeft width (bytesOf (toString n))) else none
    Run.write 1 ([32].intercalate numbers ++ (if name.isEmpty then [] else 32 :: name) ++ [10])
  let (all, status) ← names.foldlM (fun (all, status) name => do
    let shown := if given.operands.isEmpty then [] else name
    match ← contentOf name with
    | .ok content =>
      let counts := countsOf content
      report counts shown
      return ((all.zip counts).zipIdx.map fun ((a, b), n) => if n = 4 then max a b else a + b,
        status)
    | .error fault =>
      Run.complainPlain s!"wc: {named name}: {fault}"
      if fault = Storage.wording .isDirectory then report [0, 0, 0, 0, 0] shown
      return (all, 1)) ([0, 0, 0, 0, 0], 0)
  if 1 < names.length then report all (bytesOf "total")
  return status

end ConfigTemplate.Shell.Programs
