import ConfigTemplate.Shell.Programs.Places

/-!
# Pieces of files

The programs that copy blocks of bytes, split files into pieces, and compare files byte by byte.
-/

namespace ConfigTemplate.Shell.Programs

open Text (Bytes)
open Run (bytesOf textOf)

/-- The value of an operand such as `bs=512`. -/
def settingOf (key : String) (operands : List Bytes) : Option Bytes :=
  let front := bytesOf (key ++ "=")
  (operands.reverse.find? fun operand => front.isPrefixOf operand).map (·.drop front.length)

/-- The operands that the program for blocks knows. -/
def blockKeys : List String :=
  ["if", "of", "bs", "ibs", "obs", "count", "skip", "seek", "conv", "status", "iflag", "oflag",
    "cbs", "iseek", "oseek"]

/-- The number of a text with a unit; several may be multiplied. -/
def product? (text : Bytes) : Option Nat :=
  (text.splitOn 120).foldlM (fun n part =>
    (match part.reverse with
      | 99 :: digits => number? digits.reverse
      | 119 :: digits => (number? digits.reverse).map (2 * ·)
      | _ => amount? part).map (n * ·)) 1

/-- Bytes in pairs, the second of each pair first. -/
def swappedPairs : Bytes → Bytes
  | a :: b :: rest => b :: a :: swappedPairs rest
  | rest => rest

/-- How many blocks were whole, and how many were not. -/
def blockCounts (size count : Nat) : String :=
  s!"{count / size}+{if count % size = 0 then 0 else 1}"

/-- Copy blocks of bytes. -/
def copyBlocks : Program := fun operands => do
  let manual : Manual := { name := "dd", choices := [] }
  for operand in operands do
    let key := textOf (operand.takeWhile (· ≠ 61))
    if !operand.contains 61 || !blockKeys.contains key then
      misuse manual s!"unrecognized operand {curly operand}"
  let numbered (key : String) : Run (Option Nat) := do
    match settingOf key operands with
    | none => return none
    | some text =>
      match product? text with
      | some n =>
        if n = 0 && ["bs", "ibs", "obs"].contains key then
          fail 1 s!"dd: invalid number: {curly text}"
        return some n
      | none => fail 1 s!"dd: invalid number: {curly text}"
  let bs ← numbered "bs"
  let ibs := bs.getD ((← numbered "ibs").getD 512)
  let obs := bs.getD ((← numbered "obs").getD 512)
  let count ← numbered "count"
  let skip := (← numbered "skip").getD ((← numbered "iseek").getD 0)
  let seek := (← numbered "seek").getD ((← numbered "oseek").getD 0)
  let conversions := ((settingOf "conv" operands).getD []).splitOn 44 |>.map textOf
  let wanted := count.elim (Nat.pow 2 62) (· * ibs)
  let byBytes (key flag : String) : Bool :=
    (((settingOf key operands).getD []).splitOn 44).any (textOf · = flag)
  let wanted := if byBytes "iflag" "count_bytes" then count.getD wanted else wanted
  let skipped := if byBytes "iflag" "skip_bytes" then skip else skip * ibs
  let content : Bytes ←
    match settingOf "if" operands with
    | none =>
      let all ← Run.readWith 0 fun content => min content.length (skipped + wanted)
      pure (all.toOption.getD [])
    | some name =>
      match Storage.deviceOf? name with
      | some _ =>
        if wanted < Nat.pow 2 40 then pure (List.replicate (skipped + wanted) 0)
        else pure (List.replicate Channel.zeroCount 0)
      | none =>
        match ← Storage.read name with
        | .ok content => pure content
        | .error fault => fail 1 s!"dd: failed to open {curly name}: {fault}"
  let taken := (content.drop skipped).take wanted
  let has (name : String) : Bool := conversions.contains name
  let upper (b : UInt8) : UInt8 := if 97 ≤ b && b ≤ 122 then b - 32 else b
  let lower (b : UInt8) : UInt8 := if 65 ≤ b && b ≤ 90 then b + 32 else b
  let changed := if has "ucase" then taken.map upper else if has "lcase" then taken.map lower
    else taken
  let changed := if has "swab" then swappedPairs changed else changed
  let changed :=
    if has "sync" then
      changed ++ List.replicate ((ibs - changed.length % ibs) % ibs) 0
    else changed
  match settingOf "of" operands with
  | none => Run.write 1 changed
  | some name =>
    if has "excl" && (Storage.find (← get) name).toOption.isSome then
      fail 1 s!"dd: failed to open {curly name}: File exists"
    let offset := seek * obs
    let empties := !has "notrunc" && offset = 0
    match ← Storage.openFile name false true (byBytes "oflag" "append") empties with
    | .error fault => fail 1 s!"dd: failed to open {curly name}: {Storage.wording fault}"
    | .ok channel =>
      let s ← get
      let before : Files :=
        match channel.target, has "notrunc" with
        | .file place, false =>
          match s.files.entry? place with
          | some (.file present) => s.files.put place (.file (present.take offset))
          | _ => s.files
        | _, _ => s.files
      match ({ channel with position := offset } : Channel).written before changed with
      | .ok (files, _) => set { s with files := files }
      | .error fault => fail 1 s!"dd: error writing {curly name}: {fault.message}"
  let status := textOf ((settingOf "status" operands).getD [])
  if status ≠ "none" then
    Run.complainPlain s!"{blockCounts ibs taken.length} records in"
    Run.complainPlain s!"{blockCounts (if bs.isSome then ibs else obs) taken.length} records out"
    if status ≠ "noxfer" then
      let bytes := if taken.length = 1 then "byte" else "bytes"
      Run.complainPlain s!"{taken.length} {bytes} copied, 0.0001 s, {taken.length} kB/s"
  return 0

/-- The letters or digits of a number, so many of them. -/
def pieceEnding (digits : List Char) : Nat → Nat → List Char
  | 0, _ => []
  | count + 1, n =>
    pieceEnding digits count (n / digits.length) ++ [digits.getD (n % digits.length) 'a']

/-- Bytes in pieces of so many. -/
def piecesOf (size : Nat) : Nat → Bytes → List Bytes
  | 0, _ => []
  | fuel + 1, bytes =>
    if bytes.isEmpty then [] else bytes.take size :: piecesOf size fuel (bytes.drop size)

/-- Lines in pieces of so many. -/
def linePieces (count : Nat) : Nat → List Bytes → List Bytes
  | 0, _ => []
  | fuel + 1, lines =>
    if lines.isEmpty then []
    else (lines.take count).flatten :: linePieces count fuel (lines.drop count)

/-- Lines in pieces of at most so many bytes; longer lines are divided. -/
def fittedPieces (size : Nat) (lines : List Bytes) : List Bytes :=
  let (done, last) := lines.foldl (fun (done, last) line =>
    if last.length + line.length ≤ size then (done, last ++ line)
    else
      let done := if last.isEmpty then done else done ++ [last]
      let parts := piecesOf size (line.length + 1) line
      (done ++ parts.dropLast, parts.getLast?.getD [])) (([] : List Bytes), ([] : Bytes))
  if last.isEmpty then done else done ++ [last]

/-- So many pieces of nearly the same size. -/
def evenPieces (count : Nat) (bytes : Bytes) : List Bytes :=
  let size := bytes.length / count
  let larger := bytes.length % count
  (List.range count).map fun n =>
    let start := n * size + min n larger
    (bytes.drop start).take (size + (if n < larger then 1 else 0))

/-- So many pieces of whole lines, of nearly the same size. -/
def evenLines (count : Nat) (bytes : Bytes) : List Bytes :=
  let size := max 1 (bytes.length / count)
  let lines := brokenLines bytes
  let (pieces, _) := lines.foldl (fun ((pieces : List (Nat × Bytes)), place) line =>
    (pieces ++ [(min (place / size) (count - 1), line)], place + line.length)) ([], 0)
  (List.range count).map fun n => (pieces.filter (·.1 = n)).flatMap (·.2)

/-- Split a file into pieces. -/
def split : Program := fun arguments => do
  let manual : Manual :=
    { name := "split"
      choices := [valued 'a' "suffix-length", long "additional-suffix" .required,
        valued 'b' "bytes", valued 'C' "line-bytes", flag 'd' "", long "numeric-suffixes" .optional,
        flag 'x' "", long "hex-suffixes" .optional, flag 'e' "elide-empty-files",
        valued 'l' "lines", valued 'n' "number", valued 't' "separator", long "verbose" .none] }
  let given ← manual.read (arguments.map fun argument =>
    match argument with
    | 45 :: digits => if (number? digits).isSome then [45, 108] ++ digits else argument
    | argument => argument)
  demandAtMost manual 2 given.operands
  let wrong {α : Type} (what : String) (text : Bytes) : Run α :=
    fail 1 s!"split: invalid number of {what}: {curly text}"
  let positive (key what : String) : Run Nat := do
    let text := (given.value? key).getD [49, 48, 48, 48]
    match amount? text with
    | some 0 | none => wrong what text
    | some n => return n
  let kind := given.last? ["b", "C", "l", "n"]
  let size ←
    match kind with
    | some "b" => positive "b" "bytes"
    | some "C" => positive "C" "lines"
    | some "n" =>
      let text := (given.value? "n").getD []
      let digits := if bytesOf "l/" |>.isPrefixOf text then text.drop 2 else text
      match number? digits with
      | some 0 | none => wrong "chunks" text
      | some n => pure n
    | _ => positive "l" "lines"
  let name := given.operands.headD [45]
  let content : Bytes ←
    match ← contentOf name with
    | .ok content => pure content
    | .error fault => fail 1 s!"split: cannot open {straight name} for reading: {fault}"
  let pieces : List Bytes :=
    match kind with
    | some "b" => piecesOf size (content.length + 1) content
    | some "C" => fittedPieces size (brokenLines content)
    | some "n" =>
      if bytesOf "l/" |>.isPrefixOf ((given.value? "n").getD []) then evenLines size content
      else evenPieces size content
    | _ =>
      linePieces size (content.length + 1) (if content.isEmpty then [] else brokenLines content)
  let pieces := if given.has "e" then pieces.filter (!·.isEmpty) else pieces
  let digits : List Char :=
    if given.has "d" || given.has "numeric-suffixes" then "0123456789".toList
    else if given.has "x" || given.has "hex-suffixes" then "0123456789abcdef".toList
    else "abcdefghijklmnopqrstuvwxyz".toList
  let first := ((given.value? "numeric-suffixes").bind number?).getD 0
  let width := ((given.value? "a").bind number?).getD 2
  let front := given.operands.getD 1 [120]
  let ending := (given.value? "additional-suffix").getD []
  for (piece, n) in pieces.zipIdx do
    let letters := bytesOf (String.ofList (pieceEnding digits width (first + n)))
    let name := front ++ letters ++ ending
    if given.has "verbose" then say s!"creating file {straight name}"
    match ← Storage.write name false piece with
    | .ok () => pure ()
    | .error fault => fail 1 s!"split: {named name}: {Storage.wording fault}"
  return 0

/-- A byte as it is shown beside its number. -/
def shownByte (b : UInt8) : String :=
  let plain (b : UInt8) : String :=
    if b < 32 then "^" ++ String.singleton (Char.ofNat (b.toNat + 64))
    else if b = 127 then "^?" else String.singleton (Char.ofNat b.toNat)
  if 128 ≤ b then "M-" ++ plain (b - 128) else plain b

/-- The octal digits of a byte in a column. -/
def octalColumn (b : UInt8) : String :=
  let digits := Nat.toDigits 8 b.toNat
  String.ofList (List.replicate (3 - digits.length) ' ' ++ digits)

/-- Compare two files byte by byte. -/
def compareBytes : Program := fun arguments => do
  let manual : Manual :=
    { name := "cmp"
      choices := [flag 'b' "print-bytes", valued 'i' "ignore-initial", flag 'l' "verbose",
        valued 'n' "bytes", ⟨['s'], "silent", .none⟩, long "quiet" .none]
      mistake := 2 }
  let given ← manual.read arguments
  let (first, second) ←
    match given.operands with
    | [] => misuse manual "missing operand after 'cmp'"
    | [only] => pure (only, [45])
    | first :: second :: _ => pure (first, second)
  let silent := given.has "s" || given.has "quiet"
  let readOne (name : Bytes) : Run Bytes := do
    match ← contentOf name with
    | .ok content => return content
    | .error fault =>
      if !silent then Run.complainPlain s!"cmp: {textOf name}: {fault}"
      stop 2
  let skipText := (given.value? "i").getD []
  let skips := (skipText.splitOn 58).map fun text => (amount? text).getD 0
  let firstSkip := (amount? (given.operands.getD 2 [])).getD (skips.headD 0)
  let secondSkip := (amount? (given.operands.getD 3 [])).getD (skips.getLast?.getD 0)
  let most := ((given.value? "n").bind amount?).getD (Nat.pow 2 62)
  let a := ((← readOne first).drop firstSkip).take most
  let b := ((← readOne second).drop secondSkip).take most
  if first = second && firstSkip = secondSkip then return 0
  let pairs := (a.zip b).zipIdx
  let differing := pairs.filter fun ((x, y), _) => x ≠ y
  let shorter : Option (Bytes × Bytes) :=
    if a.length < b.length then some (first, a)
    else if b.length < a.length then some (second, b) else none
  if differing.isEmpty && shorter.isNone then return 0
  if silent then return 1
  let describe (x y : UInt8) : String :=
    s!"{octalColumn x} {shownByte x} {octalColumn y} {shownByte y}"
  if given.has "l" then
    let width := (toString (max a.length b.length)).length
    for ((x, y), n) in differing do
      let place := toString (n + 1)
      let blanks := String.ofList (List.replicate (width - place.length) ' ')
      let shown := shownByte x ++ String.ofList (List.replicate (4 - (shownByte x).length) ' ')
      say (blanks ++ place ++ " " ++
        (if given.has "b" then s!"{octalColumn x} {shown} {octalColumn y} {shownByte y}"
          else s!"{octalColumn x} {octalColumn y}"))
  else
    match differing.head? with
    | some ((x, y), n) =>
      let line := ((a.take n).filter (· = 10)).length + 1
      let about := if given.has "b" then s!" is {describe x y}" else ""
      let unit := "byte"
      say s!"{textOf first} {textOf second} differ: {unit} {n + 1}, line {line}{about}"
      return 1
    | none => pure ()
  match shorter with
  | some (name, content) =>
    let about :=
      if content.isEmpty then "which is empty"
      else
        let lines := (content.filter (· = 10)).length
        if given.has "l" then s!"after byte {content.length}"
        else if content.getLast? = some 10 then
          s!"after byte {content.length}, line {lines}"
        else s!"after byte {content.length}, in line {lines + 1}"
    Run.complainPlain s!"cmp: EOF on {textOf name} {about}"
  | none => pure ()
  return 1

end ConfigTemplate.Shell.Programs
