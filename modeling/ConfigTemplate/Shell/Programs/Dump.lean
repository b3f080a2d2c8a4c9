import ConfigTemplate.Shell.Programs.Places

/-!
# Dumps

The program that shows the bytes of files: as numbers of some size in some base, as characters, or
by the names of characters, with the place of each line in front of it.
-/

namespace ConfigTemplate.Shell.Programs

open Text (Bytes)
open Run (bytesOf textOf)

/-- How bytes are shown. -/
inductive DumpKind where
  | characters
  | names
  /-- Numbers in a base, whether they have signs, and of how many bytes. -/
  | numbers (base : Nat) (signed : Bool) (size : Nat)
  deriving DecidableEq

/-- A way to show bytes, and whether the line ends with its printable characters. -/
structure DumpFormat where
  kind : DumpKind
  showsText : Bool

namespace DumpKind

/-- The number of bytes that are shown together. -/
def size : DumpKind → Nat
  | characters | names => 1
  | numbers _ _ size => size

/-- The number of characters that a number of so many bytes takes in a base. -/
def digitWidth (base size : Nat) : Nat := (Nat.toDigits base (Nat.pow 256 size - 1)).length

/-- The width in which bytes that belong together are shown. -/
def width : DumpKind → Nat
  | characters | names => 3
  | numbers 10 true size => digitWidth 10 size + (if size = 8 then 0 else 1)
  | numbers base _ size => digitWidth base size

/-- The names of the first characters. -/
def controlNames : List String :=
  ["nul", "soh", "stx", "etx", "eot", "enq", "ack", "bel", "bs", "ht", "nl", "vt", "ff", "cr",
    "so", "si", "dle", "dc1", "dc2", "dc3", "dc4", "nak", "syn", "etb", "can", "em", "sub",
    "esc", "fs", "gs", "rs", "us", "sp"]

/-- A byte as a character. -/
def characterText (b : UInt8) : String :=
  let escapes : List (Nat × String) :=
    [(0, "\\0"), (7, "\\a"), (8, "\\b"), (9, "\\t"), (10, "\\n"), (11, "\\v"), (12, "\\f"),
      (13, "\\r")]
  match escapes.find? (·.1 = b.toNat) with
  | some (_, text) => text
  | none =>
    if 32 ≤ b && b < 127 then String.singleton (Char.ofNat b.toNat)
    else
      let digits := Nat.toDigits 8 b.toNat
      String.ofList (List.replicate (3 - digits.length) '0' ++ digits)

/-- A byte by its name. -/
def nameText (b : UInt8) : String :=
  let n := b.toNat % 128
  if n = 127 then "del"
  else controlNames.getD n (String.singleton (Char.ofNat n))

/-- Bytes that belong together, the lowest one first. -/
def text (bytes : Bytes) : DumpKind → String
  | characters => characterText (bytes.headD 0)
  | names => nameText (bytes.headD 0)
  | numbers base signed size =>
    let n : Nat := bytes.reverse.foldl (fun n b => n * 256 + b.toNat) 0
    if signed then
      let limit := Nat.pow 256 size
      toString (if 2 * n < limit then (n : Int) else (n : Int) - limit)
    else
      let digits := Nat.toDigits base n
      let zeros := if base = 10 then 0 else digitWidth base size - digits.length
      String.ofList (List.replicate zeros '0' ++ digits)

end DumpKind

/-- The ways that a text of types asks for; the sign that is none otherwise. -/
def dumpFormats : Nat → List Char → Except Char (List DumpFormat)
  | 0, _ => .ok []
  | _ + 1, [] => .ok []
  | fuel + 1, c :: rest => do
    let ending (kind : DumpKind) (rest : List Char) : Except Char (List DumpFormat) :=
      match rest with
      | 'z' :: rest => (dumpFormats fuel rest).map (⟨kind, true⟩ :: ·)
      | rest => (dumpFormats fuel rest).map (⟨kind, false⟩ :: ·)
    let sized (base : Nat) (signed : Bool) : Except Char (List DumpFormat) :=
      let digits := rest.takeWhile Char.isDigit
      if digits.isEmpty then
        match rest with
        | 'C' :: rest => ending (.numbers base signed 1) rest
        | 'S' :: rest => ending (.numbers base signed 2) rest
        | 'I' :: rest => ending (.numbers base signed 4) rest
        | 'L' :: rest => ending (.numbers base signed 8) rest
        | rest => ending (.numbers base signed 4) rest
      else
        let n := digits.foldl (fun n c => n * 10 + (c.toNat - 48)) 0
        if [1, 2, 4, 8].contains n then
          ending (.numbers base signed n) (rest.drop digits.length)
        else .error (digits.headD '0')
    match c with
    | 'a' => ending .names rest
    | 'c' => ending .characters rest
    | 'd' => sized 10 true
    | 'o' => sized 8 false
    | 'u' => sized 10 false
    | 'x' => sized 16 false
    | c => throw c

/-- The formats that letters of options stand for. -/
def usualDumps : List (String × String) :=
  [("a", "a"), ("b", "o1"), ("c", "c"), ("d", "u2"), ("D", "u4"), ("h", "x2"), ("i", "d4"),
    ("I", "d8"), ("l", "d8"), ("L", "d8"), ("o", "o2"), ("O", "o4"), ("s", "d2"), ("x", "x2"),
    ("X", "x4"), ("e", "u8"), ("B", "o2")]

/-- A line of bytes in one of the ways. Bytes that belong together stand as wide as those of the
other ways do. -/
def dumpLine (perLine : Nat) (formats : List DumpFormat) (format : DumpFormat) (bytes : Bytes) :
    String :=
  let size := format.kind.size
  let perByte (f : DumpFormat) (bytes : Nat) : Nat :=
    (f.kind.width + 1) * (bytes / f.kind.size)
  let block := (formats.map fun f => f.kind.size).foldl max 1
  let room := (formats.map fun f => perByte f block).foldl max 0
  let count := block / size
  let own := (format.kind.width + 1) * count
  let extra := room - own
  let cells := (List.range ((bytes.length + size - 1) / size)).map fun n =>
    let part := (bytes.drop (n * size)).take size
    let part := part ++ List.replicate (size - part.length) 0
    let text := format.kind.text part
    let inBlock := n % count
    let blanks := extra * (count - inBlock) / count - extra * (count - inBlock - 1) / count
    String.ofList (List.replicate (format.kind.width - text.length + 1 + blanks) ' ') ++ text
  let line := String.join cells
  if !format.showsText then line
  else
    let whole := room * (perLine / block)
    let shown := bytes.map fun b => if 32 ≤ b && b < 127 then Char.ofNat b.toNat else '.'
    line ++ String.ofList (List.replicate (whole - line.length) ' ') ++ "  >" ++
      String.ofList shown ++ "<"

/-- A place in front of a line. -/
def dumpPlace (radix : Char) (place : Nat) : String :=
  let inBase (base width : Nat) : String :=
    let digits := Nat.toDigits base place
    String.ofList (List.replicate (width - digits.length) '0' ++ digits)
  match radix with
  | 'x' => inBase 16 6
  | 'd' => inBase 10 7
  | 'n' => ""
  | _ => inBase 8 7

/-- The lines of a dump. A line of the same bytes as the one before is left out, and a star stands
for all such lines. -/
def dumpLines (radix : Char) (perLine : Nat) (all : Bool) (formats : List DumpFormat) :
    Nat → Nat → Option Bytes → Bool → Bytes → List String
  | 0, _, _, _, _ => []
  | fuel + 1, place, before, starred, bytes =>
    if bytes.isEmpty then
      if radix = 'n' then [] else [dumpPlace radix place]
    else
      let part := bytes.take perLine
      let rest := bytes.drop perLine
      let next := place + part.length
      if !all && before = some part && part.length = perLine && !rest.isEmpty then
        let more := dumpLines radix perLine all formats fuel next before true rest
        if starred then more else "*" :: more
      else if !all && before = some part && part.length = perLine then
        let more := dumpLines radix perLine all formats fuel next before true rest
        if starred then more else "*" :: more
      else
        let front := dumpPlace radix place
        let lines := formats.zipIdx.map fun (format, n) =>
          (if n = 0 then front else String.ofList (List.replicate front.length ' ')) ++
            dumpLine perLine formats format part
        lines ++ dumpLines radix perLine all formats fuel next (some part) false rest

/-- Show the bytes of files. -/
def dump : Program := fun arguments => do
  let manual : Manual :=
    { name := "od"
      choices := [valued 'A' "address-radix", valued 'j' "skip-bytes", valued 'N' "read-bytes",
        valued 't' "format", flag 'v' "output-duplicates", ⟨['w'], "width", .optional⟩,
        valued 'S' ""] ++ usualDumps.flatMap (fun (key, _) => flags key) }
  let given ← manual.read arguments
  let kinds := given.options.filterMap fun (key, value) =>
    if key = "t" then some (textOf value)
    else (usualDumps.find? (·.1 = key)).map (·.2)
  let kinds := if kinds.isEmpty then ["o2"] else kinds
  let formats ← kinds.mapM fun kind => do
    match dumpFormats (kind.length + 1) kind.toList with
    | .ok formats => pure formats
    | .error c =>
      fail 1 s!"od: invalid character '{c}' in type string {curly (bytesOf kind)}"
  let formats := formats.flatten
  let radix := ((textOf ((given.value? "A").getD [111])).toList).headD 'o'
  if ¬ ['o', 'd', 'x', 'n'].contains radix then
    fail 1 s!"od: invalid output address radix '{radix}'; it must be one character from [doxn]"
  let amount (key : String) : Run (Option Nat) := do
    match given.value? key with
    | none => return none
    | some text =>
      match amount? text with
      | some n => return some n
      | none => fail 1 s!"od: invalid -{key} argument {curly text}"
  let skipped := (← amount "j").getD 0
  let most ← amount "N"
  let block := (formats.map fun f => f.kind.size).foldl max 1
  let perLine : Nat :=
    match given.value? "w" with
    | none => 16
    | some text => if text.isEmpty then 32 else (number? text).getD 16
  let perLine := if perLine = 0 || perLine % block ≠ 0 then block else perLine
  let (content, status) ← contents "od" 1 given.operands
  if content.length < skipped then fail 1 "od: cannot skip past end of combined input"
  let bytes := content.drop skipped
  let bytes := most.elim bytes bytes.take
  if status ≠ 0 && content.isEmpty && !given.operands.isEmpty then return status
  let lines := dumpLines radix perLine (given.has "v") formats (bytes.length + 2) skipped none
    false bytes
  lines.forM say
  return status

end ConfigTemplate.Shell.Programs
