import ConfigTemplate.Shell.Programs.Calendar
import ConfigTemplate.Shell.Programs.Moving
import ConfigTemplate.Shell.Programs.Sort

/-!
# Listings

The program that lists what lies in directories: one name to a line, in columns, or with rights,
sizes and times.
-/

namespace ConfigTemplate.Shell.Programs

open Text (Bytes)
open Run (bytesOf textOf)

/-- The size of a kind in bytes. -/
def Kind.size : Kind → Nat
  | .file content => content.length
  | .directory => 4096
  | .link text => text.utf8ByteSize
  | .device => 0

/-- The blocks of 1024 bytes that a kind takes. -/
def Kind.blocks : Kind → Nat
  | .file content => (content.length + 4095) / 4096 * 4
  | .directory => 4
  | _ => 0

/-- The letter of a kind and the letters of its rights. -/
def Kind.rights (mode : Nat) : Kind → String
  | .file _ => "-" ++ Rights.shown mode
  | .directory => "d" ++ Rights.shown mode
  | .link _ => "lrwxrwxrwx"
  | .device => "c" ++ Rights.shown mode

/-- The number of names of what lies at a place. -/
def nameCount (s : State) (place : Place) : Kind → Nat
  | .directory =>
    2 + ((Storage.namesIn s place).filter fun name =>
      kindAt? s (place ++ [name]) = some .directory).length
  | _ => 1

/-- A number of bytes with a unit of 1024 or of 1000, rounded up. -/
def humanSize (base n : Nat) : String :=
  if n < base then toString n
  else
    let power := ((List.range 6).find? fun p =>
      n ≤ base.pow (p + 2) - base.pow (p + 1) / 2).getD 6 + 1
    let power := if n < base.pow power then power - 1 else power
    let unit := base.pow power
    let letter := (if base = 1000 then "kMGTPE" else "KMGTPE").toList.getD (power - 1) 'K'
    let tenths := (n * 10 + unit - 1) / unit
    if tenths < 100 then s!"{tenths / 10}.{tenths % 10}{letter}"
    else
      let whole := (n + unit - 1) / unit
      if whole < base || power = 6 then s!"{whole}{letter}"
      else
        let letter := (if base = 1000 then "kMGTPE" else "KMGTPE").toList.getD power 'K'
        s!"1.0{letter}"

example : humanSize 1024 13893 = "14K" := by decide +kernel

/-- A name with what is known of it. -/
structure Listed where
  name : Bytes
  place : Place
  kind : Kind

/-- How names are listed. -/
structure ListStyle where
  given : Given
  width : Nat

namespace ListStyle

/-- Whether an option was given. -/
def has (style : ListStyle) (key : String) : Bool := style.given.has key

/-- Whether names come with their rights, sizes and times. -/
def isLong (style : ListStyle) : Bool :=
  (style.given.last? ["l", "n", "g", "o", "full-time", "1", "C", "x", "m"]).any fun key =>
    ["l", "n", "g", "o", "full-time"].contains key ||
      (key = "1" && ["l", "n", "g", "o", "full-time"].any style.given.has)

/-- A name as it is shown. -/
def shown (style : ListStyle) (name : Bytes) : Bytes :=
  match style.given.last? ["Q", "b", "N", "q"] with
  | some "Q" =>
    bytesOf ("\"" ++ String.ofList ((textOf name).toList.flatMap fun c =>
      if c = '"' || c = '\\' then ['\\', c] else (controlEscape? c).getD [c]) ++ "\"")
  | some "b" =>
    bytesOf (String.ofList ((textOf name).toList.flatMap fun c =>
      if c = ' ' || c = '\\' then ['\\', c] else (controlEscape? c).getD [c]))
  | some "q" =>
    bytesOf (String.ofList ((textOf name).toList.map fun c =>
      if (controlEscape? c).isSome then '?' else c))
  | _ => name

/-- The sign that follows a name to tell its kind. -/
def sign (style : ListStyle) (s : State) (listed : Listed) : Bytes :=
  if !(style.has "F" || style.has "p") then []
  else
    match listed.kind with
    | .directory => [47]
    | .link _ => if style.has "F" then [64] else []
    | .file _ =>
      if style.has "F" && Storage.modeOf s listed.place &&& 0o111 ≠ 0 then [42] else []
    | .device => []

/-- The number of blocks, as far as it is shown, before a name. -/
def front (style : ListStyle) (listed : Listed) : List String :=
  (if style.has "i" then ["1"] else []) ++
    (if style.has "s" then
      [if style.has "h" then humanSize 1024 (listed.kind.blocks * 1024)
        else toString listed.kind.blocks] else [])

/-- The size of a file as it is shown. -/
def sizeText (style : ListStyle) (kind : Kind) : String :=
  if style.has "h" then humanSize 1024 kind.size
  else if style.has "si" then humanSize 1000 kind.size
  else toString kind.size

/-- The time of a file as it is shown. -/
def timeText (style : ListStyle) (s : State) (place : Place) : String :=
  let seconds := Storage.stampOf s place
  let now := Storage.now s
  let name := if style.has "full-time" then "full-iso"
    else textOf ((style.given.value? "time-style").getD [])
  if name.startsWith "+" then Calendar.shownBy seconds (name.drop 1).toString
  else
    match name with
    | "full-iso" => Calendar.shownBy seconds "%Y-%m-%d %H:%M:%S.%N %z"
    | "long-iso" => Calendar.shownBy seconds "%Y-%m-%d %H:%M"
    | _ =>
      if seconds ≤ now && now - 15778476 < seconds then Calendar.shownBy seconds "%b %e %H:%M"
      else Calendar.shownBy seconds "%b %e  %Y"

/-- The columns of a long listing for a name, before the name. -/
def longParts (style : ListStyle) (s : State) (listed : Listed) : List String :=
  let owner := if style.has "n" then "0" else "root"
  [listed.kind.rights (Storage.modeOf s listed.place),
    toString (nameCount s listed.place listed.kind)] ++
  (if style.has "g" then [] else [owner]) ++
  (if style.has "o" || style.has "G" then [] else [owner]) ++
  [if listed.kind = .device then "1, 3" else style.sizeText listed.kind,
    style.timeText s listed.place]

/-- A name with what follows it. -/
def withSign (style : ListStyle) (s : State) (listed : Listed) : Bytes :=
  style.shown listed.name ++ style.sign s listed

/-- The names of a long listing. -/
def longLines (style : ListStyle) (s : State) (all : List Listed) : List Bytes :=
  let rows := all.map fun listed => style.front listed ++ style.longParts s listed
  let count := (rows.head?.map List.length).getD 0
  let widths := (List.range count).map fun n =>
    ((rows.map fun row => (row.getD n "").length).max?).getD 0
  let frontCount := (all.head?.map fun listed => (style.front listed).length).getD 0
  let last := count - 2
  let isRight (n : Nat) : Bool := n < frontCount || n = frontCount + 1 || n = last
  (rows.zip all).map fun (row, listed) =>
    let cells := (row.zip widths).zipIdx.map fun ((cell, width), n) =>
      let blanks := String.ofList (List.replicate (width - cell.length) ' ')
      if isRight n then blanks ++ cell else cell ++ blanks
    let target : Bytes :=
      match listed.kind with
      | .link text =>
        let sign : Bytes :=
          if style.has "F" then
            match (Storage.find s (bytesOf (pathOf listed.place))).toOption with
            | some .directory => [47]
            | _ => []
          else []
        bytesOf " -> " ++ style.shown (bytesOf text) ++ sign
      | _ => style.sign s listed
    bytesOf (String.intercalate " " cells ++ " ") ++ style.shown listed.name ++ target

/-- Blanks between one column and another, tabs as far as possible. -/
def gap : Nat → Nat → Nat → Bytes
  | 0, _, _ => []
  | fuel + 1, start, stop =>
    if stop ≤ start then []
    else if (start + 1) / 8 < stop / 8 then
      9 :: gap fuel (start + 8 - start % 8) stop
    else 32 :: gap fuel (start + 1) stop

/-- The number of characters of a text. -/
def columnsOf (text : Bytes) : Nat := (textOf text).length

/-- The widths of columns if texts are laid out in so many of them; none if they do not fit. -/
def widthsOf? (line : Nat) (across : Bool) (texts : Array Bytes) (columns : Nat) :
    Option (List Nat) :=
  let rows := (texts.size + columns - 1) / columns
  let indexOf (n : Nat) : Nat := if across then n % columns else n / rows
  let widths := (List.range texts.size).foldl (fun widths n =>
    let index := indexOf n
    let size := columnsOf (texts.getD n []) + (if index = columns - 1 then 0 else 2)
    widths.modify index (max size)) (Array.replicate columns 3)
  let total := widths.foldl (· + ·) 0
  if total < line then some widths.toList else none

/-- Texts in as many columns as fit. -/
def inColumns (line : Nat) (across : Bool) (texts : List Bytes) : List Bytes :=
  let all := texts.toArray
  let most := min all.size (max 1 (line / 3))
  let found := (List.range most).reverse.findSome? fun n =>
    (widthsOf? line across all (n + 1)).map fun widths => (n + 1, widths)
  let (columns, widths) := found.getD (1, [0])
  let rows := (all.size + columns - 1) / columns
  (List.range rows).map fun row =>
    let members := (List.range columns).filterMap fun column =>
      let index := if across then row * columns + column else column * rows + row
      all[index]?.map fun text => (text, widths.getD column 0)
    let rec go (place : Nat) : List (Bytes × Nat) → Bytes
      | [] => []
      | [(text, _)] => text
      | (text, width) :: rest =>
        text ++ gap 400 (place + columnsOf text) (place + width) ++ go (place + width) rest
    go 0 members

/-- Texts between commas, in lines. -/
def withCommas (line : Nat) : Nat → List Bytes → Bytes
  | _, [] => [10]
  | place, text :: rest =>
    let length := columnsOf text + (if rest.isEmpty then 0 else 2)
    let isFirst := place = 0
    let fits := isFirst || place + length < line
    let comma : Bytes := if rest.isEmpty then [] else [44]
    let front : Bytes := if isFirst then [] else if fits then [32] else [10]
    let place := if fits then place + length else length
    front ++ text ++ comma ++ withCommas line place rest

/-- What is written for names. -/
def written (style : ListStyle) (s : State) (all : List Listed) : Bytes :=
  let ending : UInt8 := if style.has "zero" then 0 else 10
  if style.isLong then (style.longLines s all).flatMap (· ++ [ending])
  else
    let widths := all.map fun listed => (style.front listed).map String.length
    let count := (widths.head?.map List.length).getD 0
    let most := (List.range count).map fun n => ((widths.map (·.getD n 0)).max?).getD 0
    let texts := all.map fun listed =>
      let cells := ((style.front listed).zip most).map fun (cell, width) =>
        String.ofList (List.replicate (width - cell.length) ' ') ++ cell ++ " "
      bytesOf (String.join cells) ++ style.withSign s listed
    match style.given.last? ["1", "C", "x", "m", "zero"] with
    | some "C" => if texts.isEmpty then [] else ofLines (inColumns style.width false texts)
    | some "x" => if texts.isEmpty then [] else ofLines (inColumns style.width true texts)
    | some "m" => if texts.isEmpty then [] else withCommas style.width 0 texts
    | _ => texts.flatMap (· ++ [ending])

/-- The ending of a name after its last dot. -/
def endingOf (name : Bytes) : Bytes :=
  match (name.splitOn 46).reverse with
  | last :: _ :: _ => 46 :: last
  | _ => []

/-- Names in order. -/
def sorted (style : ListStyle) (s : State) (all : List Listed) : List Listed :=
  let by_ (key : Listed → Listed → Ordering) : List Listed :=
    all.mergeSort fun a b =>
      match key a b with
      | .lt => true
      | .gt => false
      | .eq => bytesLe a.name b.name
  let how : String :=
    match style.given.last? ["t", "S", "U", "v", "X", "f", "sort"] with
    | some "sort" =>
      match textOf ((style.given.value? "sort").getD []) with
      | "time" => "t"
      | "size" => "S"
      | "version" => "v"
      | "extension" => "X"
      | "none" => "U"
      | _ => ""
    | some key => key
    | none => ""
  let ordered : List Listed :=
    match how with
    | "t" => by_ fun a b => compare (Storage.stampOf s b.place) (Storage.stampOf s a.place)
    | "S" => by_ fun a b => compare b.kind.size a.kind.size
    | "v" => by_ fun a b => Versions.order a.name b.name
    | "X" => by_ fun a b => Ordered.byteOrder (endingOf a.name) (endingOf b.name)
    | "U" | "f" => all
    | _ => by_ fun _ _ => .eq
  let ordered := if style.has "r" && how ≠ "U" && how ≠ "f" then ordered.reverse else ordered
  if style.has "group-directories-first" then
    ordered.filter (·.kind = .directory) ++ ordered.filter (·.kind ≠ .directory)
  else ordered

/-- Whether a name is left out of a directory's listing. -/
def isHidden (style : ListStyle) (name : Bytes) : Bool :=
  let matchesAny (key : String) : Bool :=
    style.given.options.any fun (k, pattern) =>
      k = key && isMatch ((textOf pattern).toList.map (·, false)) (textOf name).toList
  let all := style.has "a" || style.has "A" || style.has "f"
  (!all && name.head? = some 46) || matchesAny "I" || (!all && matchesAny "hide") ||
    (style.has "B" && name.getLast? = some 126)

/-- What a directory holds as far as it is listed. -/
def inside (style : ListStyle) (s : State) (place : Place) : List Listed :=
  let own : List Listed :=
    if style.has "a" || style.has "f" then
      [⟨[46], place, .directory⟩, ⟨[46, 46], place.dropLast, .directory⟩]
    else []
  let children := (childrenOf s place).filterMap fun name =>
    if style.isHidden name then none
    else
      let inner := place ++ [textOf name]
      (kindAt? s inner).map fun kind => ⟨name, inner, kind⟩
  style.sorted s (own ++ children)

/-- What is written for a directory. -/
def directoryText (style : ListStyle) (s : State) (place : Place) : Bytes :=
  let all := style.inside s place
  let total := (all.map fun listed => listed.kind.blocks).foldl (· + ·) 0
  let shown := if style.has "h" then humanSize 1024 (total * 1024) else toString total
  (if style.isLong || style.has "s" then bytesOf s!"total {shown}\n" else []) ++
    style.written s all

/-- What is written for directories and, if that is asked for, for those within them. -/
def directories (style : ListStyle) (s : State) :
    Nat → Bool → Bool → List (Bytes × Place) → Bytes
  | 0, _, _, _ => []
  | _ + 1, _, _, [] => []
  | fuel + 1, titled, isFirst, (name, place) :: rest =>
    let inner : List (Bytes × Place) :=
      if style.has "R" then
        (style.inside s place).filterMap fun listed =>
          if listed.kind = .directory && !isDots listed.name then
            some (below name listed.name, listed.place)
          else none
      else []
    (if isFirst then [] else [10]) ++
      (if titled then style.shown name ++ [58, 10] else []) ++
      style.directoryText s place ++
      directories style s fuel titled false (inner ++ rest)

end ListStyle

/-- The number of directories that are listed at most. -/
def mostListed : Nat := 100000

/-- List what lies in directories. -/
def list : Program := fun arguments => do
  let manual : Manual :=
    { name := "ls"
      choices := [flag 'a' "all", flag 'A' "almost-all", flag 'b' "escape",
        flag 'B' "ignore-backups", flag 'c' "", flag 'C' "", flag 'd' "directory", flag 'D' "dired",
        flag 'f' "", flag 'F' "", flag 'g' "", flag 'G' "no-group", flag 'h' "human-readable",
        flag 'H' "dereference-command-line", flag 'i' "inode", valued 'I' "ignore",
        flag 'k' "kibibytes", flag 'l' "", flag 'L' "dereference", flag 'm' "",
        flag 'n' "numeric-uid-gid", flag 'N' "literal", flag 'o' "", flag 'p' "",
        flag 'q' "hide-control-chars", flag 'Q' "quote-name", flag 'r' "reverse",
        flag 'R' "recursive", flag 's' "size", flag 'S' "", flag 't' "", valued 'T' "tabsize",
        flag 'u' "", flag 'U' "", flag 'v' "", valued 'w' "width", flag 'x' "", flag 'X' "",
        flag 'Z' "context", flag '1' "", long "color" .optional, long "classify" .optional,
        long "file-type" .none, long "full-time" .none, long "group-directories-first" .none,
        long "hide" .required, long "indicator-style" .required, long "si" .none,
        long "sort" .required, long "time" .required, long "time-style" .required,
        long "zero" .none, long "show-control-chars" .none, long "format" .required,
        long "quoting-style" .required, long "author" .none, long "block-size" .required]
      mistake := 2 }
  let given ← manual.read arguments
  let given := { given with options := given.options.map fun (key, value) =>
    if key = "classify" then ("F", value) else if key = "file-type" then ("p", value)
    else (key, value) }
  let width := ((given.value? "w").bind number?).getD 80
  let style : ListStyle := ⟨given, if width = 0 then 100000 else width⟩
  let s ← get
  let names := if given.operands.isEmpty then [[46]] else given.operands
  let followsUsually := given.has "L" || given.has "H" ||
    !(style.isLong || given.has "F" || given.has "d")
  let (found, status) ← names.foldlM (fun (found, status) name => do
    let first := look s name followsUsually
    match (if first.toOption.isNone then look s name false else first) with
    | .ok (place, kind) => return (found ++ [(⟨name, place, kind⟩ : Listed)], status)
    | .error fault =>
      Run.complainPlain s!"ls: cannot access {straight name}: {fault}"
      return (found, 2)) (([] : List Listed), 0)
  let isListed (listed : Listed) : Bool := listed.kind = .directory && !given.has "d"
  let files := style.sorted s (found.filter (!isListed ·))
  let inner := style.sorted s (found.filter isListed)
  Run.write 1 (style.written s files)
  let titled := 1 < names.length || given.has "R"
  Run.write 1 (style.directories s mostListed titled files.isEmpty
    (inner.map fun listed => (listed.name, listed.place)))
  return status

end ConfigTemplate.Shell.Programs
