import ConfigTemplate.Shell.Format
import ConfigTemplate.Shell.Programs.Listing

/-!
# What is known of files

The programs that set the times, rights and sizes of files, and that show what is known of them.
-/

namespace ConfigTemplate.Shell.Programs

open Text (Bytes)
open Run (bytesOf textOf)

/-- Make files, or set their times. -/
def touch : Program := fun arguments => do
  let manual : Manual :=
    { name := "touch"
      choices := [flag 'a' "", flag 'c' "no-create", valued 'd' "date", flag 'f' "",
        flag 'h' "no-dereference", flag 'm' "", valued 'r' "reference", valued 't' "",
        long "time" .required]
        }
  let given ← manual.read arguments
  let s ← get
  let now := Storage.now s
  let second : Int ←
    match given.last? ["d", "t", "r"] with
    | some "d" =>
      let text := (given.value? "d").getD []
      match Calendar.secondsOf? now (textOf text) with
      | some second => pure second
      | none => fail 1 s!"touch: invalid date format {curly text}"
    | some "t" =>
      let text := (given.value? "t").getD []
      match Calendar.ofStamp? now (textOf text) with
      | some second => pure second
      | none => fail 1 s!"touch: invalid date format {curly text}"
    | some _ =>
      let name := (given.value? "r").getD []
      match look s name true with
      | .ok (place, _) => pure (Storage.stampOf s place)
      | .error fault =>
        fail 1 s!"touch: failed to get attributes of {straight name}: {fault}"
    | none => pure now
  if given.operands.isEmpty then misuse manual "missing file operand"
  forEach given.operands fun name => do
    let complain (what fault : String) : Run Nat := do
      Run.complainPlain s!"touch: {what} {straight name}: {fault}"
      return 1
    match look (← get) name (!given.has "h") with
    | .ok (place, _) =>
      Storage.stamp place second
      return 0
    | .error fault =>
      if given.has "c" || given.has "h" then
        if fault = Storage.wording .missing then return 0
        else complain "setting times of" fault
      else if endsWithSlash name then complain "setting times of" fault
      else
        match ← Storage.openFile name false true true false with
        | .error fault => complain "cannot touch" (Storage.wording fault)
        | .ok channel =>
          match channel.target with
          | .file place => Storage.stamp place second
          | _ => pure ()
          return 0

/-- Set the rights of what lies at a place, and of what lies below it. -/
def changeMode (given : Given) (change : Bool → Nat → Nat) :
    Nat → Bytes → Place → Run Nat
  | 0, _, _ => return 1
  | fuel + 1, name, place => do
    let s ← get
    let isDirectory := kindAt? s place = some .directory
    let before := Storage.modeOf s place
    let after := change isDirectory before
    setMode place after
    let describe (mode : Nat) : String := s!"{Rights.digits 4 mode} ({Rights.shown mode})"
    if given.has "v" || given.has "c" then
      if before ≠ after then
        say s!"mode of {straight name} changed from {describe before} to {describe after}"
      else if given.has "v" then
        say s!"mode of {straight name} retained as {describe before}"
    if given.has "R" && isDirectory then
      forEach (childrenOf s place) fun child => do
        match kindAt? (← get) (place ++ [textOf child]) with
        | some (.link _) | none => return 0
        | some _ => changeMode given change fuel (below name child) (place ++ [textOf child])
    else return 0

/-- Whether an argument is a mode that takes rights away rather than an option. -/
def isModeText (argument : Bytes) : Bool :=
  match argument with
  | 45 :: b :: rest =>
    "rwxXstugo".toList.contains (Char.ofNat b.toNat) &&
      rest.all fun b => "rwxXstugoa,=+-".toList.contains (Char.ofNat b.toNat)
  | _ => false

/-- Set the rights of files. -/
def changeModes : Program := fun arguments => do
  let manual : Manual :=
    { name := "chmod"
      choices := [flag 'R' "recursive", flag 'v' "verbose", flag 'c' "changes",
        ⟨['f'], "silent", .none⟩, long "quiet" .none, long "reference" .required,
        long "preserve-root" .none, long "no-preserve-root" .none] }
  let protected_ : List Bytes :=
    match arguments.findIdx? isModeText with
    | some n =>
      if (arguments.take n).contains [45, 45] then arguments
      else arguments.take n ++ [[45, 45]] ++ arguments.drop n
    | none => arguments
  let given ← manual.read protected_
  let s ← get
  let (modeText, names) : Bytes × List Bytes ←
    match given.value? "reference" with
    | some other =>
      match look s other true with
      | .ok (place, _) =>
        pure (bytesOf (Rights.digits 4 (Storage.modeOf s place)), given.operands)
      | .error fault =>
        fail 1 s!"chmod: failed to get attributes of {straight other}: {fault}"
    | none =>
      match given.operands with
      | [] => misuse manual "missing operand"
      | text :: names => pure (text, names)
  if names.isEmpty then
    if (given.value? "reference").isSome then misuse manual "missing operand"
    else misuse manual s!"missing operand after {curly modeText}"
  if (Rights.changed? 0 false 0 (textOf modeText)).isNone then
    misuse manual s!"invalid mode: {curly modeText}"
  let mask := s.process.mask
  let change (isDirectory : Bool) (mode : Nat) : Nat :=
    (Rights.changed? mask isDirectory mode (textOf modeText)).getD mode
  forEach names fun name => do
    match look (← get) name true with
    | .ok (place, _) => changeMode given change deepest name place
    | .error fault =>
      if !(given.has "f" || given.has "quiet") then
        Run.complainPlain s!"chmod: cannot access {straight name}: {fault}"
      return 1

/-- Set the owners of files, which makes no difference. -/
def changeOwners (program what : String) : Program := fun arguments => do
  let manual : Manual :=
    { name := program
      choices := [flag 'R' "recursive", flag 'v' "verbose", flag 'c' "changes", flag 'f' "silent",
        flag 'h' "no-dereference", long "dereference" .none, long "reference" .required] }
  let given ← manual.read arguments
  let names ←
    if (given.value? "reference").isSome then pure given.operands
    else do
      match given.operands with
      | [] => misuse manual "missing operand"
      | [owner] => misuse manual s!"missing operand after {curly owner}"
      | owner :: names =>
        let parts := (textOf owner).splitOn ":"
        let isKnown (part : String) : Bool :=
          part.isEmpty || part = "root" || part.toList.all Char.isDigit
        if !parts.all isKnown then fail 1 s!"{program}: invalid {what}: {curly owner}"
        pure names
  forEach names fun name => do
    match look (← get) name (!given.has "h") with
    | .ok _ => return 0
    | .error fault =>
      if !given.has "f" then
        Run.complainPlain s!"{program}: cannot access {straight name}: {fault}"
      return 1

/-- What a letter of a format says of a file. -/
def statPart? (s : State) (name : Bytes) (place : Place) (kind : Kind) (letter : Char) :
    Option String :=
  let mode := Storage.modeOf s place
  let mode : Nat :=
    match kind with
    | .link _ => 0o777
    | _ => mode
  let second := Storage.stampOf s place
  let type : Nat :=
    match kind with
    | .file _ => 0o100000
    | .directory => 0o040000
    | .link _ => 0o120000
    | .device => 0o020000
  match letter with
  | 'n' => some (textOf name)
  | 'N' =>
    some (match kind with
      | .link text => s!"{straight name} -> {straight (bytesOf text)}"
      | _ => straight name)
  | 's' => some (toString kind.size)
  | 'a' => some (Rights.digits 1 mode)
  | 'A' => some (kind.rights mode)
  | 'F' => some kind.shown
  | 'f' => some (String.ofList (Nat.toDigits 16 (type + mode)))
  | 'h' => some (toString (nameCount s place kind))
  | 'u' | 'g' => some "0"
  | 'U' | 'G' => some "root"
  | 'b' => some (toString (kind.blocks * 2))
  | 'B' => some "512"
  | 'o' => some "4096"
  | 'i' => some "1"
  | 'd' | 't' | 'T' | 'D' => some "0"
  | 'm' => some "/"
  | 'X' | 'Y' | 'Z' => some (toString second)
  | 'x' | 'y' | 'z' => some (Calendar.shownBy second "%Y-%m-%d %H:%M:%S.%N %z")
  | 'W' => some "0"
  | 'w' => some "-"
  | '%' => some "%"
  | _ => none

/-- A format with what it says of a file. -/
def statText (s : State) (name : Bytes) (place : Place) (kind : Kind) :
    Nat → List Char → List Char
  | 0, _ => []
  | _ + 1, [] => []
  | fuel + 1, '%' :: rest =>
    let signs := rest.takeWhile "-0 +#'".toList.contains
    let body := rest.drop signs.length
    let digits := body.takeWhile Char.isDigit
    let body := body.drop digits.length
    let width := Calendar.numberOf digits
    let (precision, body) : Option Nat × List Char :=
      match body with
      | '.' :: more =>
        let digits := more.takeWhile Char.isDigit
        (some (Calendar.numberOf digits), more.drop digits.length)
      | _ => (none, body)
    match body with
    | [] => '%' :: rest
    | letter :: after =>
      let text := ((statPart? s name place kind letter).getD "?").toList
      let text :=
        match precision with
        | some n => if ['n', 'N', 'F', 'A', 'U', 'G'].contains letter then text.take n else text
        | none => text
      let fill := List.replicate (width - text.length)
        (if signs.contains '0' && !signs.contains '-' then '0' else ' ')
      (if signs.contains '-' then text ++ fill else fill ++ text) ++
        statText s name place kind fuel after
  | fuel + 1, c :: rest => c :: statText s name place kind fuel rest

/-- What is shown of a file where no format is given. -/
def usualStat (kind : Kind) : String :=
  let about :=
    match kind with
    | .link _ => "%N"
    | _ => "%n"
  s!"  File: {about}\n  Size: %-10s\tBlocks: %-10b IO Block: %-6o %F\n" ++
    "Device: 0,0\tInode: %-10i  Links: %h\n" ++
    "Access: (%04a/%10.10A)  Uid: (%5u/%8U)   Gid: (%5g/%8G)\n" ++
    "Access: %x\nModify: %y\nChange: %z\n Birth: %w\n"

/-- Show what is known of files. -/
def showStatus : Program := fun arguments => do
  let manual : Manual :=
    { name := "stat"
      choices := [valued 'c' "format", flag 'L' "dereference", flag 'f' "file-system",
        flag 't' "terse", long "printf" .required, long "cached" .required] }
  let given ← manual.read arguments
  demand manual 1 given.operands
  forEach given.operands fun name => do
    let s ← get
    match look s name (given.has "L") with
    | .error fault =>
      Run.complainPlain s!"stat: cannot statx {straight name}: {fault}"
      return 1
    | .ok (place, kind) =>
      let shown (format : String) : Bytes :=
        bytesOf (String.ofList (statText s name place kind (format.length + 1) format.toList))
      match given.last? ["c", "printf"] with
      | some "c" => Run.write 1 (shown (textOf ((given.value? "c").getD [])) ++ [10])
      | some _ =>
        let format := (given.value? "printf").getD []
        let (plain, _) := Format.escaped (format.length + 1) format
        Run.write 1 (shown (textOf plain))
      | none =>
        Run.write 1 (shown (if given.has "t" then
          "%n %s %b %f %u %g %D %i %h %t %T %X %Y %Z %W %o\n" else usualStat kind))
      return 0

/-- The size that a text asks for, from the present one. -/
def newSize? (present : Nat) (text : Bytes) : Option Nat :=
  match text with
  | 43 :: rest => (amount? rest).map (present + ·)
  | 45 :: rest => (amount? rest).map (present - ·)
  | 60 :: rest => (amount? rest).map (min present)
  | 62 :: rest => (amount? rest).map (max present)
  | 47 :: rest => (amount? rest).map fun n => present / max n 1 * n
  | 37 :: rest => (amount? rest).map fun n => (present + n - 1) / max n 1 * n
  | _ => amount? text

/-- Set the sizes of files. -/
def truncate : Program := fun arguments => do
  let manual : Manual :=
    { name := "truncate"
      choices := [flag 'c' "no-create", flag 'o' "io-blocks", valued 'r' "reference",
        valued 's' "size"] }
  let given ← manual.read arguments
  let text : Bytes ←
    match given.value? "s", given.value? "r" with
    | some text, _ => pure text
    | none, some name =>
      match look (← get) name true with
      | .ok (_, kind) => pure (bytesOf (toString kind.size))
      | .error fault => fail 1 s!"truncate: cannot stat {straight name}: {fault}"
    | none, none => misuse manual "you must specify either ‘--size’ or ‘--reference’"
  if (newSize? 0 text).isNone then fail 1 s!"truncate: Invalid number: {curly text}"
  if given.operands.isEmpty then misuse manual "missing file operand"
  forEach given.operands fun name => do
    let isThere := (look (← get) name true).toOption.isSome
    if given.has "c" && !isThere then return 0
    match ← Storage.openFile name false true false false with
    | .error fault =>
      let fault := Storage.wording fault
      Run.complainPlain s!"truncate: cannot open {straight name} for writing: {fault}"
      return 1
    | .ok _ =>
      let content := (← Storage.read name).toOption.getD []
      let size := (newSize? content.length text).getD 0
      let content := content.take size ++ List.replicate (size - content.length) 0
      let _ ← Storage.write name false content
      return 0

/-- The blocks of what lies at a place, with those below it; what is to be written comes first. -/
def usage (s : State) (given : Given) (shown : Nat → String) :
    Nat → Nat → Bytes → Place → Bytes × Nat
  | 0, _, _, _ => ([], 0)
  | fuel + 1, depth, name, place =>
    let ofKind (kind : Kind) : Nat :=
      if given.has "b" then (if kind = .directory then 0 else kind.size)
      else kind.blocks * 1024
    match kindAt? s place with
    | none => ([], 0)
    | some kind =>
      let (text, total) : Bytes × Nat :=
        if kind = .directory then
          (childrenOf s place).foldl (fun (text, total) child =>
            let (more, size) :=
              usage s given shown fuel (depth + 1) (below name child) (place ++ [textOf child])
            (text ++ more, total + size)) ([], ofKind kind)
        else ([], ofKind kind)
      let most := ((given.value? "d").bind number?).getD 1000000
      let isShown := depth = 0 ||
        (!given.has "s" && depth ≤ most && (kind = .directory || given.has "a"))
      (if isShown then text ++ bytesOf (shown total ++ "\t") ++ name ++ [10] else text, total)

/-- Show how much room files take. -/
def diskUsage : Program := fun arguments => do
  let manual : Manual :=
    { name := "du"
      choices := [flag 'a' "all", flag 'b' "bytes", flag 'c' "total", valued 'd' "max-depth",
        flag 'h' "human-readable", flag 'k' "", flag 'm' "", flag 's' "summarize",
        flag 'S' "separate-dirs", flag 'x' "", flag 'L' "", long "apparent-size" .none,
        long "exclude" .required] }
  let given ← manual.read arguments
  let shown (n : Nat) : String :=
    if given.has "h" then humanSize 1024 n
    else if given.has "b" then toString n
    else if given.has "m" then toString ((n + 1048575) / 1048576)
    else toString ((n + 1023) / 1024)
  let names := if given.operands.isEmpty then [[46]] else given.operands
  let (status, total) ← names.foldlM (fun (status, total) name => do
    let s ← get
    match look s name false with
    | .error fault =>
      Run.complainPlain s!"du: cannot access {straight name}: {fault}"
      return (1, total)
    | .ok (place, _) =>
      let (text, size) := usage s given shown deepest 0 name place
      Run.write 1 text
      return (status, total + size)) (0, 0)
  if given.has "c" then say s!"{shown total}\ttotal"
  return status

end ConfigTemplate.Shell.Programs
