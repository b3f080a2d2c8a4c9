import ConfigTemplate.Shell.Programs.Places

/-!
# Removing, copying and moving

The programs that take files away, copy and rename them, and make one name stand for another.
-/

namespace ConfigTemplate.Shell.Programs

open Text (Bytes)
open Run (bytesOf textOf)

/-- How a kind is called in questions. -/
def Kind.shown : Kind → String
  | .file [] => "regular empty file"
  | .file _ => "regular file"
  | .directory => "directory"
  | .link _ => "symbolic link"
  | .device => "character special file"

/-- How things are removed. -/
structure Removing where
  recursive : Bool
  emptyToo : Bool
  forced : Bool
  asks : Bool
  tells : Bool

/-- Remove what lies at a place; the status comes back. -/
def removeAt (r : Removing) : Nat → Bytes → Place → Run Nat
  | 0, _, _ => return 1
  | fuel + 1, name, place => do
    let s ← get
    match kindAt? s place with
    | none => return 0
    | some kind =>
      let refuse (fault : String) : Run Nat := do
        Run.complainPlain s!"rm: cannot remove {straight name}: {fault}"
        return 1
      if kind = .directory then
        let children := childrenOf s place
        if !r.recursive then
          if !r.emptyToo then return ← refuse "Is a directory"
          if !children.isEmpty then return ← refuse "Directory not empty"
        let descends ←
          if r.asks && !children.isEmpty then
            ask s!"rm: descend into directory {straight name}? "
          else pure true
        if !descends then return 0
        let status ← forEach children fun child =>
          removeAt r fuel (below name child) (place ++ [textOf child])
        if r.asks then
          if !(← ask s!"rm: remove directory {straight name}? ") then return status
        if !isEmptyDirectory (← get) place then
          if status = 0 && r.asks then return ← refuse "Directory not empty"
          return status
        Storage.remove place
        if r.tells then say s!"removed directory {straight name}"
        return status
      else
        if r.asks then
          if !(← ask s!"rm: remove {kind.shown} {straight name}? ") then return 0
        Storage.remove place
        if r.tells then say s!"removed {straight name}"
        return 0

/-- Remove files and directories. -/
def remove : Program := fun arguments => do
  let manual : Manual :=
    { name := "rm"
      choices := [flag 'f' "force", flag 'i' "", flag 'I' "", ⟨['r', 'R'], "recursive", .none⟩,
        flag 'd' "dir", flag 'v' "verbose", long "interactive" .optional,
        long "one-file-system" .none, long "no-preserve-root" .none,
        long "preserve-root" .optional] }
  let given ← manual.read arguments
  let manner := given.last? ["f", "i", "I"]
  let forced := manner = some "f"
  if given.operands.isEmpty && forced then return 0
  demand manual 1 given.operands
  let r : Removing := ⟨given.has "r", given.has "d", forced, manner = some "i", given.has "v"⟩
  if manner = some "I" && (r.recursive || 3 < given.operands.length) then
    let count := given.operands.length
    let ending := if count = 1 then "" else "s"
    let what := s!"{count} argument{ending}"
    let how := if r.recursive then " recursively" else ""
    if !(← ask s!"rm: remove {what}{how}? ") then return 0
  forEach given.operands fun name => do
    let complain (text : String) : Run Nat := do
      Run.complainPlain s!"rm: {text}"
      return 1
    match look (← get) name false with
    | .error fault =>
      let isNothing := fault = Storage.wording .missing || fault = Storage.wording .notDirectory
      if forced && isNothing then return 0
      complain s!"cannot remove {straight name}: {fault}"
    | .ok (place, kind) =>
      if r.recursive && place.isEmpty && !given.has "no-preserve-root" then
        complain ("it is dangerous to operate recursively on '/'\n" ++
          "rm: use --no-preserve-root to override this failsafe")
      else if kind = .directory && (r.recursive || r.emptyToo) && isDots name then
        complain s!"refusing to remove '.' or '..' directory: skipping {straight name}"
      else removeAt r deepest name place

/-- Remove a single file. -/
def unlink : Program := fun arguments => do
  let manual : Manual := { name := "unlink", choices := [] }
  let given ← manual.read arguments
  demand manual 1 given.operands
  demandAtMost manual 1 given.operands
  let name := given.operands.headD []
  match look (← get) name false with
  | .error fault => fail 1 s!"unlink: cannot unlink {straight name}: {fault}"
  | .ok (_, .directory) =>
    fail 1 s!"unlink: cannot unlink {straight name}: Is a directory"
  | .ok (place, _) =>
    Storage.remove place
    return 0

/-- How things are copied. -/
structure Copying where
  program : String
  recursive : Bool
  /-- Whether names that stand for others are copied as such: always, never, or only within
  directories. -/
  keepsLinks : Option Bool
  keepsFiles : Bool
  forced : Bool
  asks : Bool
  newerOnly : Bool
  tells : Bool
  backup : Option Bytes
  preserves : Bool
  /-- Whether names are made instead that stand for the files. -/
  links : Bool

/-- The name under which a file is kept that is about to be replaced. -/
def backupName (s : State) (how name : Bytes) : Bytes :=
  let numbered (n : Nat) : Bytes := name ++ bytesOf s!".~{n}~"
  if ["numbered", "t"].contains (textOf how) then
    let free := (List.range 1000).find? fun n =>
      match freePlace s (numbered (n + 1)) with
      | .ok place => !Storage.isTaken s place
      | .error _ => true
    numbered (free.getD 0 + 1)
  else name ++ [126]

/-- Keep a file under another name. -/
def keepAside (how : Option Bytes) (name : Bytes) (place : Place) : Run (Option Bytes) := do
  match how with
  | none => return none
  | some how =>
    let other := backupName (← get) how name
    match freePlace (← get) other with
    | .ok target =>
      Storage.move place target
      return some other
    | .error _ => return none

/-- Whether a file may be replaced; the answer may be a refusal of its own. -/
def mayReplace (c : Copying) (source target : Place) (name : Bytes) : Run Bool := do
  let s ← get
  if c.keepsFiles then return false
  if c.newerOnly && Storage.stampOf s source ≤ Storage.stampOf s target then return false
  if c.asks then ask s!"{c.program}: overwrite {straight name}? " else return true

/-- Give a new file the rights and the time of another one. -/
def followRights (c : Copying) (source target : Place) (wasThere : Bool) : Run Unit := do
  let s ← get
  let mode := Storage.modeOf s source
  if c.preserves then
    setMode target mode
    Storage.stamp target (Storage.stampOf s source)
  else if !wasThere then
    setMode target (Rights.without (mode &&& 0o777) s.process.mask)

/-- Copy what lies at a place to a name; the status comes back. -/
def copyAt (c : Copying) : Nat → Bytes → Place → Bytes → Run Nat
  | 0, _, _, _ => return 1
  | fuel + 1, name, source, target => do
    let s ← get
    let complain (text : String) : Run Nat := do
      Run.complainPlain s!"{c.program}: {text}"
      return 1
    let tell (aside : Option Bytes) : Run Unit := do
      if c.tells then
        let kept := aside.elim "" fun other => s!" (backup: {straight other})"
        say s!"{straight name} -> {straight target}{kept}"
    match kindAt? s source with
    | none => return 0
    | some .directory =>
      if !c.recursive then
        complain s!"-r not specified; omitting directory {straight name}"
      else
        match freePlace s target with
        | .error fault => complain s!"cannot create directory {straight target}: {fault}"
        | .ok place =>
          if source.isPrefixOf place then
            complain (s!"cannot copy a directory, {straight name}, into itself, " ++
              straight target)
          else
            match (look s target true).toOption with
            | some (_, .directory) | none =>
              let wasThere := (look s target true).toOption.isSome
              if !wasThere then
                Storage.makeDirectory place
                tell none
              let children := childrenOf s source
              let status ← forEach children fun child =>
                copyAt c fuel (below name child) (source ++ [textOf child])
                  (below target child)
              followRights c source place wasThere
              return status
            | some _ =>
              complain (s!"cannot overwrite non-directory {straight target} " ++
                s!"with directory {straight name}")
    | some kind =>
      match freePlace s target with
      | .error fault => complain s!"cannot create regular file {straight target}: {fault}"
      | .ok place =>
        let present := kindAt? s place
        if endsWithSlash target && present ≠ some .directory then
          return ← complain
            s!"cannot create regular file {straight target}: {Storage.wording .notDirectory}"
        if present = some .directory then
          return ← complain
            s!"cannot overwrite directory {straight target} with non-directory"
        let real := (Storage.place s target true).toOption.getD place
        if (source = place || source = real) && c.backup.isNone then
          return ← complain s!"{straight name} and {straight target} are the same file"
        if present.isSome then
          if !(← mayReplace c source place target) then return 0
        let aside ← if present.isSome then keepAside c.backup target place else pure none
        match kind with
        | .link text =>
          Storage.remove place
          modify fun s => { s with links := Entries.put place text s.links }
        | .file content =>
          if c.links then
            if present.isSome && !c.forced then
              return ← complain
                s!"cannot create symbolic link {straight target} to {straight name}: File exists"
            Storage.remove place
            modify fun s => { s with links := Entries.put place (textOf name) s.links }
          else
            match ← Storage.write target false content with
            | .ok () => followRights c source real present.isSome
            | .error fault =>
              return ← complain
                s!"cannot create regular file {straight target}: {Storage.wording fault}"
        | _ =>
          match ← contentOf name with
          | .ok content => let _ ← Storage.write target false content
          | .error _ => pure ()
        tell aside
        return 0

/-- Where a program puts what it is given: into a directory, or to a name. -/
inductive Destination where
  | within (directory : Bytes)
  | exactly (name : Bytes)

/-- The sources and the destination among operands. -/
def destinationOf (manual : Manual) (given : Given) : Run (List Bytes × Destination) := do
  let complainMissing : Run (List Bytes × Destination) := do
    match given.operands with
    | [] => misuse manual "missing file operand"
    | only :: _ => misuse manual s!"missing destination file operand after {straight only}"
  let s ← get
  match given.value? "t" with
  | some directory =>
    if given.operands.isEmpty then complainMissing
    else if !Storage.isDirectory s directory then
      let fault :=
        if (Storage.find s directory).toOption.isSome then Storage.wording .notDirectory
        else Storage.wording .missing
      fail 1 s!"{manual.name}: target directory {straight directory}: {fault}"
    else return (given.operands, .within directory)
  | none =>
    match given.operands.reverse with
    | [] | [_] => complainMissing
    | last :: sources =>
      let sources := sources.reverse
      if given.has "T" then
        match sources with
        | [_] => return (sources, .exactly last)
        | _ => misuse manual s!"extra operand {straight (given.operands.getD 2 [])}"
      else if Storage.isDirectory s last then return (sources, .within last)
      else
        match sources with
        | [_] => return (sources, .exactly last)
        | _ =>
          let fault :=
            match look s last true with
            | .ok _ => Storage.wording .notDirectory
            | .error fault => fault
          fail 1 s!"{manual.name}: target {straight last}: {fault}"

/-- The name to which something goes. -/
def Destination.nameFor (d : Destination) (source : Bytes) : Bytes :=
  match d with
  | within directory => below directory (baseOf source)
  | exactly name => name

/-- How backups are asked for. -/
def backupOf (given : Given) : Option Bytes :=
  match given.last? ["b", "backup"] with
  | some "backup" => some ((given.value? "backup").getD [])
  | some _ => some []
  | none => none

/-- The options of programs that put files somewhere. -/
def placingChoices : List Choice :=
  [flag 'f' "force", flag 'i' "interactive", flag 'n' "no-clobber", flag 'v' "verbose",
    valued 't' "target-directory", flag 'T' "no-target-directory", flag 'u' "update",
    flag 'b' "", long "backup" .optional, long "strip-trailing-slashes" .none]

/-- Copy files and directories. -/
def copy : Program := fun arguments => do
  let manual : Manual :=
    { name := "cp"
      choices := placingChoices ++ [⟨['r', 'R'], "recursive", .none⟩, flag 'a' "archive",
        flag 'p' "", long "preserve" .optional, flag 'P' "no-dereference", flag 'L' "dereference",
        flag 'H' "", flag 'd' "", flag 's' "symbolic-link", flag 'l' "link",
        flag 'x' "one-file-system", long "remove-destination" .none, long "parents" .none] }
  let given ← manual.read arguments
  let (sources, destination) ← destinationOf manual given
  let recursive := given.has "r" || given.has "a"
  let manner := given.last? ["n", "i"]
  let keeps : Option Bool :=
    match given.last? ["P", "L", "H", "d", "a"] with
    | some "P" | some "d" | some "a" => some true
    | some "L" => some false
    | _ => none
  let c : Copying :=
    { program := "cp", recursive := recursive, keepsLinks := keeps
      keepsFiles := manner = some "n", forced := given.has "f", asks := manner = some "i"
      newerOnly := given.has "u", tells := given.has "v", backup := backupOf given
      preserves := given.has "a" || given.has "p" || given.has "preserve"
      links := given.has "s" }
  forEach sources fun name => do
    let follows := c.keepsLinks ≠ some true && !(recursive && c.keepsLinks.isNone)
    match look (← get) name follows with
    | .error fault =>
      Run.complainPlain s!"cp: cannot stat {straight name}: {fault}"
      return 1
    | .ok (place, _) =>
      let target :=
        if given.has "parents" then
          match destination with
          | .within directory => below directory (withoutSlashes name)
          | .exactly name => name
        else if baseOf name = [46] || baseOf name = [46, 46] then
          match destination with
          | .within directory => directory
          | .exactly name => name
        else destination.nameFor name
      if given.has "parents" then
        let front := ([47].intercalate ((target.splitOn 47).dropLast))
        let _ ← makeDirectories (fun _ => pure ()) front
      copyAt c deepest name place target

/-- Rename what lies at a place; the status comes back. -/
def moveAt (c : Copying) (name : Bytes) (source : Place) (kind : Kind) (target : Bytes) :
    Run Nat := do
  let s ← get
  let complain (text : String) : Run Nat := do
    Run.complainPlain s!"mv: {text}"
    return 1
  let refuse (fault : String) : Run Nat :=
    complain s!"cannot move {straight name} to {straight target}: {fault}"
  match freePlace s target with
  | .error fault => refuse fault
  | .ok place =>
    let present := kindAt? s place
    let isDirectory := kind = .directory
    if isDirectory && source.isPrefixOf place && source ≠ place then
      return ← complain (s!"cannot move {straight name} to a subdirectory of itself, " ++
        straight target)
    if source = place then
      return ← complain s!"{straight name} and {straight target} are the same file"
    if endsWithSlash target && !isDirectory && present ≠ some .directory then
      return ← refuse (Storage.wording .notDirectory)
    match present with
    | some .directory =>
      if !isDirectory then
        return ← complain s!"cannot overwrite directory {straight target} with non-directory"
      if !isEmptyDirectory s place then
        return ← complain s!"cannot overwrite {straight target}: Directory not empty"
    | some _ =>
      if isDirectory then
        return ← complain (s!"cannot overwrite non-directory {straight target} " ++
          s!"with directory {straight name}")
    | none => pure ()
    if present.isSome then
      if !(← mayReplace c source place target) then return 0
    let aside ← if present.isSome then keepAside c.backup target place else pure none
    Storage.move source place
    if c.tells then
      let kept := aside.elim "" fun other => s!" (backup: {straight other})"
      say s!"renamed {straight name} -> {straight target}{kept}"
    return 0

/-- Rename files and directories. -/
def moveFiles : Program := fun arguments => do
  let manual : Manual := { name := "mv", choices := placingChoices }
  let given ← manual.read arguments
  let (sources, destination) ← destinationOf manual given
  let manner := given.last? ["n", "i", "f"]
  let c : Copying :=
    { program := "mv", recursive := true, keepsLinks := some true
      keepsFiles := manner = some "n", forced := manner = some "f", asks := manner = some "i"
      newerOnly := given.has "u", tells := given.has "v", backup := backupOf given
      preserves := true, links := false }
  forEach sources fun name => do
    match look (← get) name false with
    | .error fault =>
      Run.complainPlain s!"mv: cannot stat {straight name}: {fault}"
      return 1
    | .ok (place, kind) => moveAt c name place kind (destination.nameFor name)

/-- The path to a place as seen from a directory. -/
def relativePath (directory place : Place) : String :=
  let rec common : Place → Place → Nat
    | a :: as, b :: bs => if a = b then common as bs + 1 else 0
    | _, _ => 0
  let shared := common directory place
  let up := List.replicate (directory.length - shared) ".."
  let parts := up ++ place.drop shared
  if parts.isEmpty then "." else String.intercalate "/" parts

/-- Make a name for a file, or one that stands for it. -/
def makeLink (given : Given) (source target : Bytes) : Run Nat := do
  let s ← get
  let symbolic := given.has "s"
  let what := if symbolic then "symbolic" else "hard"
  let complain (text : String) : Run Nat := do
    Run.complainPlain s!"ln: {text}"
    return 1
  let made : Except (Run Nat) Kind :=
    if symbolic then
      let text :=
        if given.has "r" then
          match Storage.place s source true, freePlace s target with
          | .ok place, .ok other => relativePath other.dropLast place
          | _, _ => textOf source
        else textOf source
      .ok (.link text)
    else
      match look s source (given.has "L") with
      | .error fault => .error (complain s!"failed to access {straight source}: {fault}")
      | .ok (_, .directory) =>
        .error (complain s!"{named source}: hard link not allowed for directory")
      | .ok (_, kind) => .ok kind
  match made with
  | .error refusal => refusal
  | .ok kind =>
    let refuse (fault : String) : Run Nat :=
      let about := if symbolic && source.isEmpty then s!" -> {straight source}" else ""
      complain s!"failed to create {what} link {straight target}{about}: {fault}"
    if symbolic && source.isEmpty then return ← refuse (Storage.wording .missing)
    match freePlace s target with
    | .error fault => refuse fault
    | .ok place =>
      let present := kindAt? s place
      let isSame := (look s source true).toOption.any (·.1 = place)
      if present.isSome then
        if present = some .directory then
          return ← complain s!"{named target}: cannot overwrite directory"
        if isSame && (given.has "f" || symbolic) then
          return ← complain s!"{straight source} and {straight target} are the same file"
        if given.has "i" then
          if !(← ask s!"ln: replace {straight target}? ") then return 0
        else if !given.has "f" && !given.has "b" then return ← refuse "File exists"
        if given.has "b" then
          let _ ← keepAside (some []) target place
        else Storage.remove place
      match kind with
      | .link text => modify fun s => { s with links := Entries.put place text s.links }
      | .file content =>
        modify fun s => { s with files := s.files.put place (.file content) }
      | _ => pure ()
      if given.has "v" then
        let arrow := if symbolic then "->" else "=>"
        say s!"{straight target} {arrow} {straight source}"
      return 0

/-- Make names for files. -/
def linkFiles : Program := fun arguments => do
  let manual : Manual :=
    { name := "ln"
      choices := [flag 's' "symbolic", flag 'f' "force", flag 'n' "no-dereference",
        flag 'v' "verbose", flag 'r' "relative", flag 'i' "interactive", flag 'b' "",
        valued 't' "target-directory", flag 'T' "no-target-directory", flag 'L' "logical",
        flag 'P' "physical"]
        }
  let given ← manual.read arguments
  match given.operands with
  | [] => misuse manual "missing file operand"
  | [only] =>
    if (given.value? "t").isNone then
      if given.has "T" then
        misuse manual s!"missing destination file operand after {straight only}"
      return ← makeLink given only (below [46] (baseOf only))
  | _ => pure ()
  let last := given.operands.getLast?.getD []
  let isLink := ((look (← get) last false).toOption.any fun found =>
    match found.2 with
    | .link _ => true
    | _ => false)
  let exact := given.has "n" && isLink && given.operands.length = 2
  let given := if exact then { given with options := ("T", []) :: given.options } else given
  let (sources, destination) ← destinationOf manual given
  forEach sources fun source => makeLink given source (destination.nameFor source)

/-- Copy files with rights of their own, or make directories. -/
def install : Program := fun arguments => do
  let manual : Manual :=
    { name := "install"
      choices := [flag 'd' "directory", flag 'D' "", flag 'v' "verbose", valued 'm' "mode",
        valued 't' "target-directory", flag 'T' "no-target-directory", valued 'o' "owner",
        valued 'g' "group", flag 'p' "preserve-timestamps", flag 's' "strip", flag 'C' "compare",
        flag 'b' ""]
        }
  let given ← manual.read arguments
  let mode : Nat ←
    match given.value? "m" with
    | none => pure 0o755
    | some text =>
      match Rights.changed? 0 false 0 (textOf text) with
      | some mode => pure mode
      | none => fail 1 s!"install: invalid mode {curly text}"
  if given.has "d" then
    if given.operands.isEmpty then misuse manual "missing file operand"
    let made (name : Bytes) : Run Unit := do
      if given.has "v" then say s!"install: creating directory {straight name}"
    return ← forEach given.operands fun name => do
      match ← makeDirectories made name with
      | .error (name, fault) =>
        Run.complainPlain s!"install: cannot create directory {curly name}: {fault}"
        return 1
      | .ok () =>
        match Storage.place (← get) name true with
        | .ok place => setMode place mode
        | .error _ => pure ()
        return 0
  if given.has "D" then
    match given.value? "t", given.operands.getLast? with
    | some directory, _ => let _ ← makeDirectories (fun _ => pure ()) directory
    | none, some last =>
      let front := [47].intercalate ((last.splitOn 47).dropLast)
      if !front.isEmpty then let _ ← makeDirectories (fun _ => pure ()) front
    | none, none => pure ()
  let (sources, destination) ← destinationOf manual given
  let c : Copying :=
    { program := "install", recursive := false, keepsLinks := some false, keepsFiles := false
      forced := true, asks := false, newerOnly := false, tells := given.has "v"
      backup := backupOf given, preserves := false, links := false }
  forEach sources fun name => do
    match look (← get) name true with
    | .error fault =>
      Run.complainPlain s!"install: cannot stat {straight name}: {fault}"
      return 1
    | .ok (_, .directory) =>
      Run.complainPlain s!"install: omitting directory {straight name}"
      return 1
    | .ok (place, _) =>
      let target := destination.nameFor name
      let status ← copyAt c deepest name place target
      if status = 0 then
        match Storage.place (← get) target true with
        | .ok place => setMode place mode
        | .error _ => pure ()
      return status

end ConfigTemplate.Shell.Programs
