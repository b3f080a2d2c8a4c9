import ConfigTemplate.Shell.Builtins.Surroundings
import ConfigTemplate.Shell.Programs.Moving

/-!
# Names of files

The programs that take the names of files apart, find out what they stand for, and make new ones.
-/

namespace ConfigTemplate.Shell.Programs

open Text (Bytes)
open Run (bytesOf textOf)

/-- The end of lines that an option may change. -/
def endOf (given : Given) : UInt8 := if given.has "z" then 0 else 10

/-- A name without an ending, unless there is nothing else. -/
def withoutEnding (ending name : Bytes) : Bytes :=
  if ending.length < name.length && ending.isSuffixOf name then
    name.take (name.length - ending.length)
  else name

/-- Write the last parts of names. -/
def basename : Program := fun arguments => do
  let manual : Manual :=
    { name := "basename"
      choices := [flag 'a' "multiple", valued 's' "suffix", flag 'z' "zero"]
      anywhere := false }
  let given ← manual.read arguments
  demand manual 1 given.operands
  let ending := given.value? "s"
  let several := given.has "a" || ending.isSome
  if !several then demandAtMost manual 2 given.operands
  let (names, ending) :=
    if several then (given.operands, ending.getD [])
    else (given.operands.take 1, given.operands.getD 1 [])
  for name in names do
    let base := if name.isEmpty then [] else baseOf name
    Run.write 1 (withoutEnding ending base ++ [endOf given])
  return 0

/-- A name without its last part. -/
def frontOf (name : Bytes) : Bytes :=
  let body := withoutSlashes name
  if body = [47] then body
  else if !body.contains 47 then [46]
  else
    let front := (body.reverse.dropWhile (· ≠ 47)).reverse
    withoutSlashes front

/-- Write names without their last parts. -/
def dirname : Program := fun arguments => do
  let manual : Manual := { name := "dirname", choices := [flag 'z' "zero"] }
  let given ← manual.read arguments
  demand manual 1 given.operands
  for name in given.operands do
    Run.write 1 ((if name.isEmpty then [46] else frontOf name) ++ [endOf given])
  return 0

/-- How much of a name has to be there. -/
inductive Presence where
  | all
  | front
  | nothing
  deriving DecidableEq

/-- The place that names lead to, as far as something is there; from what is not there on, names
are only put together. -/
def lenientPlace (s : State) : Nat → Place → List String → Place
  | 0, place, _ => place
  | _ + 1, place, [] => place
  | fuel + 1, place, name :: rest =>
    if name = ".." then lenientPlace s fuel place.dropLast rest
    else
      match Entries.get? (place ++ [name]) s.links with
      | some text =>
        let target := Location.ofText text
        lenientPlace s fuel (if target.isAbsolute then [] else place) (target.parts ++ rest)
      | none => lenientPlace s fuel (place ++ [name]) rest

/-- The place that a name stands for, or the wording of what is wrong. -/
def realPlace (s : State) (presence : Presence) (name : Bytes) : Except String Place :=
  if name.isEmpty then .error (Storage.wording .missing)
  else if presence = .nothing then
    let location := Storage.locationOf name
    .ok (lenientPlace s Storage.longestWalk (if location.isAbsolute then [] else s.files.home)
      location.parts)
  else
    let name := if presence = .front then withoutSlashes name else name
    match Storage.place s name true with
    | .error fault => .error (Storage.wording fault)
    | .ok place =>
      if presence = .all && !Storage.isTaken s place then .error (Storage.wording .missing)
      else .ok place

/-- Which presence options ask for. -/
def presenceOf (given : Given) (usual : Presence) : Presence :=
  match given.last? ["f", "e", "m"] with
  | some "f" => .front
  | some "e" => .all
  | some _ => .nothing
  | none => usual

/-- Write what names stand for. -/
def readLink : Program := fun arguments => do
  let manual : Manual :=
    { name := "readlink"
      choices := [flag 'f' "canonicalize", flag 'e' "canonicalize-existing",
        flag 'm' "canonicalize-missing", flag 'n' "no-newline", flag 'q' "quiet", flag 's' "silent",
        flag 'v' "verbose", flag 'z' "zero"] }
  let given ← manual.read arguments
  demand manual 1 given.operands
  let ending : Bytes :=
    if given.has "n" && given.operands.length = 1 then [] else [endOf given]
  let resolves := (given.last? ["f", "e", "m"]).isSome
  forEach given.operands fun name => do
    let s ← get
    let result : Except String String :=
      if resolves then (realPlace s (presenceOf given .front) name).map pathOf
      else
        match look s name false with
        | .error fault => .error fault
        | .ok (_, .link text) => .ok text
        | .ok _ => .error "Invalid argument"
    match result with
    | .ok text =>
      Run.write 1 (bytesOf text ++ ending)
      return 0
    | .error fault =>
      if given.has "v" then Run.complainPlain s!"readlink: {named name}: {fault}"
      return 1

/-- Write the paths of the places that names lead to. -/
def realPath : Program := fun arguments => do
  let manual : Manual :=
    { name := "realpath"
      choices := [⟨['e'], "canonicalize-existing", .none⟩, ⟨['m'], "canonicalize-missing", .none⟩,
        flag 'L' "logical", flag 'P' "physical", flag 'q' "quiet", ⟨['s'], "strip", .none⟩,
        long "no-symlinks" .none, long "relative-to" .required, long "relative-base" .required,
        flag 'z' "zero"] }
  let given ← manual.read arguments
  demand manual 1 given.operands
  let presence := presenceOf given .front
  let plain := given.has "s" || given.has "no-symlinks"
  let placeOf (s : State) (name : Bytes) : Except String Place :=
    if plain then
      match realPlace s presence name with
      | .error fault => .error fault
      | .ok _ =>
        .ok (Location.ofText (Builtins.joinedPath s.process.directory (textOf name))).parts
    else realPlace s presence name
  let s ← get
  let placeNamed (key : String) : Run (Option Place) := do
    match given.value? key with
    | none => return none
    | some name =>
      match placeOf s name with
      | .ok place => return some place
      | .error fault => fail 1 s!"realpath: {named name}: {fault}"
  let target ← placeNamed "relative-to"
  let base ← placeNamed "relative-base"
  forEach given.operands fun name => do
    match placeOf (← get) name with
    | .error fault =>
      if !given.has "q" then
        Run.complainPlain s!"realpath: {named name}: {fault}"
      return 1
    | .ok place =>
      let text : String :=
        match target, base with
        | some target, none => relativePath target place
        | none, some base => if base.isPrefixOf place then relativePath base place else pathOf place
        | some target, some base =>
          if base.isPrefixOf place && base.isPrefixOf target then relativePath target place
          else pathOf place
        | none, none => pathOf place
      Run.write 1 (bytesOf text ++ [endOf given])
      return 0

/-- Write the working directory. -/
def workingDirectory : Program := fun arguments => do
  let manual : Manual := { name := "pwd", choices := [flag 'L' "logical", flag 'P' "physical"] }
  let given ← manual.read arguments
  if !given.operands.isEmpty then Run.complainPlain "pwd: ignoring non-option arguments"
  let s ← get
  let logical := given.last? ["L", "P"] = some "L"
  let shown := ((Entries.get? "PWD" s.process.bindings).bind Variable.value).getD []
  let isRight := (Storage.place s shown true).toOption = some s.files.home
  say (if logical && isRight then textOf shown else pathOf s.files.home)
  return 0

/-- Characters for new names, which no one can foresee: they follow from how many there have
been. -/
def newCharacters (seed count : Nat) : List Char :=
  let letters := "abcdefghijklmnopqrstuvwxyzABCDEFGHIJKLMNOPQRSTUVWXYZ0123456789".toList
  (List.range count).map fun n =>
    letters.getD ((seed * 7919 + n * 104729 + seed / (n + 1)) % 62) 'a'

/-- A template with its last run of X filled in; none if that run is too short. -/
def filledTemplate? (seed : Nat) (template ending : String) : Option String :=
  let cs := template.toList.reverse
  let after := if ending.isEmpty then cs.takeWhile (· ≠ 'X') else []
  let cs := cs.drop after.length
  let count := (cs.takeWhile (· = 'X')).length
  if count < 3 || after.contains '/' then none
  else
    some (String.ofList ((cs.drop count).reverse ++ newCharacters seed count ++ after.reverse) ++
      ending)

/-- Make a file or a directory of a new name. -/
def makeTemporary : Program := fun arguments => do
  let manual : Manual :=
    { name := "mktemp"
      choices := [flag 'd' "directory", flag 'u' "dry-run", flag 'q' "quiet",
        ⟨['p'], "tmpdir", .required⟩, long "suffix" .required, flag 't' ""] }
  let given ← manual.read arguments
  if 1 < given.operands.length then misuse manual "too many templates"
  let inside := given.operands.isEmpty || given.has "p" || given.has "t"
  let template := textOf (given.operands.headD (bytesOf "tmp.XXXXXXXXXX"))
  let usual := (← Run.valueOf? "TMPDIR").filter (!·.isEmpty)
  let directory : Bytes :=
    ((given.value? "p").filter (!·.isEmpty)).getD (usual.getD (bytesOf "/tmp"))
  let whole := if inside then textOf (below directory (bytesOf template)) else template
  let s ← get
  set { s with processes := s.processes + 1 }
  let ending := textOf ((given.value? "suffix").getD [])
  match filledTemplate? (s.processes + s.channels.size * 31) whole ending with
  | none => fail 1 s!"mktemp: too few X's in template {curly (bytesOf template)}"
  | some name =>
    let bytes := bytesOf name
    let what := if given.has "d" then "directory" else "file"
    let refuse (fault : String) : Run Nat := do
      if given.has "q" then stop 1
      let shown := curly (bytesOf (whole ++ ending))
      fail 1 s!"mktemp: failed to create {what} via template {shown}: {fault}"
    if !given.has "u" then
      if given.has "d" then
        match ← makeDirectory bytes with
        | .ok place => setMode place 0o700
        | .error fault => return ← refuse fault
      else
        match ← Storage.write bytes false [] with
        | .ok () =>
          match Storage.place (← get) bytes true with
          | .ok place => setMode place 0o600
          | .error _ => pure ()
        | .error fault => return ← refuse (Storage.wording fault)
    say name
    return 0

/-- Complain about names that cannot be those of files. -/
def checkNames : Program := fun arguments => do
  let manual : Manual :=
    { name := "pathchk"
      choices := [flag 'p' "", flag 'P' "", long "portability" .none] }
  let given ← manual.read arguments
  demand manual 1 given.operands
  forEach given.operands fun name => do
    match Storage.place (← get) name true with
    | .error .nameTooLong =>
      Run.complainPlain s!"pathchk: {named name}: File name too long"
      return 1
    | .error .notDirectory =>
      Run.complainPlain s!"pathchk: {named name}: Not a directory"
      return 1
    | _ =>
      if name.isEmpty then
        Run.complainPlain "pathchk: '': No such file or directory"
        return 1
      return 0

end ConfigTemplate.Shell.Programs
