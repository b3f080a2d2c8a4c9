import ConfigTemplate.Shell.Programs.Basic
import ConfigTemplate.Shell.Rights

/-!
# What programs see of the files

What lies at the places that arguments name, how the names of what lies in a directory are put
together, and the making of directories.
-/

namespace ConfigTemplate.Shell.Programs

open Text (Bytes)
open Run (bytesOf textOf)

/-- What lies at a place by itself. -/
inductive Kind where
  | file (content : Bytes)
  | directory
  | link (text : String)
  | device
  deriving DecidableEq

/-- What lies at a place. -/
def kindAt? (s : State) (place : Place) : Option Kind :=
  match Entries.get? place s.links with
  | some text => some (.link text)
  | none =>
    match s.files.entry? place with
    | none => none
    | some (.file content) => some (.file content)
    | some .directory => some .directory
    | some .program => some (.file [])
    | some .sink => some .device

/-- Whether a name ends with a slash. -/
def endsWithSlash (name : Bytes) : Bool := name.getLast? = some 47

/-- A name without the slashes at its end, as far as it is not the root. -/
def withoutSlashes (name : Bytes) : Bytes :=
  let front := (name.reverse.dropWhile (· = 47)).reverse
  if front.isEmpty then name.take 1 else front

/-- The last part of a name. -/
def baseOf (name : Bytes) : Bytes :=
  let front := withoutSlashes name
  if front = [47] then front else (front.splitOn 47).getLast?.getD []

/-- A name below another one. -/
def below (name part : Bytes) : Bytes :=
  if endsWithSlash name then name ++ part else name ++ 47 :: part

/-- The place and the kind of what a name leads to, or the wording of what is wrong. -/
def look (s : State) (name : Bytes) (follows : Bool) : Except String (Place × Kind) :=
  match Storage.place s name (follows || endsWithSlash name) with
  | .error fault => .error (Storage.wording fault)
  | .ok place =>
    match kindAt? s place with
    | some kind => .ok (place, kind)
    | none => .error (Storage.wording .missing)

/-- The place at which something of a name can be made, or the wording of what is wrong. -/
def freePlace (s : State) (name : Bytes) : Except String Place :=
  match Storage.place s (if name.isEmpty then name else withoutSlashes name) false with
  | .error fault => .error (Storage.wording fault)
  | .ok place => .ok place

/-- The names in a directory in order. -/
def childrenOf (s : State) (place : Place) : List Bytes := (Storage.namesIn s place).map bytesOf

/-- What a directory holds, at all depths. -/
def isEmptyDirectory (s : State) (place : Place) : Bool := (Storage.namesIn s place).isEmpty

/-- The depth to which directories are looked through. -/
def deepest : Nat := 256

/-- Set rights. -/
def setMode (place : Place) (mode : Nat) : Run Unit :=
  modify fun s => { s with modes := Entries.put place mode s.modes }

/-- Rights that a text describes, for something that is made with other ones. -/
def modeFor? (text : Bytes) (isDirectory : Bool) (usual : Nat) : Run (Option Nat) := do
  return Rights.changed? (← Run.process).mask isDirectory usual (textOf text)

/-- Ask whether to do something; the answer is a line that begins with y. -/
def ask (question : String) : Run Bool := do
  Run.write 2 (bytesOf question)
  let line ← Run.readWith 0 fun content => (content.takeWhile (· != 10)).length + 1
  match line.toOption.getD [] with
  | b :: _ => return b = 121 || b = 89
  | [] => return false

/-- Write a line. -/
def say (text : String) : Run Unit := Run.write 1 (bytesOf (text ++ "\n"))

/-- Make a directory of a name; what is wrong comes back otherwise. -/
def makeDirectory (name : Bytes) : Run (Except String Place) := do
  let s ← get
  match freePlace s name with
  | .error fault => return .error fault
  | .ok place =>
    if Storage.isTaken s place then return .error (Storage.wording .present)
    Storage.makeDirectory place
    return .ok place

/-- The names of a path from the outermost one on. -/
def frontsOf (name : Bytes) : List Bytes :=
  let parts := (withoutSlashes name).splitOn 47
  (List.range parts.length).filterMap fun n =>
    let part := parts.getD n []
    if part.isEmpty then none else some ([47].intercalate (parts.take (n + 1)))

/-- Make a directory with those around it that are missing. What is made is told by `made`; what
is wrong comes back with the name that has it. -/
def makeDirectories (made : Bytes → Run Unit) (name : Bytes) : Run (Except (Bytes × String) Unit) :=
  if name.isEmpty then return .error (name, Storage.wording .missing)
  else
    let fronts := frontsOf name
    let last := fronts.length - 1
    fronts.zipIdx.foldlM (fun result (front, n) => do
      match result with
      | .error fault => return .error fault
      | .ok () =>
        if Storage.isDirectory (← get) front then return .ok ()
        match ← makeDirectory front with
        | .ok place =>
          if n ≠ last then
            setMode place (Storage.modeOf (← get) place ||| 0o300)
          made front
          return .ok ()
        | .error fault =>
          if fault = Storage.wording .present && n ≠ last then
            return .error (front, Storage.wording .notDirectory)
          else return .error (front, fault)) (.ok ())

/-- Make directories. -/
def makeDirectoriesProgram : Program := fun arguments => do
  let manual : Manual :=
    { name := "mkdir"
      choices := [flag 'p' "parents", flag 'v' "verbose", valued 'm' "mode", flag 'Z' ""] }
  let given ← manual.read arguments
  demand manual 1 given.operands
  let mode : Option Nat ←
    match given.value? "m" with
    | none => pure none
    | some text =>
      match ← modeFor? text true 0o777 with
      | some mode => pure (some mode)
      | none => fail 1 s!"mkdir: invalid mode {curly text}"
  let made (name : Bytes) : Run Unit := do
    if given.has "v" then say s!"mkdir: created directory {straight name}"
  forEach given.operands fun name => do
    let wasThere := Storage.isDirectory (← get) name
    let result : Except (Bytes × String) Unit ←
      if given.has "p" then makeDirectories made name
      else do
        match ← makeDirectory name with
        | .ok _ =>
          made name
          pure (.ok ())
        | .error fault => pure (.error (name, fault))
    match result with
    | .error (name, fault) =>
      Run.complainPlain s!"mkdir: cannot create directory {curly name}: {fault}"
      return 1
    | .ok () =>
      match mode, Storage.place (← get) name true with
      | some mode, .ok place =>
        if !wasThere then setMode place mode
      | _, _ => pure ()
      return 0

/-- Whether the last part of a name is a dot or two. -/
def isDots (name : Bytes) : Bool := baseOf name = [46] || baseOf name = [46, 46]

/-- Remove an empty directory; what is wrong comes back otherwise. -/
def removeDirectory (name : Bytes) : Run (Option String) := do
  let s ← get
  match look s (if name.isEmpty then name else withoutSlashes name) false with
  | .error fault => return some fault
  | .ok (place, .directory) =>
    if baseOf name = [46] then return some "Invalid argument"
    else if !isEmptyDirectory s place then return some "Directory not empty"
    else
      Storage.remove place
      return none
  | .ok _ => return some (Storage.wording .notDirectory)

/-- The names around a name, the nearest first. -/
def aroundOf (name : Bytes) : List Bytes := (frontsOf name).dropLast.reverse

/-- Remove empty directories. -/
def removeDirectoriesProgram : Program := fun arguments => do
  let manual : Manual :=
    { name := "rmdir"
      choices := [flag 'p' "parents", flag 'v' "verbose", long "ignore-fail-on-non-empty" .none] }
  let given ← manual.read arguments
  demand manual 1 given.operands
  let removeOne (name : Bytes) (what : String) : Run (Option Nat) := do
    if given.has "v" then say s!"rmdir: removing directory, {straight name}"
    match ← removeDirectory name with
    | none => return none
    | some fault =>
      if fault = "Directory not empty" && given.has "ignore-fail-on-non-empty" then return some 0
      Run.complainPlain s!"rmdir: failed to remove {what}{straight name}: {fault}"
      return some 1
  forEach given.operands fun name => do
    match ← removeOne name "" with
    | some status => return status
    | none =>
      if !given.has "p" then return 0
      let (status, _) ← (aroundOf name).foldlM (fun (status, goesOn) name => do
        if !goesOn then return (status, false)
        match ← removeOne name "directory " with
        | none => return (status, true)
        | some worse => return (max status worse, false)) (0, true)
      return status

end ConfigTemplate.Shell.Programs
