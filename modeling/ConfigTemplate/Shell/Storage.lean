import ConfigTemplate.Shell.State

/-!
# The files of a shell

How a shell and its programs reach files. A name leads to a place; a place may stand for another
location, which is then followed. Files have rights beside their content.
-/

namespace ConfigTemplate.Shell.Storage

open Text (Bytes)
open Run (bytesOf textOf)

/-- The wording of a fault of the files. -/
def wording : Files.Fault → String
  | .missing => "No such file or directory"
  | .present => "File exists"
  | .notDirectory => "Not a directory"
  | .isDirectory => "Is a directory"
  | .nameTooLong => "File name too long"

/-- The location that bytes name. -/
def locationOf (name : Bytes) : Location := .ofText (textOf name)

/-- The place that names lead to from another one. A place that stands for a location is left for
it, the last one only if it is followed. -/
def walk (s : State) (followsLast : Bool) : Nat → Place → List String → Except Files.Fault Place
  | 0, _, _ => .error .missing
  | _ + 1, place, [] => .ok place
  | fuel + 1, place, name :: rest =>
    match s.files.entry? place with
    | none => .error .missing
    | some .directory =>
      if name = ".." then walk s followsLast fuel place.dropLast rest
      else if Files.longestName < name.utf8ByteSize then .error .nameTooLong
      else
        let next := place ++ [name]
        match Entries.get? next s.links with
        | none => walk s followsLast fuel next rest
        | some text =>
          if rest.isEmpty && !followsLast then .ok next
          else
            let target := Location.ofText text
            walk s followsLast fuel (if target.isAbsolute then [] else place)
              (target.parts ++ rest)
    | some _ => .error .notDirectory

/-- The number of steps that one is led on at most. -/
def longestWalk : Nat := 4096

/-- The place that a name leads to. -/
def place (s : State) (name : Bytes) (followsLast : Bool) : Except Files.Fault Place :=
  if name.isEmpty then .error .missing
  else if Files.longestText < name.length then .error .nameTooLong
  else
    let location := locationOf name
    match walk s followsLast longestWalk (if location.isAbsolute then [] else s.files.home)
        location.parts with
    | .error fault => .error fault
    | .ok place =>
      match s.files.entry? place with
      | some .directory | none => .ok place
      | some _ => if name.getLast? = some 47 then .error .notDirectory else .ok place

/-- What a name leads to. -/
def find (s : State) (name : Bytes) : Except Files.Fault Entry := do
  match s.files.entry? (← place s name true) with
  | some entry => .ok entry
  | none => .error .missing

/-- Whether there is anything at a place. -/
def isTaken (s : State) (place : Place) : Bool :=
  (s.files.entry? place).isSome || (Entries.get? place s.links).isSome

/-- Whether a name leads to a directory. -/
def isDirectory (s : State) (name : Bytes) : Bool :=
  match find s name with
  | .ok .directory => true
  | _ => false

/-- The names in a directory in order. -/
def namesIn (s : State) (place : Place) : List String :=
  let links := s.links.filterMap fun (inner, _) =>
    if inner.dropLast = place then inner.getLast? else none
  (s.files.namesIn place ++ links).mergeSort fun a b => !(b < a)

/-- The rights of what lies at a place. -/
def modeOf (s : State) (place : Place) : Nat :=
  match Entries.get? place s.modes with
  | some mode => mode
  | none =>
    match s.files.entry? place with
    | some .directory => if place = ["tmp"] then 0o1777 else 0o755
    | some .program => 0o755
    | some .sink => 0o666
    | _ => 0o644

/-- The second at which a shell begins. -/
def firstSecond : Int := 1767225600

/-- The present second. -/
def now (s : State) : Int := firstSecond + s.clock / 1000

/-- When what lies at a place was changed last. -/
def stampOf (s : State) (place : Place) : Int := (Entries.get? place s.stamps).getD firstSecond

/-- Say when what lies at a place was changed last. -/
def stamp (place : Place) (second : Int) : Run Unit :=
  modify fun s => { s with stamps := Entries.put place second s.stamps }

/-- Whether what lies at a place can be run. -/
def isExecutable (s : State) (place : Place) : Bool := modeOf s place &&& 0o111 ≠ 0

/-- The descriptor that a device's name stands for. -/
def descriptorOf? (name : Bytes) : Option Nat :=
  match textOf name with
  | "/dev/stdin" => some 0
  | "/dev/stdout" => some 1
  | "/dev/stderr" => some 2
  | text =>
    if text.startsWith "/dev/fd/" then (text.drop 8).toString.toNat?
    else if text.startsWith "/proc/self/fd/" then (text.drop 14).toString.toNat?
    else none

/-- The device of a name. -/
def deviceOf? (name : Bytes) : Option Target :=
  match textOf name with
  | "/dev/zero" => some .zeros
  | "/dev/full" => some .full
  | _ => none

/-- Note the rights of a file or a directory that has been made. -/
def noteMode (place : Place) (usual : Nat) : Run Unit :=
  modify fun s =>
    let mode := usual &&& (0o777 ^^^ (s.process.mask &&& 0o777))
    if s.process.mask = 0o022 then { s with modes := s.modes.filter (·.1 != place) }
    else { s with modes := Entries.put place mode s.modes }

/-- The content of the file that a name leads to, or the wording of what is wrong. -/
def read (name : Bytes) : Run (Except String Bytes) := do
  let s ← get
  match descriptorOf? name with
  | some descriptor =>
    match ← Run.readAll descriptor with
    | .ok content => return .ok content
    | .error _ => return .error (wording .missing)
  | none =>
    match deviceOf? name with
    | some _ => return .ok (List.replicate Channel.zeroCount 0)
    | none =>
      match find s name with
      | .ok (.file content) => return .ok content
      | .ok .directory => return .error (wording .isDirectory)
      | .ok _ => return .ok []
      | .error fault => return .error (wording fault)

/-- A channel to the file of a name. A file that is not there is made if it is to be written; one
that is there is emptied if `empties` says so. -/
def openFile (name : Bytes) (reads writes appends empties : Bool) :
    Run (Except Files.Fault Channel) := do
  let s ← get
  match deviceOf? name with
  | some device => return .ok ⟨device, 0, reads, writes, appends⟩
  | none =>
    match place s name true with
    | .error fault => return .error fault
    | .ok place =>
      match s.files.entry? place with
      | some .directory =>
        if writes then return .error .isDirectory
        else return .ok ⟨.directory, 0, reads, false, false⟩
      | some .sink => return .ok ⟨.sink, 0, reads, writes, appends⟩
      | some (.file _) | some .program =>
        if empties then
          modify fun s => { s with files := s.files.put place (.file []) }
        if writes then stamp place (now s)
        return .ok ⟨.file place, 0, reads, writes, appends⟩
      | none =>
        if !writes then return .error .missing
        else if s.files.entry? place.dropLast ≠ some .directory then return .error .missing
        else if name.getLast? = some 47 then return .error .isDirectory
        else
          modify fun s => { s with files := s.files.put place (.file []) }
          noteMode place 0o666
          stamp place (now s)
          return .ok ⟨.file place, 0, reads, writes, appends⟩

/-- Write a file as a whole, or add to its end. -/
def write (name : Bytes) (appends : Bool) (content : Bytes) : Run (Except Files.Fault Unit) := do
  match ← openFile name false true appends (!appends) with
  | .error fault => return .error fault
  | .ok channel =>
    let s ← get
    match channel.written s.files content with
    | .ok (files, _) => set { s with files := files }
    | .error _ => pure ()
    return .ok ()

/-- Take away what lies at a place and below it. Channels to a file that is taken away keep what
was in it. -/
def remove (place : Place) : Run Unit :=
  modify fun s =>
    let detach (channel : Channel) : Channel :=
      match channel.target with
      | .file other =>
        if place.isPrefixOf other then
          match s.files.entry? other with
          | some (.file content) => { channel with target := .detached content }
          | _ => channel
        else channel
      | _ => channel
    { s with
      files := s.files.remove place
      links := s.links.filter fun (inner, _) => !place.isPrefixOf inner
      modes := s.modes.filter fun (inner, _) => !place.isPrefixOf inner
      stamps := s.stamps.filter fun (inner, _) => !place.isPrefixOf inner
      channels := s.channels.map detach }

/-- Let all that lies at a place and below it lie at another one. -/
def move (source target : Place) : Run Unit := do
  remove target
  modify fun s =>
    let moved (inner : Place) : Place :=
      if source.isPrefixOf inner then target ++ inner.drop source.length else inner
    let follow (channel : Channel) : Channel :=
      match channel.target with
      | .file other => { channel with target := .file (moved other) }
      | _ => channel
    { s with
      files := { s.files with entries := s.files.entries.map fun (p, e) => (moved p, e) }
      links := s.links.map fun (p, text) => (moved p, text)
      modes := s.modes.map fun (p, mode) => (moved p, mode)
      stamps := s.stamps.map fun (p, second) => (moved p, second)
      channels := s.channels.map follow }

/-- Make a directory at a place. -/
def makeDirectory (place : Place) : Run Unit := do
  modify fun s => { s with files := s.files.put place .directory }
  noteMode place 0o777

/-- The files as patterns see them. -/
def visible (s : State) : Files :=
  s.links.foldl (fun files (place, text) =>
    let seen : Entry :=
      match find s (bytesOf (pathOf place.dropLast ++ "/" ++ text)) with
      | .ok entry => entry
      | .error _ => .file []
    if (files.entry? place).isSome then files else files.put place seen) s.files

end ConfigTemplate.Shell.Storage
