import ConfigTemplate.Entries
import ConfigTemplate.Text.Encoding

/-!
# Files

The files that a program can reach: what lies at each place below the root, and the working
directory. A location leads to a place name by name; every name but the last has to be that of a
directory.
-/

namespace ConfigTemplate

/-!
### Locations

A location is named by a text: names between slashes, from the root or from the working directory.
Empty names and single dots say nothing and are left out; double dots remain.
-/

/-- A place among the files. -/
structure Location where
  /-- The slashes that make it start at the root; none for the working directory. -/
  root : String
  parts : List String
  deriving DecidableEq, Repr

namespace Location

/-- The working directory. -/
def here : Location := ⟨"", []⟩

/-- The slashes at the front of a text that count: two are kept, more are one. -/
def rootOf : List Char → String
  | '/' :: '/' :: '/' :: _ => "/"
  | '/' :: '/' :: _ => "//"
  | '/' :: _ => "/"
  | _ => ""

/-- The names between slashes. -/
def names (cs : List Char) : List String :=
  (cs.splitOn '/').filterMap fun part =>
    if part = [] || part = ['.'] then none else some (String.ofList part)

/-- The location that a text names. -/
def ofText (text : String) : Location := ⟨rootOf text.toList, names text.toList⟩

/-- The name of a location. -/
def text (l : Location) : String :=
  if l.parts.isEmpty then (if l.root = "" then "." else l.root)
  else l.root ++ String.intercalate "/" l.parts

/-- The last part of a location's name; empty for a location without parts. -/
def name (l : Location) : String := l.parts.getLast?.getD ""

/-- The location around a location. -/
def parent (l : Location) : Location := { l with parts := l.parts.dropLast }

/-- Whether a location starts at the root. -/
def isAbsolute (l : Location) : Bool := l.root != ""

example : (ofText "./no//x.json").text = "no/x.json" := by decide

end Location

/-! ### Files -/

/-- The names from the root to a place. -/
abbrev Place := List String

/-- What lies at a place. -/
inductive Entry where
  | file (content : Text.Bytes)
  | directory
  /-- Something to run. -/
  | program
  /-- A device that swallows what is written and has nothing to read. -/
  | sink
  deriving DecidableEq, Repr

/-- The files below the root, and the working directory. -/
structure Files where
  home : Place
  entries : List (Place × Entry)

namespace Files

/-- Why a location does not lead to what is asked for. -/
inductive Fault where
  | missing
  | present
  | notDirectory
  | isDirectory
  | nameTooLong
  deriving DecidableEq, Repr

/-- The wording of a fault with the name of the location. -/
def Fault.message (fault : Fault) (location : String) : String :=
  let (number, words) :=
    match fault with
    | missing => (2, "No such file or directory")
    | present => (17, "File exists")
    | notDirectory => (20, "Not a directory")
    | isDirectory => (21, "Is a directory")
    | nameTooLong => (36, "File name too long")
  s!"[Errno {number}] {words}: {Text.quoted location}"

/-- What lies at a place; the root is a directory. -/
def entry? (files : Files) (place : Place) : Option Entry :=
  if place.isEmpty then some .directory else Entries.get? place files.entries

/-- Put something at a place. -/
def put (files : Files) (place : Place) (entry : Entry) : Files :=
  { files with entries := Entries.put place entry files.entries }

/-- The greatest number of bytes of a name. -/
def longestName : Nat := 255

/-- The greatest number of bytes of the text of a location. -/
def longestText : Nat := 4095

/-- The place that names lead to from another one. -/
def walk (files : Files) (place : Place) : List String → Except Fault Place
  | [] => .ok place
  | name :: rest =>
    match files.entry? place with
    | none => .error .missing
    | some .directory =>
      if name = ".." then walk files place.dropLast rest
      else if longestName < name.utf8ByteSize then .error .nameTooLong
      else walk files (place ++ [name]) rest
    | some _ => .error .notDirectory

/-- The place that a location leads to. -/
def place (files : Files) (location : Location) : Except Fault Place :=
  if longestText < location.text.utf8ByteSize then .error .nameTooLong
  else files.walk (if location.isAbsolute then [] else files.home) location.parts

/-- What lies at a location. -/
def find (files : Files) (location : Location) : Except Fault Entry :=
  match files.place location with
  | .error fault => .error fault
  | .ok place =>
    match files.entry? place with
    | some entry => .ok entry
    | none => .error .missing

/-- Whether anything lies at a location. -/
def exists? (files : Files) (location : Location) : Bool := (files.find location).toOption.isSome

/-- Whether a file lies at a location. -/
def isFile (files : Files) (location : Location) : Bool :=
  match files.find location with
  | .ok (.file _) | .ok .program => true
  | _ => false

/-- Whether a directory lies at a location. -/
def isDirectory (files : Files) (location : Location) : Bool :=
  files.find location matches .ok .directory

/-- The content of the file at a location. -/
def read (files : Files) (location : Location) : Except Fault Text.Bytes :=
  match files.find location with
  | .error fault => .error fault
  | .ok (.file content) => .ok content
  | .ok .directory => .error .isDirectory
  | .ok .program | .ok .sink => .ok []

/-- Write a file, in place of a present one. -/
def write (files : Files) (location : Location) (content : Text.Bytes) : Except Fault Files :=
  match files.place location with
  | .error fault => .error fault
  | .ok place =>
    match files.entry? place with
    | some .directory => .error .isDirectory
    | some .sink => .ok files
    | _ => .ok (files.put place (.file content))

/-- Write at the end of a file, or a new one. -/
def append (files : Files) (location : Location) (content : Text.Bytes) : Except Fault Files :=
  match files.find location with
  | .ok (.file present) => files.write location (present ++ content)
  | _ => files.write location content

/-- The names of what lies in a directory. -/
def namesIn (files : Files) (place : Place) : List String :=
  files.entries.filterMap fun (inner, _) =>
    if inner.dropLast = place then inner.getLast? else none

/-- Remove what lies at a place and below it. -/
def remove (files : Files) (place : Place) : Files :=
  { files with entries := files.entries.filter fun (inner, _) => !place.isPrefixOf inner }

/-- Make a directory unless it is there. -/
def makeSingle (files : Files) (location : Location) : Except (Fault × Location) Files :=
  match files.place location with
  | .error fault => .error (fault, location)
  | .ok place =>
    match files.entry? place with
    | none => .ok (files.put place .directory)
    | some .directory => .ok files
    | some _ => .error (.present, location)

/-- Make a directory out of the first names of a location, along with those around it where they
are missing. -/
def makeOuter (files : Files) (location : Location) : Nat → Except (Fault × Location) Files
  | 0 => files.makeSingle { location with parts := [] }
  | count + 1 =>
    let outer : Location := { location with parts := location.parts.take (count + 1) }
    match files.makeSingle outer with
    | .error (.missing, _) =>
      match makeOuter files location count with
      | .ok files => files.makeSingle outer
      | .error fault => .error fault
    | result => result

/-- Make a directory along with those around it, as far as they are missing. A fault comes with the
location that has it. -/
def makeDirectory (files : Files) (location : Location) : Except (Fault × Location) Files :=
  files.makeOuter location location.parts.length

/-- The names of the programs that are always there. -/
def programNames : List String :=
  ["[", "arch", "awk", "base32", "base64", "basename", "basenc", "bash", "cat", "chgrp", "chmod",
    "chown", "cksum", "cmp", "comm", "cp", "csplit", "cut", "dash", "date", "dd", "df", "diff",
    "dirname", "du", "echo", "egrep", "env", "expand", "expr", "factor", "false", "fgrep", "find",
    "fmt", "fold", "getopt", "grep", "groups", "gunzip", "gzip", "head", "hostid", "hostname", "id",
    "install", "join", "kill", "link", "ln", "logname", "ls", "mawk", "md5sum", "mkdir", "mkfifo",
    "mknod", "mktemp", "mv", "nice", "nl", "nohup", "nproc", "numfmt", "od", "paste", "pathchk",
    "perl", "pr", "printenv", "printf", "ps", "ptx", "pwd", "readlink", "realpath", "rev", "rm",
    "rmdir", "sed", "seq", "setsid", "sh", "sha1sum", "sha224sum", "sha256sum", "sha384sum",
    "sha512sum", "shred", "shuf", "sleep", "sort", "split", "stat", "stdbuf", "stty", "sum", "sync",
    "tac", "tail", "tar", "tee", "test", "timeout", "touch", "tr", "true", "truncate", "tsort",
    "tty", "uname", "unexpand", "uniq", "unlink", "users", "wc", "which", "who", "whoami", "xargs",
    "yes", "zcat"]

/-- The names of the directories that are always there. -/
def systemDirectories : List Place :=
  [["bin"], ["boot"], ["dev"], ["dev", "fd"], ["dev", "pts"], ["dev", "shm"], ["etc"], ["home"],
    ["lib"], ["media"], ["mnt"], ["opt"], ["proc"], ["root"], ["run"], ["sbin"], ["srv"], ["sys"],
    ["tmp"], ["usr"], ["usr", "bin"], ["usr", "include"], ["usr", "lib"], ["usr", "local"],
    ["usr", "local", "bin"], ["usr", "local", "lib"], ["usr", "local", "sbin"], ["usr", "sbin"],
    ["usr", "share"], ["var"], ["var", "lib"], ["var", "log"], ["var", "tmp"]]

/-- The directories, devices and programs that are always there. -/
def system : List (Place × Entry) :=
  systemDirectories.map (·, .directory) ++
  ["null", "zero", "full", "tty", "random", "urandom"].map (["dev", ·], .sink) ++
  programNames.flatMap fun name => [(["bin", name], .program), (["usr", "bin", name], .program)]

/-- No files of one's own, in a working directory. -/
def empty (home : Place) : Files :=
  ⟨home, (List.range home.length).foldl
    (fun entries n => Entries.put (home.take (n + 1)) .directory entries) system⟩

end Files

end ConfigTemplate
