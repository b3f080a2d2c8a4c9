import ConfigTemplate.Shell.Expand

/-!
# Searching commands

What a name means as a command: a function, one of the shell's own commands, or a program, which is
looked for in the directories of the path.
-/

namespace ConfigTemplate.Shell

open Text (Bytes)
open Run (bytesOf textOf)

/-- The shell's own commands that are not special. -/
def ordinaryNames : List String :=
  ["[", "alias", "bg", "cd", "command", "echo", "false", "fg", "getopts", "hash", "jobs", "kill",
    "local", "printf", "pwd", "read", "test", "true", "type", "ulimit", "umask", "unalias", "wait"]

/-- The directories of a path; an empty name is the working directory. -/
def pathDirectories (path : Bytes) : List Bytes := path.splitOn 58

/-- A name within a directory. -/
def within (directory name : Bytes) : Bytes :=
  if directory.isEmpty then name else directory ++ 47 :: name

namespace Search

/-- What a name leads to. -/
inductive Found where
  | program (path : Bytes)
  | missing
  /-- There is something of that name, but it is no program. -/
  | denied

/-- What a name without slashes leads to in some directories. -/
def inDirectories (s : State) (name : Bytes) (isDenied : Bool) : List Bytes → Found
  | [] => if isDenied then .denied else .missing
  | directory :: rest =>
    let path := within directory name
    match Storage.find s path with
    | .ok .directory => inDirectories s name true rest
    | .ok _ => .program path
    | .error .missing | .error .notDirectory => inDirectories s name isDenied rest
    | .error _ => inDirectories s name true rest

/-- The path in which programs are looked for. -/
def path : Run Bytes := do return (← Run.valueOf? "PATH").getD []

/-- The path that holds all usual programs. -/
def standardPath : Bytes := bytesOf "/usr/sbin:/usr/bin:/sbin:/bin"

/-- What a name leads to in a path. A name with slashes is itself a path. -/
def program (path name : Bytes) : Run Found := do
  let s ← get
  if name.contains 47 then
    return if (Storage.find s name).toOption.isSome then .program name else .missing
  else return inDirectories s name false (pathDirectories path)

/-- Remember where a program was found. -/
def remember (name path : Bytes) : Run Unit :=
  if name.contains 47 then pure ()
  else
    Run.modifyProcess fun p =>
      { p with found := Entries.put (textOf name) (textOf path) p.found }

/-- The wording of a name that leads to no program. -/
def Found.complaint : Found → String
  | program _ => ""
  | missing => "not found"
  | denied => "Permission denied"

end Search

/-- What a name means as a command. -/
inductive Meaning where
  | function (body : Command)
  | special
  | ordinary
  | program (path : Bytes)
  | none (found : Search.Found)

/-- What a name means; without functions if `plain` says so. -/
def meaning (plain : Bool) (path name : Bytes) : Run Meaning := do
  let text := textOf name
  let p ← Run.process
  if specialNames.contains text then return .special
  match if plain then none else Entries.get? text p.functions with
  | some body => return .function body
  | none =>
    if ordinaryNames.contains text then return .ordinary
    match ← Search.program path name with
    | .program found => return .program found
    | found => return .none found

end ConfigTemplate.Shell
