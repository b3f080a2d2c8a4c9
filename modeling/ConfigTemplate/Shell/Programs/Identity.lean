import ConfigTemplate.Shell.Programs.Places

/-!
# Who and where

The programs that tell who a user is, what a machine is, and how processes see their surroundings.
-/

namespace ConfigTemplate.Shell.Programs

open Text (Bytes)
open Run (bytesOf textOf)

/-- Tell the numbers and names of a user. -/
def identity : Program := fun arguments => do
  let manual : Manual :=
    { name := "id"
      choices := [flag 'u' "user", flag 'g' "group", flag 'G' "groups", flag 'n' "name",
        flag 'r' "real", flag 'a' "", flag 'z' "zero", flag 'Z' "context"] }
  let given ← manual.read arguments
  let kinds := ["u", "g", "G"].filter given.has
  if 1 < kinds.length then
    fail 1 "id: cannot print \"only\" of more than one choice"
  if kinds.isEmpty && (given.has "n" || given.has "r") then
    fail 1 "id: cannot print only names or real IDs in default format"
  let names := if given.operands.isEmpty then [bytesOf "root"] else given.operands
  forEach names fun name => do
    if ["root", "0", "+0"].contains (textOf name) then
      if kinds.isEmpty then say "uid=0(root) gid=0(root) groups=0(root)"
      else say (if given.has "n" then "root" else "0")
      return 0
    else
      Run.complainPlain s!"id: {curly name}: no such user"
      return 1

/-- A program without operands that writes a line. -/
def teller (name line : String) : Program := fun arguments => do
  let manual : Manual := { name := name, choices := [] }
  let given ← manual.read arguments
  demandAtMost manual 0 given.operands
  say line
  return 0

/-- A program without operands that has nothing to write. -/
def silent (name : String) : Program := fun arguments => do
  let manual : Manual := { name := name, choices := flags "abdHlmpqrsTtuw" }
  let _ ← manual.read arguments
  return 0

/-- Tell the groups of users. -/
def groups : Program := fun arguments => do
  if arguments.isEmpty then
    say "root"
    return 0
  forEach arguments fun name => do
    if textOf name = "root" then
      say "root : root"
      return 0
    else
      Run.complainPlain s!"groups: {curly name}: no such user"
      return 1

/-- Complain that nobody has logged in. -/
def loginName : Program := fun _ => fail 1 "logname: no login name"

/-- Tell that there is no terminal. -/
def terminal : Program := fun arguments => do
  let manual : Manual :=
    { name := "tty"
      choices := [flag 's' "silent", long "quiet" .none]
      mistake := 2 }
  let given ← manual.read arguments
  demandAtMost manual 0 given.operands
  if !given.has "s" then say "not a tty"
  return 1

/-- What is told of a machine by letters. -/
def machineParts : List (String × String) :=
  [("s", "Linux"), ("n", "localhost"), ("r", "6.1.0"), ("v", "#1 SMP"), ("m", "x86_64"),
    ("p", "unknown"), ("i", "unknown"), ("o", "GNU/Linux")]

/-- Tell about the machine. -/
def machine : Program := fun arguments => do
  let manual : Manual :=
    { name := "uname"
      choices := [flag 'a' "all", flag 's' "kernel-name", flag 'n' "nodename",
        flag 'r' "kernel-release", flag 'v' "kernel-version", flag 'm' "machine",
        flag 'p' "processor", flag 'i' "hardware-platform", flag 'o' "operating-system"] }
  let given ← manual.read arguments
  demandAtMost manual 0 given.operands
  let parts := machineParts.filter fun (key, text) =>
    if given.has "a" then text ≠ "unknown" else given.has key
  let parts := if parts.isEmpty then machineParts.take 1 else parts
  say (String.intercalate " " (parts.map (·.2)))
  return 0

/-- Tell the number of processors. -/
def processors : Program := fun arguments => do
  let manual : Manual := { name := "nproc", choices := [long "all" .none, long "ignore" .required] }
  let given ← manual.read arguments
  demandAtMost manual 0 given.operands
  let ignored := ((given.value? "ignore").bind number?).getD 0
  say (toString (max 1 (4 - ignored)))
  return 0

end ConfigTemplate.Shell.Programs
