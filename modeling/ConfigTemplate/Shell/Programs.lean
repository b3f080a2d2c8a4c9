import ConfigTemplate.Shell.Programs.Attributes
import ConfigTemplate.Shell.Programs.Bases
import ConfigTemplate.Shell.Programs.Checksums
import ConfigTemplate.Shell.Programs.Differing.Files
import ConfigTemplate.Shell.Programs.Dump
import ConfigTemplate.Shell.Programs.Editing.Files
import ConfigTemplate.Shell.Programs.Evaluate
import ConfigTemplate.Shell.Programs.Exchange
import ConfigTemplate.Shell.Programs.Finding.Walk
import ConfigTemplate.Shell.Programs.Identity
import ConfigTemplate.Shell.Programs.Lines
import ConfigTemplate.Shell.Programs.Matching
import ConfigTemplate.Shell.Programs.Names
import ConfigTemplate.Shell.Programs.Numbers
import ConfigTemplate.Shell.Programs.Pieces
import ConfigTemplate.Shell.Programs.Records.Program
import ConfigTemplate.Shell.Programs.Saying
import ConfigTemplate.Shell.Programs.Starting

/-!
# Programs

The programs that a shell can start, by their names.
-/

namespace ConfigTemplate.Shell.Programs

/-- The programs for text. -/
def textPrograms : List (String × Program) :=
  [("cat", cat), ("tac", tac), ("rev", rev), ("head", head), ("tail", tail), ("nl", numberLines),
    ("fold", foldLines), ("expand", expand), ("unexpand", unexpand), ("wc", wordCount),
    ("cut", cut), ("paste", paste), ("comm", common), ("join", join), ("uniq", unique),
    ("sort", sort), ("tsort", topological), ("shuf", shuffle), ("tr", exchange),
    ("seq", sequence), ("factor", factor), ("numfmt", formatNumbers), ("expr", evaluate),
    ("sed", Editing.program), ("grep", matchingLines "G"), ("egrep", matchingLines "E"),
    ("fgrep", matchingLines "F"), ("diff", Differing.program)]

/-- The programs for bytes. -/
def bytePrograms : List (String × Program) :=
  [("od", dump), ("base64", alphabetProgram "base64" .base64),
    ("base32", alphabetProgram "base32" .base32), ("basenc", anyAlphabet), ("dd", copyBlocks),
    ("split", split), ("cmp", compareBytes), ("cksum", checksum), ("sum", sumBlocks)] ++
  digestPrograms

/-- The programs for files. -/
def filePrograms : List (String × Program) :=
  [("ls", list), ("mkdir", makeDirectoriesProgram), ("rmdir", removeDirectoriesProgram),
    ("rm", remove), ("unlink", unlink), ("cp", copy), ("mv", moveFiles), ("ln", linkFiles),
    ("link", linkFiles), ("install", install), ("touch", touch), ("chmod", changeModes),
    ("chown", changeOwners "chown" "user"), ("chgrp", changeOwners "chgrp" "group"),
    ("stat", showStatus), ("truncate", truncate), ("du", diskUsage), ("basename", basename),
    ("dirname", dirname), ("readlink", readLink), ("realpath", realPath),
    ("pwd", workingDirectory), ("mktemp", makeTemporary), ("pathchk", checkNames),
    ("sync", silent "sync")]

/-- The programs that write what they are given, or what they know. -/
def sayingPrograms : List (String × Program) :=
  [("true", ending 0), ("false", ending 1), ("echo", echo), ("printf", printf), ("test", test),
    ("[", bracket), ("yes", repeatLine), ("tee", copyThrough), ("date", showDate),
    ("sleep", sleep), ("printenv", showVariables), ("which", locate), ("id", identity),
    ("whoami", teller "whoami" "root"), ("groups", groups), ("logname", loginName),
    ("tty", terminal), ("uname", machine), ("arch", teller "arch" "x86_64"),
    ("nproc", processors), ("hostid", teller "hostid" "007f0100"),
    ("hostname", teller "hostname" "localhost"), ("users", silent "users"),
    ("who", silent "who")]

/-- The programs that start others. One of them calls itself as it is called. -/
def startingPrograms (launch : Launch) (called : String) : List (String × Program) :=
  [("env", withVariables launch), ("find", Finding.program launch),
    ("mawk", Records.program called launch), ("xargs", withArguments launch),
    ("timeout", limitTime launch), ("nice", nice launch),
    ("nohup", runner "nohup" [] 125 0 launch),
    ("setsid", runner "setsid" (flags "cfw") 1 0 launch),
    ("stdbuf", runner "stdbuf" [valued 'i' "input", valued 'o' "output", valued 'e' "error"] 125 0
      launch)]

/-- The program of a name, which may be called by another one. -/
def find? (launch : Launch) (called name : String) : Option Program :=
  Entries.get? name (textPrograms ++ bytePrograms ++ filePrograms ++ sayingPrograms ++
    startingPrograms launch called)

end ConfigTemplate.Shell.Programs
