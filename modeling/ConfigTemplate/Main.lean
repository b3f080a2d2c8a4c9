import ConfigTemplate.CommandLine.Run

/-!
# The program

The outer layer gathers the world of a run, runs the request, and brings the output and the files
that have changed to the system. A run sees the files in the working directory and those that its
arguments or its environment name.
-/

namespace ConfigTemplate.Main

open CommandLine (World Ending)

/-- The path of a place. -/
def pathOf (place : Place) : String := "/" ++ String.intercalate "/" place

/-- What the system has at a place, added to files. -/
def gather (files : Files) (place : Place) : IO Files := do
  let files := (List.range place.length).foldl
    (fun files n => if n = 0 then files else files.put (place.take n) .directory) files
  try
    let content ← IO.FS.readBinFile (pathOf place)
    return files.put place (.file content.toList)
  catch _ =>
    let isDirectory ← (do let _ ← (← IO.FS.realPath (pathOf place)).readDir; return true) <|>
      return false
    return if isDirectory then files.put place .directory else files

/-- The place of a location for a working directory. -/
def placeOf (home : Place) (location : Location) : Place :=
  if location.isAbsolute then location.parts else home ++ location.parts

/-- The words of arguments that may name files: values stand after an equals sign. -/
def namesIn (words : List String) : List String :=
  words.flatMap fun word =>
    [word, String.ofList ((word.toList.dropWhile (· != '=')).drop 1)].filter (· != "")

/-- The environment of this process. -/
def environment : IO (List (String × String)) := do
  let bytes ← IO.FS.readBinFile "/proc/self/environ"
  return (bytes.toList.splitOn 0).filterMap fun entry =>
    let text := Text.Encoding.decodeLenient .utf8 entry
    let name := text.takeWhile (· != '=')
    if name.isEmpty then none
    else some (String.ofList name, String.ofList (text.drop (name.length + 1)))

/-- The present moment: that at which the system made an entry for this process. -/
def moment : IO Int := do
  return (← (← IO.FS.realPath "/proc/self").metadata).modified.sec

/-- What there is to read until the end. -/
partial def readAll (stream : IO.FS.Stream) (found : List UInt8) : IO Text.Bytes := do
  let bytes ← stream.read 65536
  if bytes.isEmpty then return found else readAll stream (found ++ bytes.toList)

/-- The world of a run with some arguments. -/
def worldOf (words : List String) : IO World := do
  let home := (Location.ofText (← IO.currentDir).toString).parts
  let given ← environment
  let here ← (← IO.currentDir).readDir
  let names := namesIn words ++ (Entries.get? Settings.fileVariable given).toList
  let places := here.toList.map (fun entry => home ++ [entry.fileName]) ++
    names.map fun name => placeOf home (.ofText name)
  let files ← places.foldlM gather (.empty home)
  let input ← if words.contains "-" then readAll (← IO.getStdin) [] else pure []
  return .ofShells files given input (← moment)

/-- Bring what has changed at places to the system. -/
def bring (before after : Files) : IO Unit := do
  for (place, entry) in after.entries do
    if before.entry? place != some entry then
      match entry with
      | .file content => IO.FS.writeBinFile (pathOf place) ⟨content.toArray⟩
      | .directory => IO.FS.createDirAll (pathOf place)
      | .program | .sink => pure ()
  for (place, entry) in before.entries do
    if (after.entry? place).isNone then
      match entry with
      | .file _ => IO.FS.removeFile (pathOf place)
      | _ => pure ()

/-- What is shown of a failure. -/
def complaintOf : CommandLine.Cause → String
  | .usage fault => s!"{CommandLine.helpText}\n{fault.message}\n"
  | .halt (.failure failure) => s!"Error: {failure.message}\n"
  | .halt (.mishap mishap) => s!"{mishap.message}\n"

end ConfigTemplate.Main

open ConfigTemplate Main in
/-- Run the program. -/
def main (words : List String) : IO UInt32 := do
  let world ← worldOf words
  let ending := CommandLine.runWords world words
  bring world.files ending.files
  (← IO.getStdout).putStr ending.output
  match ending.cause? with
  | some cause => (← IO.getStderr).putStr (complaintOf cause)
  | none => pure ()
  return ending.status.toUInt32
