import ConfigTemplate.Shell.Programs.Editing.Run

/-!
# Editing files

The program that edits the lines of files by a script: all files as one text, or each by itself and
perhaps in its place.
-/

namespace ConfigTemplate.Shell.Programs.Editing

open Text (Bytes)
open Run (bytesOf textOf)

/-- The lines of a content. -/
def linesFrom (ending : Char) (file content : Bytes) : List Line :=
  let cs := (textOf content).toList
  let parts := cs.splitOn ending
  let isEnded := cs.getLast? = some ending || cs.isEmpty
  let parts := if isEnded then parts.dropLast else parts
  let last := parts.length - 1
  parts.zipIdx.map fun (part, n) => ⟨part, isEnded || n ≠ last, file⟩

/-- A part of a script, and how complaints about it begin. -/
structure Chunk where
  text : List Char
  /-- The file of a part that is not an argument. -/
  file : Option Bytes
  number : Nat

/-- A complaint about a mistake in a part of a script. -/
def Chunk.complaint (chunk : Chunk) (mistake : Mistake) : String :=
  let read := chunk.text.take (chunk.text.length - mistake.left)
  match chunk.file with
  | some file =>
    let line := (read.filter (· = '\n')).length + 1
    s!"sed: file {textOf file} line {line}: {mistake.text}"
  | none => s!"sed: -e expression #{chunk.number}, char {read.length}: {mistake.text}"

/-- The steps of the parts of a script; otherwise a status and a complaint. -/
def stepsOf (extended : Bool) (chunks : List Chunk) : Except (Nat × String) (Array Step) := do
  let draft ← chunks.foldlM (fun draft chunk =>
    match readSteps extended (chunk.text.length + 2) draft chunk.text with
    | .ok draft => .ok draft
    | .error mistake =>
      -- The bare class is not a mistake of the script but of the expression.
      if mistake.text = Regular.Flaw.bareClass.message then .error (1, s!"sed: {mistake.text}")
      else .error (1, chunk.complaint mistake)) Draft.empty
  if !draft.blocks.isEmpty then
    let number := (chunks.getLast?.map (·.number)).getD 1
    throw (1, s!"sed: -e expression #{number}, char 0: unmatched \x60\x7b'")
  match draft.finish with
  | .ok steps => return steps
  | .error text => throw (4, s!"sed: {text}")

/-- The files that steps write. -/
def writtenFiles (steps : Array Step) : List Bytes :=
  steps.toList.filterMap fun step =>
    match step.action with
    | .writeFile name | .writeFirst name => some name
    | .substitute s => s.file
    | _ => none

/-- How the program is used. -/
def usage : String :=
  "Usage: sed [OPTION]... \x7bscript-only-if-no-other-script\x7d [input-file]..."

/-- An editor that has not begun. -/
def Editor.start (steps : Array Step) (quiet : Bool) (ending : Char) : Editor where
  steps := steps
  quiet := quiet
  ending := ending
  rest := []
  space := []
  ended := true
  file := [45]
  held := []
  number := 0
  ranges := []
  closed := []
  replaced := false
  used := none
  later := []
  written := []
  isOpen := false
  readers := []

/-- What an editor has written. -/
def Editor.output (e : Editor) : Bytes := bytesOf (String.ofList e.written.reverse.flatten)

/-- Edit lines with an editor; the status comes back if the script asks for the end. -/
def runOn (lines : List Line) (e : Editor) : Run (Option Nat × Editor) :=
  let steps := (lines.map fun line => line.text.length + 2).foldl (· + ·) 0
  StateT.run (editLines (2 * steps + 2) false)
    { e with rest := lines, written := [] }

/-- Write what an editor has written. -/
def deliver (e : Editor) : Run Unit := Run.write 1 e.output

/-- The name of the copy of a file that is edited in place. -/
def copyName (ending name : Bytes) : Bytes :=
  if ending.contains 42 then
    let base := baseOf name
    let front := name.take (name.length - base.length)
    front ++ ending.flatMap fun b => if b = 42 then base else [b]
  else name ++ ending

/-- Edit the lines of files. -/
def program : Program := fun arguments => do
  let manual : Manual :=
    { name := "sed"
      choices := [⟨['n'], "quiet", .none⟩, long "silent" .none, valued 'e' "expression",
        valued 'f' "file", ⟨['E', 'r'], "regexp-extended", .none⟩, flag 's' "separate",
        ⟨['i'], "in-place", .optional⟩, flag 'u' "unbuffered", flag 'z' "null-data",
        valued 'l' "line-length", long "posix" .none, long "debug" .none, long "sandbox" .none,
        long "follow-symlinks" .none, flag 'b' "binary"] }
  let given ← manual.read arguments
  let parts := given.options.filter fun (key, _) => key = "e" || key = "f"
  let (chunks, names) ←
    if parts.isEmpty then
      match given.operands with
      | [] => fail 1 usage
      | script :: names => pure ([(⟨(textOf script).toList, none, 1⟩ : Chunk)], names)
    else do
      let chunks ← parts.mapM fun (key, value) => do
        if key = "e" then
          let number := ((parts.takeWhile (·.2 ≠ value)).filter (·.1 = "e")).length + 1
          pure (⟨(textOf value).toList, none, number⟩ : Chunk)
        else
          match ← contentOf value with
          | .ok content => pure ⟨(textOf content).toList, some value, 0⟩
          | .error fault => fail 4 s!"sed: couldn't open file {textOf value}: {fault}"
      pure (chunks, given.operands)
  let isSilenced := (chunks.head?.map fun chunk =>
    chunk.text.take 2 = ['#', 'n'] && (chunk.text.drop 2).head?.all (· = '\n')).getD false
  let quiet := given.has "n" || given.has "silent" || isSilenced
  match stepsOf (given.has "E") (joined chunks) with
  | .error (status, complaint) => fail status complaint
  | .ok steps =>
    for name in writtenFiles steps do
      if ¬ ["/dev/stdout", "/dev/stderr"].contains (textOf name) then
        match ← Storage.write name false [] with
        | .ok () => pure ()
        | .error fault => fail 4 s!"sed: couldn't open file {textOf name}: {Storage.wording fault}"
    let ending := if given.has "z" then '\x00' else '\n'
    let start := Editor.start steps quiet ending
    if given.has "i" && names.isEmpty then fail 4 "sed: no input files"
    let names := if names.isEmpty then [[45]] else names
    let readOne (name : Bytes) : Run (Except Nat Bytes) := do
      match ← contentOf name with
      | .ok content => return .ok content
      | .error fault =>
        if fault ≠ Storage.wording .isDirectory then
          Run.complainPlain s!"sed: can't read {textOf name}: {fault}"
          return .error 2
        else if given.has "i" then
          Run.complainPlain s!"sed: couldn't edit {textOf name}: not a regular file"
        else Run.complainPlain s!"sed: read error on {textOf name}: {fault}"
        return .error 4
    if given.has "i" || given.has "s" then
      let step : Nat × Editor × Bool → Bytes → Run (Nat × Editor × Bool) :=
        fun (status, e, goesOn) name => do
          if !goesOn then return (status, e, false)
          match ← readOne name with
          | .error other => return (other, e, other ≠ 4)
          | .ok content =>
            let (result, after) ← runOn (linesFrom ending name content) { e with number := 0 }
            if given.has "i" then
              let copy := (given.value? "i").getD []
              if !copy.isEmpty then
                let _ ← Storage.write (copyName copy name) false content
              let _ ← Storage.write name false after.output
            else deliver after
            return (result.getD status, { after with isOpen := false }, result.isNone)
      let (status, _, _) ← names.foldlM step (0, start, true)
      return status
    else
      let (lines, status) ← names.foldlM (fun (lines, status) name => do
        if status = 4 then return (lines, status)
        match ← readOne name with
        | .error other => return (lines, other)
        | .ok content => return (lines ++ linesFrom ending name content, status)) ([], 0)
      let (result, after) ← runOn lines start
      deliver after
      return result.getD status
where
  /-- Parts of a script of which one goes on in the next one: the text of a step after a
  backslash. -/
  joined : List Chunk → List Chunk
    | a :: b :: rest =>
      if a.text.getLast? = some '\\' then
        joined ({ a with text := a.text ++ '\n' :: b.text } :: rest)
      else a :: joined (b :: rest)
    | chunks => chunks
  termination_by chunks => chunks.length

end ConfigTemplate.Shell.Programs.Editing
