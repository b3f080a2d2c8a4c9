import ConfigTemplate.Shell.Programs.Calendar
import ConfigTemplate.Shell.Programs.Columns
import ConfigTemplate.Shell.Programs.Differing.Hunks
import ConfigTemplate.Shell.Programs.Places

/-!
# Comparing files

The program that shows in which lines two files differ, or in which files two directories do.
-/

namespace ConfigTemplate.Shell.Programs.Differing

open Text (Bytes)
open Run (bytesOf textOf)

/-- Something that is compared: its name, its lines with their ends, and when it was changed. -/
structure Side where
  name : Bytes
  lines : Array Bytes
  second : Int
  label : Option Bytes

/-- A line as it counts when lines are compared. -/
def keyOf (given : Given) (line : Bytes) : Bytes :=
  let isBlank (b : UInt8) : Bool := b = 32 || (9 ≤ b && b ≤ 13)
  let folds := given.has "i"
  let line := if folds then (textOf line).toLower |> bytesOf else line
  let ignoresEnd := given.has "b" || given.has "w" || given.has "strip-trailing-cr"
  let line := if ignoresEnd && line.getLast? = some 10 then line.dropLast else line
  if given.has "w" then line.filter (!isBlank ·)
  else if given.has "b" then
    let trimmed := (line.reverse.dropWhile isBlank).reverse
    squeezed isBlank false trimmed
  else if given.has "strip-trailing-cr" && line.getLast? = some 13 then line.dropLast
  else line
where
  /-- A line with one blank in place of several. -/
  squeezed (isBlank : UInt8 → Bool) : Bool → Bytes → Bytes
    | _, [] => []
    | wasBlank, b :: rest =>
      if isBlank b then
        if wasBlank then squeezed isBlank true rest else 32 :: squeezed isBlank true rest
      else b :: squeezed isBlank false rest

/-- The numbers of lines: equal lines have the same one. -/
def numbered (keys : List Bytes) (lines : List Bytes) : Array Nat :=
  (lines.map fun line => keys.idxOf line).toArray

/-- The number of equal lines at the front. -/
def equalFront : List Bytes → List Bytes → Nat
  | a :: as, b :: bs => if a = b then equalFront as bs + 1 else 0
  | _, _ => 0

/-- The number of lines around hunks, if they are to be shown. -/
def contextOf (given : Given) : Option Nat :=
  match given.last? ["u", "U", "normal"] with
  | some "u" => some 3
  | some "U" => (given.value? "U").bind number?
  | _ => none

/-- The hunks between two sides. Equal lines at the front and at the end are left aside, but for
those that are shown around hunks. -/
def hunksBetween (given : Given) (a b : Side) : List Hunk :=
  let old := a.lines.toList
  let new := b.lines.toList
  let context := (contextOf given).getD 0
  let front := equalFront old new
  let back := equalFront (old.drop front).reverse (new.drop front).reverse
  let skipped := front - context
  let left := back - context
  let middle (lines : List Bytes) : List Bytes :=
    ((lines.take (lines.length - left)).drop skipped).map (keyOf given)
  let keys := (middle old ++ middle new).eraseDups
  let hunks := (hunksOf ⟨numbered keys (middle old), numbered keys (middle new)⟩).map fun h =>
    (⟨h.oldStart + skipped, h.oldStop + skipped, h.newStart + skipped, h.newStop + skipped⟩ : Hunk)
  let isBare (side : Side) (start stop : Nat) : Bool :=
    (side.lines.extract start stop).all fun line => line = [10] || line.isEmpty
  if given.has "B" then
    hunks.filter fun h => !(isBare a h.oldStart h.oldStop && isBare b h.newStart h.newStop)
  else hunks

/-- A line with a mark before it; it is said if it lacks its end. -/
def markedLine (mark : String) (line : Bytes) : Bytes :=
  if hasEnd line then bytesOf mark ++ line
  else bytesOf mark ++ line ++ bytesOf "\n\\ No newline at end of file\n"

/-- Some lines of a side with a mark before each. -/
def markedLines (mark : String) (side : Side) (start stop : Nat) : Bytes :=
  (side.lines.extract start stop).toList.flatMap (markedLine mark)

/-- The numbers of lines between two places, the first and the last one. -/
def span (start stop : Nat) : String :=
  if stop ≤ start + 1 then toString stop else s!"{start + 1},{stop}"

/-- A hunk in the usual form. -/
def plainHunk (a b : Side) (h : Hunk) : Bytes :=
  let goes := h.oldStart < h.oldStop
  let comes := h.newStart < h.newStop
  let letter := if goes && comes then "c" else if goes then "d" else "a"
  let olds := if goes then span h.oldStart h.oldStop else toString h.oldStart
  let news := if comes then span h.newStart h.newStop else toString h.newStart
  bytesOf s!"{olds}{letter}{news}\n" ++ markedLines "< " a h.oldStart h.oldStop ++
    (if goes && comes then bytesOf "---\n" else []) ++ markedLines "> " b h.newStart h.newStop

/-- Hunks together that are so near that the lines around them touch. -/
def groups (context : Nat) : List Hunk → List (List Hunk)
  | [] => []
  | h :: rest =>
    match groups context rest with
    | [] => [[h]]
    | group :: others =>
      match group.head? with
      | some next =>
        if next.oldStart ≤ h.oldStop + 2 * context then (h :: group) :: others
        else [h] :: group :: others
      | none => [h] :: others

/-- The place and the number of lines in the head of a group. -/
def unifiedSpan (start stop : Nat) : String :=
  if stop = start then s!"{start},0" else if stop = start + 1 then toString (start + 1)
  else s!"{start + 1},{stop - start}"

/-- The lines of hunks between places of both sides. -/
def unifiedLines (a b : Side) (last : Nat) : Nat → List Hunk → Bytes
  | place, [] => markedLines " " a place last
  | place, h :: rest =>
    markedLines " " a place h.oldStart ++ markedLines "-" a h.oldStart h.oldStop ++
      markedLines "+" b h.newStart h.newStop ++ unifiedLines a b last h.oldStop rest

/-- A group of hunks in the unified form. -/
def unifiedGroup (context : Nat) (a b : Side) (group : List Hunk) : Bytes :=
  match group.head?, group.getLast? with
  | some first, some last =>
    let oldStart := first.oldStart - context
    let newStart := first.newStart - context
    let oldStop := min (last.oldStop + context) a.lines.size
    let newStop := min (last.newStop + context) b.lines.size
    bytesOf s!"@@ -{unifiedSpan oldStart oldStop} +{unifiedSpan newStart newStop} @@\n" ++
      unifiedLines a b oldStop oldStart group
  | _, _ => []

/-- The head of a side in the unified form. -/
def headOf (mark : String) (side : Side) : Bytes :=
  match side.label with
  | some label => bytesOf mark ++ label ++ [10]
  | none =>
    let stamp := Calendar.shownBy side.second "%Y-%m-%d %H:%M:%S.%N %z"
    bytesOf mark ++ side.name ++ bytesOf s!"\t{stamp}\n"

/-- What differs between two sides. -/
def shown (given : Given) (a b : Side) (hunks : List Hunk) : Bytes :=
  match contextOf given with
  | none => hunks.flatMap (plainHunk a b)
  | some context =>
    headOf "--- " a ++ headOf "+++ " b ++
      (groups context hunks).flatMap (unifiedGroup context a b)

/-- Compare two sides; the status tells whether they differ. -/
def compareSides (given : Given) (front : Bytes) (a b : Side) : Run Nat := do
  let hunks := hunksBetween given a b
  if hunks.isEmpty then
    if given.has "s" then
      say s!"Files {textOf a.name} and {textOf b.name} are identical"
    return 0
  else if given.has "q" then
    say s!"Files {textOf a.name} and {textOf b.name} differ"
    return 1
  else
    Run.write 1 (front ++ shown given a b hunks)
    return 1

/-- The side of a name with some content. -/
def sideOf (given : Given) (index : Nat) (name content : Bytes) : Run Side := do
  let s ← get
  let second : Int :=
    match look s name true with
    | .ok (place, _) => Storage.stampOf s place
    | .error _ => Storage.now s
  let labels := given.options.filter fun (key, _) => key = "label" || key = "L"
  return ⟨name, (brokenLines content).toArray.filter (!·.isEmpty), second,
    (labels[index]?).map (·.2)⟩

/-- What lies under two names is compared: files, or all that two directories have. `front` is
written before differences. -/
def compareNames (given : Given) : Nat → Bytes → Bytes → Bytes → Run Nat
  | 0, _, _, _ => return 2
  | fuel + 1, front, one, two => do
    let s ← get
    let isFolder (name : Bytes) : Bool := Storage.isDirectory s name
    match isFolder one, isFolder two with
    | true, true =>
      let children (name : Bytes) : List Bytes :=
        match look s name true with
        | .ok (place, _) => childrenOf s place
        | .error _ => []
      let all := (children one ++ children two).eraseDups.mergeSort bytesLe
      all.foldlM (fun status child => do
        let left := below one child
        let right := below two child
        let has (name : Bytes) : Bool := (children name).contains child
        if !given.has "N" && !(has one && has two) then
          say s!"Only in {textOf (if has one then one else two)}: {textOf child}"
          return max status 1
        else if isFolder left && isFolder right && !given.has "r" then
          say s!"Common subdirectories: {textOf left} and {textOf right}"
          return status
        else
          let words := given.options.filterMap fun (key, _) =>
            if key.length = 1 then some s!"-{key} " else none
          let front := bytesOf s!"diff {String.join words}{textOf left} {textOf right}\n"
          return max status (← compareNames given fuel front left right)) 0
    | true, false => compareNames given fuel front (below one (baseOf two)) two
    | false, true => compareNames given fuel front one (below two (baseOf one))
    | false, false =>
      let read (name : Bytes) : Run (Option Bytes) := do
        match ← contentOf name with
        | .ok content => return some content
        | .error fault =>
          if given.has "N" && !Storage.isTaken s ((freePlace s name).toOption.getD []) then
            return some []
          Run.complainPlain s!"diff: {textOf name}: {fault}"
          return none
      let a ← read one
      let b ← if one = two then pure a else read two
      match a, b with
      | some a, some b =>
        compareSides given front (← sideOf given 0 one a) (← sideOf given 1 two b)
      | _, _ => return 2

/-- Show what differs. -/
def program : Program := fun arguments => do
  let manual : Manual :=
    { name := "diff"
      mistake := 2
      choices := [flag 'q' "brief", flag 's' "report-identical-files", flag 'u' "",
        long "unified" .optional, valued 'U' "", flag 'i' "ignore-case",
        flag 'b' "ignore-space-change", flag 'w' "ignore-all-space",
        flag 'B' "ignore-blank-lines", flag 'r' "recursive", flag 'N' "new-file",
        flag 'a' "text", long "normal" .none, ⟨['L'], "label", .required⟩,
        long "strip-trailing-cr" .none, long "color" .optional, flag 'd' "minimal"] }
  let withCount (argument : Bytes) : List Bytes :=
    match argument with
    | 45 :: 117 :: digits =>
      if (number? digits).isSome then [[45, 85] ++ digits] else [argument]
    | argument => [argument]
  let given ← manual.read (arguments.flatMap withCount)
  let options := given.options.map fun (key, value) =>
    if key = "unified" then (if value.isEmpty then ("u", []) else ("U", value)) else (key, value)
  let given : Given := { given with options := options }
  let complain (text : String) : Run Nat := misuse manual text
  match given.operands with
  | [] => complain "missing operand after 'diff'"
  | [only] => complain s!"missing operand after '{textOf only}'"
  | [one, two] => compareNames given deepest [] one two
  | _ :: _ :: extra :: _ => complain s!"extra operand '{textOf extra}'"

end ConfigTemplate.Shell.Programs.Differing
