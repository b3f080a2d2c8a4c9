import ConfigTemplate.Shell.Builtins.Basic
import ConfigTemplate.Shell.Rights
import ConfigTemplate.Shell.Search

/-!
# Commands for what surrounds a shell

The commands for the working directory, the rights of new files, and limits.
-/

namespace ConfigTemplate.Shell.Builtins

open Text (Bytes)
open Run (bytesOf textOf)

/-- The path that a name leads to from a path, by the names alone: two dots undo the name before
them. -/
def joinedPath (directory name : String) : String :=
  let target := Location.ofText name
  let base := if target.isAbsolute then { target with parts := [] } else Location.ofText directory
  let parts := target.parts.foldl (fun parts part =>
    if part = ".." then parts.dropLast else parts ++ [part]) base.parts
  ({ base with parts := parts } : Location).text

/-- Make a directory the working directory: by its names, or as what it really is. Whether that has
succeeded comes back. -/
def enter (physical : Bool) (name : Bytes) : Run Bool := do
  let s ← get
  let path := joinedPath s.process.directory (textOf name)
  let wanted := if physical then name else bytesOf path
  match Storage.place s wanted true with
  | .error _ => return false
  | .ok place =>
    if s.files.entry? place ≠ some .directory then return false
    else
      let path := if physical then pathOf place else path
      let old := s.process.directory
      let named (text : String) (_ : Variable) : Variable :=
        ⟨some (bytesOf text), true, false⟩
      Run.adjust "OLDPWD" (named old)
      Run.adjust "PWD" (named path)
      modify fun s =>
        { s with
          files := { s.files with home := place }
          process := { s.process with directory := path } }
      return true

/-- Whether a name begins with dots that stand for directories. -/
def isDotted (name : Bytes) : Bool :=
  match (name.splitOn 47).headD [] with
  | [46] | [46, 46] => true
  | _ => false

/-- The first directory of a name within some others, and whether that is one with a name. -/
def amongDirectories (s : State) (name : Bytes) : List Bytes → Option (Bytes × Bool)
  | [] => none
  | outer :: rest =>
    let path := within outer name
    if Storage.isDirectory s path then some (path, !outer.isEmpty)
    else amongDirectories s name rest

/-- Change the working directory. -/
def changeDirectory : Program := fun arguments => do
  let (found, names) ← options ['L', 'P'] [] arguments
  let physical := (found.getLast?.map (·.1)) = some 'P'
  let (target, shows) : Bytes × Bool ←
    match names with
    | [] => do pure ((← Run.valueOf? "HOME").getD [], false)
    | [45] :: _ => do pure ((← Run.valueOf? "OLDPWD").getD [], true)
    | name :: _ => pure (name, false)
  let (path, shows) : Bytes × Bool ←
    if target.head? = some 47 || isDotted target then pure (target, shows)
    else do
      let target := if target.isEmpty then [46] else target
      let outer := ((← Run.valueOf? "CDPATH").getD []).splitOn 58
      match amongDirectories (← get) target outer with
      | some (path, named) => pure (path, shows || named)
      | none => pure (target, shows)
  if !(← enter physical path) then Run.fail s!"can't cd to {textOf target}"
  if shows then Run.write 1 (bytesOf ((← Run.process).directory ++ "\n"))
  return 0

/-- Write the working directory. -/
def workingDirectory : Program := fun arguments => do
  let (found, _) ← options ['L', 'P'] [] arguments
  let s ← get
  let physical := (found.getLast?.map (·.1)) = some 'P'
  let path := if physical then pathOf s.files.home else s.process.directory
  Run.write 1 (bytesOf (path ++ "\n"))
  return 0

/-- Rights that are granted, after the clauses of a text such as `u=rwx,go-w`; none where the text
holds anything else. Letters for somebody's rights copy those before. The two numbers in front of
the text are a bit for each of the people that the clause at hand names, and the rights so far. -/
def granted (before : Nat) : Nat → Nat → Nat → List Char → Option Nat
  | 0, _, rights, _ => some rights
  | _ + 1, _, rights, [] => some rights
  | fuel + 1, people, rights, text =>
    let who := text.takeWhile "augo".toList.contains
    let named := who.foldl (fun bits c =>
      bits ||| (match c with | 'a' => 0o111 | 'u' => 0o100 | 'g' => 0o010 | _ => 0o001)) people
    let people := if named = 0 then 0o111 else named
    match text.drop who.length with
    | [] => some rights
    | op :: rest =>
      if ¬ ['=', '+', '-'].contains op then none
      else
        let letters := rest.takeWhile "rwxugoXs".toList.contains
        let value := letters.foldl (fun bits c =>
          bits ||| (match c with
            | 'r' => 4
            | 'w' => 2
            | 'x' => 1
            | 'u' => before >>> 6
            | 'g' => before >>> 3
            | 'o' => before
            | 'X' => if before &&& 0o111 ≠ 0 then 1 else 0
            | _ => 0)) 0
        let bits := (value &&& 7) * people
        let rights :=
          match op with
          | '-' => Rights.without rights bits
          | '+' => rights ||| bits
          | _ => bits ||| Rights.without rights (people * 7)
        match rest.drop letters.length with
        | [] => some rights
        | ',' :: more => granted before fuel 0 rights more
        | c :: more =>
          if ['=', '+', '-'].contains c then granted before fuel people rights (c :: more)
          else none

example : granted 0o755 9 0 0o755 "go+w,u-x".toList = some 0o677 := by decide

/-- Show or set the rights that new files lack. -/
def mask : Program := fun arguments => do
  let (found, texts) ← options ['S'] [] arguments
  let mask := (← Run.process).mask
  let rights := Rights.without 0o777 mask
  match texts with
  | [] =>
    let symbolic :=
      s!"u={Rights.letters (rights >>> 6)},g={Rights.letters (rights >>> 3)}," ++
        s!"o={Rights.letters rights}"
    Run.write 1 (bytesOf ((if found.isEmpty then Rights.digits 4 mask else symbolic) ++ "\n"))
    return 0
  | text :: _ =>
    let letters := charsOf text
    let new : Nat ←
      if (text.head?.any fun b => 48 ≤ b && b ≤ 57) then
        match Rights.octal? letters with
        | some n => pure (n &&& 0o777)
        | none => Run.fail s!"Illegal number: {textOf text}"
      else
        match granted rights (letters.length + 1) 0 rights letters with
        | some after => pure (Rights.without 0o777 after)
        | none => Run.fail s!"Illegal mode: {textOf text}"
    Run.modifyProcess ({ · with mask := new })
    return 0

/-- The limits by their letters: their names and values. -/
def limits : List (Char × String × String) :=
  [('t', "time(seconds)", "unlimited"), ('f', "file(blocks)", "unlimited"),
    ('d', "data(kbytes)", "unlimited"), ('s', "stack(kbytes)", "8192"),
    ('c', "coredump(blocks)", "0"), ('m', "memory(kbytes)", "unlimited"),
    ('l', "locked memory(kbytes)", "8192"), ('p', "process", "unlimited"),
    ('n', "nofiles", "1048576"), ('v', "vmemory(kbytes)", "unlimited"),
    ('w', "locks", "unlimited"), ('r', "rtprio", "0")]

/-- Show limits. Setting one has no consequence. -/
def limit : Program := fun arguments => do
  let (found, texts) ← options ('H' :: 'S' :: 'a' :: limits.map (·.1)) [] arguments
  let letters := found.map (·.1)
  match texts with
  | text :: _ =>
    if text = bytesOf "unlimited" || (!text.isEmpty && text.all fun b => 48 ≤ b && b ≤ 57) then
      return 0
    else Run.fail "bad number"
  | [] =>
    if letters.contains 'a' then
      for (_, name, value) in limits do
        let blanks := String.ofList (List.replicate (20 - name.length) ' ')
        Run.write 1 (bytesOf s!"{name}{blanks} {value}\n")
    else
      let letter := (letters.filter fun c => c != 'H' && c != 'S').getLast?.getD 'f'
      match limits.find? (·.1 = letter) with
      | some (_, _, value) => Run.write 1 (bytesOf (value ++ "\n"))
      | none => pure ()
    return 0

/-- Show the time that was spent. -/
def times : Program := fun _ => do
  Run.write 1 (bytesOf "0m0.000000s 0m0.000000s\n0m0.000000s 0m0.000000s\n")
  return 0

end ConfigTemplate.Shell.Builtins
