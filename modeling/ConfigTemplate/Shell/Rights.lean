import ConfigTemplate.Shell.Fields

/-!
# Rights

The rights of files are numbers of twelve bits: reading, writing and running for the owner, the
group and others, after three special bits. They are changed by octal numbers or by clauses such as
`u+x,go=r`.
-/

namespace ConfigTemplate.Shell.Rights

/-- The bits of those whom a letter stands for. -/
def whoBits : Char → Nat
  | 'u' => 0o4700
  | 'g' => 0o2070
  | 'o' => 0o1007
  | 'a' => 0o7777
  | _ => 0

/-- The bits that a letter asks for. -/
def rightBits (runs : Bool) : Char → Nat
  | 'r' => 0o444
  | 'w' => 0o222
  | 'x' => 0o111
  | 'X' => if runs then 0o111 else 0
  | 's' => 0o6000
  | 't' => 0o1000
  | _ => 0

/-- The three bits of those whom a letter stands for, for everyone. -/
def copied (mode : Nat) (letter : Char) : Nat :=
  let three : Nat :=
    match letter with
    | 'u' => mode >>> 6 &&& 7
    | 'g' => mode >>> 3 &&& 7
    | _ => mode &&& 7
  three * 0o111

/-- What a clause says: its operator and the bits it is about. The letters up to the next operator
belong to one. -/
def actionsOf (mode : Nat) (runs : Bool) : Nat → List Char → Option (List (Char × Nat))
  | 0, _ => none
  | _ + 1, [] => some []
  | fuel + 1, op :: rest =>
    if ¬ ['+', '-', '='].contains op then none
    else
      let letters := rest.takeWhile fun c => ¬ ['+', '-', '='].contains c
      let bits : Option Nat :=
        match letters with
        | ['u'] | ['g'] | ['o'] => some (copied mode (letters.headD 'u'))
        | letters =>
          if letters.all "rwxXst".toList.contains then
            some (letters.foldl (fun bits c => bits ||| rightBits runs c) 0)
          else none
      match bits, actionsOf mode runs fuel (rest.drop letters.length) with
      | some bits, some more => some ((op, bits) :: more)
      | _, _ => none

/-- A number without some bits. -/
def without (mode bits : Nat) : Nat := mode &&& (0o7777 ^^^ (bits &&& 0o7777))

/-- Rights after a clause; none for a clause that says nothing. A clause that names nobody is about
everyone, without the bits of a mask. -/
def afterClause (mask : Nat) (isDirectory : Bool) (mode : Nat) (clause : List Char) :
    Option Nat := do
  let who := clause.takeWhile "ugoa".toList.contains
  let reach :=
    if who.isEmpty then without 0o7777 mask else who.foldl (fun bits c => bits ||| whoBits c) 0
  let runs := isDirectory || mode &&& 0o111 ≠ 0
  let rest := clause.drop who.length
  if rest.isEmpty then none
  let actions ← actionsOf mode runs (rest.length + 1) rest
  return actions.foldl (fun mode (op, bits) =>
    let bits := bits &&& reach
    match op with
    | '+' => mode ||| bits
    | '-' => without mode bits
    | _ =>
      let kept := if isDirectory then 0o6000 else 0
      without mode (without reach kept) ||| bits) mode

/-- The number that octal digits write. -/
def octal? (text : List Char) : Option Nat :=
  if text.isEmpty || !text.all (fun c => '0' ≤ c && c ≤ '7') then none
  else some (text.foldl (fun n c => n * 8 + (c.toNat - 48)) 0)

/-- Rights after a change that a text describes; none for a text that describes none. -/
def changed? (mask : Nat) (isDirectory : Bool) (mode : Nat) (text : String) : Option Nat :=
  match octal? text.toList with
  | some n => if n ≤ 0o7777 then some n else none
  | none =>
    (text.toList.splitOn ',').foldl (fun mode clause => do
      afterClause mask isDirectory (← mode) clause) (some mode)

example : changed? 0o022 false 0o644 "u+x,go=" = some 0o700 := by decide

/-- The letters of three bits. -/
def letters (three : Nat) : String :=
  String.ofList ((['r', 'w', 'x'].zip [4, 2, 1]).filterMap fun (c, bit) =>
    if three &&& bit ≠ 0 then some c else none)

/-- The nine letters of rights, with hyphens for those that are missing. -/
def shown (mode : Nat) : String :=
  let three (shift special : Nat) (set unset : Char) : List Char :=
    let bits := mode >>> shift
    [if bits &&& 4 ≠ 0 then 'r' else '-', if bits &&& 2 ≠ 0 then 'w' else '-',
      if mode &&& special ≠ 0 then (if bits &&& 1 ≠ 0 then set else unset)
      else if bits &&& 1 ≠ 0 then 'x' else '-']
  String.ofList (three 6 0o4000 's' 'S' ++ three 3 0o2000 's' 'S' ++ three 0 0o1000 't' 'T')

example : shown 0o1755 = "rwxr-xr-t" := by decide

/-- The octal digits of rights, so many at least. -/
def digits (least mode : Nat) : String :=
  let digits := Nat.toDigits 8 mode
  String.ofList (List.replicate (least - digits.length) '0' ++ digits)

end ConfigTemplate.Shell.Rights
