import ConfigTemplate.Shell.Programs.Digest
import ConfigTemplate.Shell.Programs.Places

/-!
# Checksums of files

The programs that write the digests of files, and check that files still have them.
-/

namespace ConfigTemplate.Shell.Programs

open Text (Bytes)
open Run (bytesOf textOf)

/-- Bytes in hexadecimal digits. -/
def hexText (bytes : Bytes) : Bytes :=
  bytes.flatMap fun b => (Nat.toDigits 16 (b.toNat + 256)).drop 1 |>.map fun c =>
    UInt8.ofNat c.toNat

/-- The digest and the name in a line of a list of digests. -/
def checkedLine? (size : Nat) (line : Bytes) : Option (Bytes × Bytes) :=
  let digest := line.take (2 * size)
  match line.drop (2 * size) with
  | 32 :: sign :: name =>
    if digest.length = 2 * size && digest.all (fun b => (Char.ofNat b.toNat).isAlphanum) &&
        (sign = 32 || sign = 42) && !name.isEmpty then some (digest, name)
    else none
  | _ => none

/-- How a checksum program works: its name, that of its digest, the size of the digest in bytes, and
the digest itself. -/
structure Digester where
  program : String
  title : String
  size : Nat
  digest : Bytes → Bytes

/-- Check the files of a list of digests. -/
def checkDigests (d : Digester) (given : Given) (name : Bytes) : Run Nat := do
  match ← contentOf name with
  | .error fault =>
    Run.complainPlain s!"{d.program}: {named name}: {fault}"
    return 1
  | .ok content =>
    let lines := linesOf content
    let found := lines.filterMap (checkedLine? d.size)
    if found.isEmpty then
      Run.complainPlain
        s!"{d.program}: {named name}: no properly formatted checksum lines found"
      return 1
    let quiet := given.has "quiet" || given.has "status"
    let (wrong, unread) ← found.foldlM (fun (wrong, unread) (digest, file) => do
      match ← contentOf file with
      | .error fault =>
        Run.complainPlain s!"{d.program}: {named file}: {fault}"
        if !given.has "status" then say s!"{textOf file}: FAILED open or read"
        return (wrong, unread + 1)
      | .ok content =>
        if hexText (d.digest content) = digest.map (fun b =>
            if 65 ≤ b && b ≤ 90 then b + 32 else b) then
          if !quiet then say s!"{textOf file}: OK"
          return (wrong, unread)
        else
          if !given.has "status" then say s!"{textOf file}: FAILED"
          return (wrong + 1, unread)) (0, 0)
    let bad := lines.length - found.length
    if !given.has "status" then
      if bad ≠ 0 && given.has "w" then
        let lines := if bad = 1 then "line is" else "lines are"
        Run.complainPlain s!"{d.program}: WARNING: {bad} {lines} improperly formatted"
      if unread ≠ 0 then
        let files := if unread = 1 then "listed file" else "listed files"
        Run.complainPlain s!"{d.program}: WARNING: {unread} {files} could not be read"
      if wrong ≠ 0 then
        let sums := if wrong = 1 then "computed checksum" else "computed checksums"
        Run.complainPlain s!"{d.program}: WARNING: {wrong} {sums} did NOT match"
    return if wrong = 0 && unread = 0 then 0 else 1

/-- Write or check the digests of files. -/
def digestProgram (d : Digester) : Program := fun arguments => do
  let manual : Manual :=
    { name := d.program
      choices := [flag 'b' "binary", flag 'c' "check", flag 't' "text", flag 'z' "zero",
        flag 'w' "warn", long "tag" .none, long "quiet" .none, long "status" .none,
        long "strict" .none, long "ignore-missing" .none] }
  let given ← manual.read arguments
  let names := if given.operands.isEmpty then [[45]] else given.operands
  if given.has "c" then return ← forEach names (checkDigests d given)
  eachFile d.program 1 names fun name content => do
    let digest := hexText (d.digest content)
    let ending : UInt8 := if given.has "z" then 0 else 10
    if given.has "tag" then
      Run.write 1 (bytesOf s!"{d.title} ({textOf name}) = " ++ digest ++ [ending])
    else
      let sign : UInt8 := if given.last? ["b", "t"] = some "b" then 42 else 32
      Run.write 1 (digest ++ [32, sign] ++ name ++ [ending])

/-- The programs for digests by their names. -/
def digestPrograms : List (String × Program) :=
  [(⟨"md5sum", "MD5", 16, Digest.md5⟩ : Digester), ⟨"sha1sum", "SHA1", 20, Digest.sha1⟩,
    ⟨"sha224sum", "SHA224", 28, Digest.sha224⟩, ⟨"sha256sum", "SHA256", 32, Digest.sha256⟩,
    ⟨"sha384sum", "SHA384", 48, Digest.sha384⟩, ⟨"sha512sum", "SHA512", 64, Digest.sha512⟩].map
    fun d => (d.program, digestProgram d)

/-- Write checksums and lengths of files. -/
def checksum : Program := fun arguments => do
  let manual : Manual := { name := "cksum", choices := [valued 'a' "algorithm"] }
  let given ← manual.read arguments
  eachFile "cksum" 1 given.operands fun name content => do
    let label := if given.operands.isEmpty then [] else 32 :: name
    Run.write 1 (bytesOf s!"{Digest.checksum content} {content.length}" ++ label ++ [10])

/-- Write sums and block counts of files. -/
def sumBlocks : Program := fun arguments => do
  let manual : Manual := { name := "sum", choices := [flag 'r' "", flag 's' "sysv"] }
  let given ← manual.read arguments
  let plain := given.last? ["r", "s"] = some "s"
  eachFile "sum" 1 given.operands fun name content => do
    let label := if given.operands.isEmpty then [] else 32 :: name
    let text :=
      if plain then s!"{Digest.plainSum content} {(content.length + 511) / 512}"
      else
        let digits := toString (Digest.turningSum content)
        let blocks := toString ((content.length + 1023) / 1024)
        String.ofList (List.replicate (5 - digits.length) '0') ++ digits ++ " " ++
          String.ofList (List.replicate (5 - blocks.length) ' ') ++ blocks
    Run.write 1 (bytesOf text ++ label ++ [10])

end ConfigTemplate.Shell.Programs
