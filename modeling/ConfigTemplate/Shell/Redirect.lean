import ConfigTemplate.Shell.Expand

/-!
# Redirections

What redirections do with the descriptors of a process. Their words are expanded before anything is
opened; what cannot be opened stops the command.
-/

namespace ConfigTemplate.Shell.Redirect

open Text (Bytes)
open Run (bytesOf textOf)

/-- A redirection whose words are expanded. -/
inductive Prepared where
  | file (descriptor : Nat) (direction : Direction) (name : Bytes)
  | copy (descriptor source : Nat)
  | close (descriptor : Nat)
  | content (descriptor : Nat) (content : Bytes)

/-- Stop because something that is no descriptor stands in the place of one. The line up to which
the script has been read is named as the place. -/
def refuseDescriptor {α : Type} : Run α := do
  Run.modifyProcess fun p => { p with line := p.lineRead }
  Run.fail "Syntax error: Bad fd number"

/-- Expand the words of a redirection. -/
def prepare (outputOf : OutputOf) : Redirection → Run Prepared
  | .hereText descriptor content => do
    return .content descriptor (joinedBytes (← wordGlyphs outputOf content))
  | .to descriptor direction target => do
    let name ← wordBytes outputOf target
    match direction with
    | .duplicate =>
      match charsOf name with
      | ['-'] => return .close descriptor
      | [c] =>
        if c.isDigit then return .copy descriptor (c.toNat - 48) else refuseDescriptor
      | _ => refuseDescriptor
    | direction => return .file descriptor direction name

/-- Stop because a file cannot be opened. -/
def refuse {α : Type} (verb : String) (name : Bytes) (missing : String) (fault : Files.Fault) :
    Run α :=
  let words :=
    match fault with
    | .missing | .notDirectory => missing
    | fault => Storage.wording fault
  Run.fail s!"cannot {verb} {textOf name}: {words}"

/-- Whether a file is there that is not to be written over. -/
def isProtected (name : Bytes) : Run Bool := do
  let s ← get
  return s.process.options.contains 'C' &&
    match Storage.find s name with
    | .ok (.file _) | .ok .program => true
    | _ => false

/-- Open a file for a descriptor. -/
def openFile (descriptor : Nat) (direction : Direction) (name : Bytes) : Run Unit := do
  match Storage.descriptorOf? name with
  | some other =>
    match Entries.get? other (← Run.process).descriptors with
    | some number => Run.connect descriptor number
    | none => refuse "open" name "No such file" .missing
  | none =>
    let writes := direction ≠ .read
    let opened : Except Files.Fault Channel ←
      match direction with
      | .read => Storage.openFile name true false false false
      | .readWrite => Storage.openFile name true true false false
      | .append => Storage.openFile name false true true false
      | direction =>
        if direction = .write && (← isProtected name) then pure (.error .present)
        else Storage.openFile name false true false true
    match opened with
    | .ok channel => Run.connect descriptor (← Run.openChannel channel)
    | .error fault =>
      if writes then refuse "create" name "Directory nonexistent" fault
      else refuse "open" name "No such file" fault

/-- Do what a redirection asks for. -/
def perform : Prepared → Run Unit
  | .content descriptor content => do
    Run.connect descriptor (← Run.openChannel (.pipe content))
  | .file descriptor direction name => openFile descriptor direction name
  | .close descriptor => Run.disconnect descriptor
  | .copy descriptor source => do
    match Entries.get? source (← Run.process).descriptors with
    | some number => Run.connect descriptor number
    | none => Run.fail s!"{source}: Bad file descriptor"

/-- Do what redirections ask for, one after the other. Whether it was possible comes back. -/
def performAll (outputOf : OutputOf) (redirections : List Redirection) : Run Bool := do
  let prepared ← redirections.mapM (prepare outputOf)
  tryCatch (do
    prepared.forM perform
    return true) fun stop =>
      match stop with
      | .mistake _ => return false
      | stop => throw stop

end ConfigTemplate.Shell.Redirect
