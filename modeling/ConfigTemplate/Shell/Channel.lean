import ConfigTemplate.Files.Basic

/-!
# Channels

What a descriptor of a process leads to: a file with a position in it, a pipe, or a device. A
channel may be shared by several descriptors and processes; each of them sees how far the others
have come.
-/

namespace ConfigTemplate.Shell

open Text (Bytes)

/-- What lies behind a channel. -/
inductive Target where
  | file (place : Place)
  /-- A file that has been removed since. -/
  | detached (content : Bytes)
  | directory
  /-- What has been written and not read yet: what is unread for long, then pieces, the latest
  first. -/
  | pipe (unread : Bytes) (written : List Bytes)
  /-- A device that swallows what is written and has nothing to read. -/
  | sink
  /-- A device that gives zeros. -/
  | zeros
  /-- A device without space. -/
  | full

/-- A channel: how far it has come, and what it is open for. -/
structure Channel where
  target : Target
  position : Nat
  reads : Bool
  writes : Bool
  /-- Whether all that is written goes to the end. -/
  appends : Bool

namespace Channel

/-- Why nothing can be written or read. -/
inductive Fault where
  | badDescriptor
  | noSpace
  | isDirectory
  deriving DecidableEq, Repr

/-- The wording of a fault. -/
def Fault.message : Fault → String
  | badDescriptor => "Bad file descriptor"
  | noSpace => "No space left on device"
  | isDirectory => "Is a directory"

/-- A pipe in which there is something. -/
def pipe (content : Bytes) : Channel := ⟨.pipe content [], 0, true, true, true⟩

/-- The number of zeros that a device gives at once. -/
def zeroCount : Nat := 65536

/-- What there is to read. -/
def unread (files : Files) (channel : Channel) : Except Fault Bytes :=
  if !channel.reads then .error .badDescriptor
  else
    match channel.target with
    | .file place =>
      match files.entry? place with
      | some (.file content) => .ok (content.drop channel.position)
      | _ => .ok []
    | .detached content => .ok (content.drop channel.position)
    | .directory => .error .isDirectory
    | .pipe unread [] => .ok unread
    | .pipe unread written => .ok (unread ++ written.reverse.flatten)
    | .sink => .ok []
    | .zeros | .full => .ok (List.replicate zeroCount 0)

/-- The channel after some of what there was has been read, of which the rest is given. -/
def advanced (channel : Channel) (count : Nat) (rest : Bytes) : Channel :=
  match channel.target with
  | .pipe .. => { channel with target := .pipe rest [] }
  | _ => { channel with position := channel.position + count }

/-- Whether one can go back in what has been read. -/
def isSeekable (channel : Channel) : Bool :=
  match channel.target with
  | .file _ | .detached _ => true
  | _ => false

/-- A content with bytes written over it from a position on; a gap is filled with zeros. -/
def overwritten (content : Bytes) (position : Nat) (new : Bytes) : Bytes :=
  content.take position ++ List.replicate (position - content.length) 0 ++ new ++
    content.drop (position + new.length)

@[simp] theorem overwritten_length (content new : Bytes) :
    overwritten content content.length new = content ++ new := by
  simp [overwritten]

/-- The files and the channel after bytes have been written. -/
def written (files : Files) (channel : Channel) (new : Bytes) : Except Fault (Files × Channel) :=
  if !channel.writes then .error .badDescriptor
  else
    let into (content : Bytes) : Bytes × Channel :=
      let position := if channel.appends then content.length else channel.position
      (overwritten content position new, { channel with position := position + new.length })
    match channel.target with
    | .file place =>
      match files.entry? place with
      | some (.file content) =>
        let (content, channel) := into content
        .ok (files.put place (.file content), channel)
      | _ => .ok (files, channel)
    | .detached content =>
      let (content, channel) := into content
      .ok (files, { channel with target := .detached content })
    | .pipe unread pieces => .ok (files, { channel with target := .pipe unread (new :: pieces) })
    | .directory => .error .badDescriptor
    | .sink | .zeros => .ok (files, channel)
    | .full => if new.isEmpty then .ok (files, channel) else .error .noSpace

end Channel

end ConfigTemplate.Shell
