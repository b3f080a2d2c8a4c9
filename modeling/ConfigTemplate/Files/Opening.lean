import ConfigTemplate.Files.Basic

/-!
# Opening files

A file is opened to read it, to write it from its beginning or from its end, or to make it. Letters
say which; further ones ask for both reading and writing, or for bytes instead of text.
-/

namespace ConfigTemplate.Files

/-- What a file is opened for. -/
inductive Access where
  | read
  | overwrite
  | create
  | append
  deriving DecidableEq, Repr

/-- The letter for what a file is opened for. -/
def Access.letter : Access → Char
  | read => 'r'
  | overwrite => 'w'
  | create => 'x'
  | append => 'a'

/-- All that a file may be opened for. -/
def Access.all : List Access := [read, overwrite, create, append]

/-- A way to open a file. -/
structure Opening where
  access : Access
  /-- Whether a file that is read may be written, too, or the other way round. -/
  updates : Bool
  /-- Whether the file holds bytes instead of text. -/
  binary : Bool
  deriving DecidableEq, Repr

namespace Opening

/-- Why letters give no way to open a file. -/
inductive Fault where
  /-- A letter is unknown or there twice. -/
  | letters (mode : String)
  /-- One of the letters is the character that no text may hold. -/
  | nullCharacter
  | textAndBinary
  | severalAccesses
  | noAccess
  deriving Repr

/-- The wording of a fault. -/
def Fault.message : Fault → String
  | letters mode => s!"invalid mode: '{mode}'"
  | nullCharacter => "embedded null character"
  | textAndBinary => "can't have text and binary mode at once"
  | severalAccesses => "must have exactly one of create/read/write/append mode"
  | noAccess =>
    "Must have exactly one of create/read/write/append mode and at most one plus"

/-- The letters that may ask for something. -/
def letters : List Char := ['x', 'r', 'w', 'a', '+', 't', 'b']

/-- The way to open a file that letters ask for. -/
def ofText (mode : String) : Except Fault Opening :=
  let cs := mode.toList
  if cs.contains '\x00' then .error .nullCharacter
  else if !cs.all letters.contains || cs.eraseDups.length ≠ cs.length then .error (.letters mode)
  else if cs.contains 't' && cs.contains 'b' then .error .textAndBinary
  else
    match Access.all.filter fun access => cs.contains access.letter with
    | [access] => .ok ⟨access, cs.contains '+', cs.contains 'b'⟩
    | [] => .error .noAccess
    | _ => .error .severalAccesses

/-- Whether text can be written. -/
def takesText (opening : Opening) : Bool :=
  !opening.binary && (opening.updates || opening.access ≠ .read)

end Opening

/-- The files after one of them is opened. -/
def opened (files : Files) (location : Location) (opening : Opening) : Except Fault Files :=
  match opening.access with
  | .read => (files.read location).map fun _ => files
  | .overwrite => files.write location []
  | .append => files.append location []
  | .create => if files.exists? location then .error .present else files.write location []

/-- Write into a file from a position on, over what is there. -/
def writeAt (files : Files) (location : Location) (position : Nat) (content : Text.Bytes) :
    Except Fault Files :=
  match files.read location with
  | .error fault => .error fault
  | .ok present =>
    files.write location
      (present.take position ++ content ++ present.drop (position + content.length))

/-- Write into an opened file after so many bytes were written before. -/
def writeOpened (files : Files) (location : Location) (opening : Opening) (before : Nat)
    (content : Text.Bytes) : Except Fault Files :=
  if !opening.takesText then .ok files
  else
    match opening.access with
    | .read => files.writeAt location before content
    | _ => files.append location content

end ConfigTemplate.Files
