/-!
# Placeholders

Three kinds of placeholders stand for text in a string: a reference to another key between braces
after a dollar sign, a command between parentheses after one, and an environment variable whose
name follows one. Each kind is told at its dollar sign from the characters that follow. A
reference holds no braces. The parentheses of a command are balanced, and a command holds no
opening of another one. A variable's name goes as far as its characters allow.

The placeholders of a text are found in order of position. The next one to substitute is the
leftmost of the first kind that occurs at all.
-/

namespace ConfigTemplate

/-- The kinds of placeholders. -/
inductive Placeholder.Kind where
  | reference
  | command
  | envVar
  deriving DecidableEq, Repr

/-- A placeholder of a text: what it holds, and the position of its dollar sign. -/
structure Placeholder where
  kind : Placeholder.Kind
  payload : String
  start : Nat
  deriving DecidableEq, Repr

namespace Placeholder

/-- All kinds, the one that is substituted first in front. -/
def Kind.all : List Kind := [.reference, .command, .envVar]

/-- The kinds that a document resolves by itself. -/
def Kind.internal : List Kind := [.reference]

/-- A payload with the marks of its kind around it. -/
def Kind.enclose : Kind → List Char → List Char
  | reference, payload => '$' :: '\x7b' :: payload ++ ['\x7d']
  | command, payload => '$' :: '(' :: payload ++ [')']
  | envVar, payload => '$' :: payload

/-- The source text of a placeholder. -/
def chars (p : Placeholder) : List Char := p.kind.enclose p.payload.toList

/-- The source text of a placeholder. -/
def text (p : Placeholder) : String := String.ofList p.chars

/-- The position after a placeholder. -/
def stop (p : Placeholder) : Nat := p.start + p.chars.length

/-- A text with a placeholder of it replaced. -/
def splice (p : Placeholder) (source replacement : String) : String :=
  String.ofList
    (source.toList.take p.start ++ replacement.toList ++ source.toList.drop p.stop)

/-- A brace of either direction. -/
def isBrace (c : Char) : Bool := c = '\x7b' || c = '\x7d'

/-- A letter of ASCII or an underscore. -/
def isNameStart (c : Char) : Bool :=
  'a' ≤ c && c ≤ 'z' || 'A' ≤ c && c ≤ 'Z' || c = '_'

/-- A letter or digit of ASCII or an underscore. -/
def isNameChar (c : Char) : Bool := isNameStart c || '0' ≤ c && c ≤ '9'

/-- The characters up to the parenthesis that closes `depth + 1` open ones. -/
def closed? (depth : Nat) : List Char → Option (List Char)
  | [] => none
  | c :: rest =>
    if c = '(' then (closed? (depth + 1) rest).map (c :: ·)
    else if c = ')' then
      match depth with
      | 0 => some []
      | depth + 1 => (closed? depth rest).map (c :: ·)
    else (closed? depth rest).map (c :: ·)

/-- Whether some characters hold the opening of a command. -/
def hasCommandOpening : List Char → Bool
  | '$' :: '(' :: _ => true
  | _ :: rest => hasCommandOpening rest
  | [] => false

/-- The payload of a reference, from after its opening. -/
def referencePayload? (cs : List Char) : Option (List Char) :=
  match cs.takeWhile (!isBrace ·), cs.dropWhile (!isBrace ·) with
  | c :: payload, '\x7d' :: _ => some (c :: payload)
  | _, _ => none

/-- The payload of a command, from after its opening. -/
def commandPayload? (cs : List Char) : Option (List Char) :=
  match closed? 0 cs with
  | some (c :: payload) => if hasCommandOpening (c :: payload) then none else some (c :: payload)
  | _ => none

/-- The name of a variable, from after its dollar sign. -/
def envVarPayload? : List Char → Option (List Char)
  | c :: rest => if isNameStart c then some (c :: rest.takeWhile isNameChar) else none
  | [] => none

/-- The payload of a placeholder of a kind at the front of some characters. -/
def Kind.payload? : Kind → List Char → Option (List Char)
  | reference, '$' :: '\x7b' :: rest => referencePayload? rest
  | command, '$' :: '(' :: rest => commandPayload? rest
  | envVar, '$' :: rest => envVarPayload? rest
  | _, _ => none

/-- The placeholder of a kind at the front of some characters. -/
def at? (position : Nat) (cs : List Char) (kind : Kind) : Option Placeholder :=
  (kind.payload? cs).map fun payload => ⟨kind, String.ofList payload, position⟩

/-! ### Finding placeholders -/

/-- The placeholders of a kind among some characters, the first of which is at a position. -/
def findFrom (kind : Kind) (position : Nat) : List Char → List Placeholder
  | [] => []
  | c :: rest => (at? position (c :: rest) kind).toList ++ findFrom kind (position + 1) rest

/-- The placeholders of a kind in a text. -/
def find (kind : Kind) (text : String) : List Placeholder := findFrom kind 0 text.toList

/-- The leftmost placeholder of a kind among some characters. -/
def firstFrom? (kind : Kind) (position : Nat) : List Char → Option Placeholder
  | [] => none
  | c :: rest =>
    match at? position (c :: rest) kind with
    | some p => some p
    | none => firstFrom? kind (position + 1) rest

theorem firstFrom?_eq_head? (kind : Kind) (position : Nat) (cs : List Char) :
    firstFrom? kind position cs = (findFrom kind position cs).head? := by
  induction cs generalizing position with
  | nil => rfl
  | cons c rest ih =>
    rw [firstFrom?, findFrom]
    cases at? position (c :: rest) kind <;> simp [ih]

/-- The next placeholder of a text to substitute, of some kinds in their order. -/
def scan (kinds : List Kind) (text : String) : Option Placeholder :=
  kinds.findSome? fun kind => firstFrom? kind 0 text.toList

/-- Whether a text has a placeholder of some kinds. -/
def occurs (kinds : List Kind) (text : String) : Bool := (scan kinds text).isSome

/-- The placeholders of all kinds among some characters. -/
def findAllFrom (position : Nat) : List Char → List Placeholder
  | [] => []
  | c :: rest =>
    Kind.all.filterMap (at? position (c :: rest)) ++ findAllFrom (position + 1) rest

/-- The placeholders of all kinds in a text. -/
def findAll (text : String) : List Placeholder := findAllFrom 0 text.toList

theorem scan_eq (kinds : List Kind) (text : String) :
    scan kinds text = kinds.findSome? fun kind => (find kind text).head? := by
  simp only [scan, firstFrom?_eq_head?, find]

end Placeholder

end ConfigTemplate
