import ConfigTemplate.Text.Quoted

/-!
# Text as bytes

Reading bytes as text in one of the Unicode encodings. A decoder takes one character at a time; at
a place that is no character it knows how many bytes are at fault and why. Strict reading stops
there, lenient reading puts a replacement character for those bytes and goes on. A document's
encoding is told from a byte order mark or from the zero bytes around its first characters.
-/

namespace ConfigTemplate.Text

/-- The contents of a file or the output of a command. -/
abbrev Bytes := List UInt8

/-- The encodings of a document. -/
inductive Encoding where
  | utf8
  | utf16 (bigEndian : Bool)
  | utf32 (bigEndian : Bool)
  deriving DecidableEq, Repr

namespace Encoding

/-- The name of an encoding in messages. -/
def name : Encoding → String
  | utf8 => "utf-8"
  | utf16 false => "utf-16-le"
  | utf16 true => "utf-16-be"
  | utf32 false => "utf-32-le"
  | utf32 true => "utf-32-be"

/-- Why bytes at some place are no character. -/
inductive Reason where
  | startByte
  | continuationByte
  | endOfData
  | truncated
  | range
  deriving DecidableEq, Repr

/-- The wording of a reason. -/
def Reason.message : Reason → String
  | startByte => "invalid start byte"
  | continuationByte => "invalid continuation byte"
  | endOfData => "unexpected end of data"
  | truncated => "truncated data"
  | range => "code point not in range(0x110000)"

/-- The first place where bytes are no text: the byte there, how many bytes are at fault, and
why. -/
structure Fault where
  encoding : Encoding
  position : Nat
  byte : UInt8
  count : Nat
  reason : Reason
  deriving DecidableEq, Repr

/-- The wording of a fault. A single byte is shown, several are given by their positions. -/
def Fault.message (f : Fault) : String :=
  let place :=
    if f.count = 1 then
      s!"byte 0x" ++ String.ofList (hexDigits 2 f.byte.toNat) ++ s!" in position {f.position}"
    else s!"bytes in position {f.position}-{f.position + f.count - 1}"
  s!"'{f.encoding.name}' codec can't decode {place}: {f.reason.message}"

/-- The outcome of reading one character: the character and the bytes it takes, or the bytes at
fault. -/
inductive Step where
  | char (c : Char) (count : Nat)
  | fault (count : Nat) (reason : Reason)
  deriving Repr

/-- The number of bytes that follow a lead byte; none for a byte that starts no character. -/
def trailCount (lead : UInt8) : Option Nat :=
  if lead < 0x80 then some 0
  else if lead < 0xC2 then none
  else if lead < 0xE0 then some 1
  else if lead < 0xF0 then some 2
  else if lead < 0xF5 then some 3
  else none

/-- The bounds of the byte after a lead byte. They exclude overlong forms, surrogates and code
points beyond the last. -/
def secondBounds (lead : UInt8) : UInt8 × UInt8 :=
  if lead = 0xE0 then (0xA0, 0xBF)
  else if lead = 0xED then (0x80, 0x9F)
  else if lead = 0xF0 then (0x90, 0xBF)
  else if lead = 0xF4 then (0x80, 0x8F)
  else (0x80, 0xBF)

/-- The bytes after a lead byte that can belong to its character. -/
def trail (lead : UInt8) (count : Nat) (rest : Bytes) : Bytes :=
  match count, rest with
  | 0, _ => []
  | _, [] => []
  | n + 1, b :: more =>
    let (low, high) := secondBounds lead
    if low ≤ b && b ≤ high then
      b :: (more.take n).takeWhile fun t => 0x80 ≤ t && t ≤ 0xBF
    else []

/-- The code point of a lead byte with its whole trail. -/
def codePoint (lead : UInt8) (tail : Bytes) : Nat :=
  let top :=
    match tail.length with
    | 0 => lead.toNat
    | 1 => lead.toNat % 0x20
    | 2 => lead.toNat % 0x10
    | _ => lead.toNat % 0x08
  tail.foldl (fun n b => n * 64 + b.toNat % 64) top

/-- One character of UTF-8. -/
def stepUtf8 (lead : UInt8) (rest : Bytes) : Step :=
  match trailCount lead with
  | none => .fault 1 .startByte
  | some n =>
    let tail := trail lead n rest
    if tail.length = n then .char (Char.ofNat (codePoint lead tail)) (1 + n)
    else if tail.length = rest.length then .fault (1 + tail.length) .endOfData
    else .fault (1 + tail.length) .continuationByte

/-- The number that bytes write in a byte order. -/
def unitValue (bigEndian : Bool) (bytes : Bytes) : Nat :=
  (if bigEndian then bytes else bytes.reverse).foldl (fun n b => n * 256 + b.toNat) 0

/-- The replacement character stands for what is no character. -/
def replacement : Char := '\uFFFD'

/-- The character of a code point, the replacement character for a surrogate. -/
def charOfPoint (n : Nat) : Char :=
  if 0xD800 ≤ n && n < 0xE000 then replacement else Char.ofNat n

/-- One character of UTF-16: a unit, or two that form a pair. -/
def stepUtf16 (bigEndian : Bool) (bytes : Bytes) : Step :=
  if bytes.length < 2 then .fault bytes.length .truncated
  else
    let unit := unitValue bigEndian (bytes.take 2)
    let next := unitValue bigEndian ((bytes.drop 2).take 2)
    if 0xD800 ≤ unit && unit < 0xDC00 && 4 ≤ bytes.length && 0xDC00 ≤ next && next < 0xE000 then
      .char (Char.ofNat (0x10000 + (unit - 0xD800) * 0x400 + (next - 0xDC00))) 4
    else .char (charOfPoint unit) 2

/-- One character of UTF-32. -/
def stepUtf32 (bigEndian : Bool) (bytes : Bytes) : Step :=
  if bytes.length < 4 then .fault bytes.length .truncated
  else
    let unit := unitValue bigEndian (bytes.take 4)
    if unit < 0x110000 then .char (charOfPoint unit) 4 else .fault 4 .range

/-- One character in an encoding, from a first byte and the bytes after it. -/
def step (e : Encoding) (first : UInt8) (rest : Bytes) : Step :=
  match e with
  | utf8 => stepUtf8 first rest
  | utf16 big => stepUtf16 big (first :: rest)
  | utf32 big => stepUtf32 big (first :: rest)

/-- The bytes still to read after some that were taken; at least one is taken. -/
def after (count : Nat) (rest : Bytes) : Bytes := rest.drop (count - 1)

theorem length_after_le (count : Nat) (rest : Bytes) : (after count rest).length ≤ rest.length := by
  simp [after]

/-- Read bytes from a position on, up to the first fault. -/
def decodeFrom (e : Encoding) (position : Nat) : Bytes → Except Fault (List Char)
  | [] => .ok []
  | first :: rest =>
    match e.step first rest with
    | .fault count reason => .error ⟨e, position, first, count, reason⟩
    | .char c count =>
      match decodeFrom e (position + count) (after count rest) with
      | .error f => .error f
      | .ok cs => .ok (c :: cs)
termination_by bytes => bytes.length
decreasing_by
  simp only [List.length_cons]
  have := length_after_le count rest
  omega

/-- Read bytes, with a replacement character for the bytes of each fault. -/
def decodeLenient (e : Encoding) : Bytes → List Char
  | [] => []
  | first :: rest =>
    match e.step first rest with
    | .fault count _ => replacement :: decodeLenient e (after count rest)
    | .char c count => c :: decodeLenient e (after count rest)
termination_by bytes => bytes.length
decreasing_by
  all_goals
    simp only [List.length_cons]
    have := length_after_le count rest
    omega

/-- The byte order marks with the encoding each tells. The longer marks come first, since one
begins with another. -/
def marks : List (Bytes × Encoding) :=
  [([0, 0, 0xFE, 0xFF], utf32 true), ([0xFF, 0xFE, 0, 0], utf32 false),
    ([0xFE, 0xFF], utf16 true), ([0xFF, 0xFE], utf16 false), ([0xEF, 0xBB, 0xBF], utf8)]

/-- The encoding of bytes without a byte order mark. The first character of a document is an ASCII
one, so zero bytes tell the width of a unit and the order of its bytes. -/
def ofZeros : Bytes → Encoding
  | [0, _] => utf16 true
  | [_, 0] => utf16 false
  | 0 :: b :: _ :: _ :: _ => if b = 0 then utf32 true else utf16 true
  | _ :: 0 :: b :: c :: _ => if b = 0 && c = 0 then utf32 false else utf16 false
  | _ => utf8

/-- Read the bytes of a document in the encoding they tell. Positions in UTF-8 count from after
the mark, those in the wider encodings from the first byte. -/
def decodeDocument (bytes : Bytes) : Except Fault (List Char) :=
  match marks.find? fun (mark, _) => mark.isPrefixOf bytes with
  | some (mark, utf8) => decodeFrom utf8 0 (bytes.drop mark.length)
  | some (mark, e) => decodeFrom e mark.length (bytes.drop mark.length)
  | none => decodeFrom (ofZeros bytes) 0 bytes

end Encoding

/-- The bytes of a text in UTF-8. -/
def toBytes (s : String) : Bytes := s.toUTF8.toList

end ConfigTemplate.Text
