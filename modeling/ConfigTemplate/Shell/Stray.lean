import ConfigTemplate.Text.Encoding

/-!
# Bytes that are no text

Programs read bytes as text, but they hand on bytes that are none as they are. Each of these bytes
is read as a character of its own, one of the last that there are. The bytes of such a character are
read one by one as well, so that no text stands for bytes other than its own.
-/

namespace ConfigTemplate.Shell.Stray

open Text (Bytes)

/-- The character that stands for a byte. -/
def charOf (b : UInt8) : Char := Char.ofNat (0x10FF00 + b.toNat)

/-- Whether a character stands for a byte. -/
def isStray (c : Char) : Bool := 0x10FF80 ≤ c.toNat

/-- The characters of bytes in UTF-8. -/
def decode : Bytes → List Char
  | [] => []
  | b :: rest =>
    match Text.Encoding.utf8.step b rest with
    | .fault _ _ => charOf b :: decode rest
    | .char c count =>
      if isStray c then charOf b :: decode rest
      else c :: decode (Text.Encoding.after count rest)
termination_by bytes => bytes.length
decreasing_by
  · simp
  · simp
  · simp only [List.length_cons]
    have := Text.Encoding.length_after_le count rest
    omega

/-- The bytes of a text. -/
def encode (text : String) : Bytes :=
  if text.any isStray then
    text.toList.flatMap fun c =>
      if isStray c then [UInt8.ofNat (c.toNat % 256)] else Text.toBytes (String.singleton c)
  else Text.toBytes text

end ConfigTemplate.Shell.Stray
