import ConfigTemplate.Text.Encoding

/-!
# Digests

Numbers of a fixed length that tell texts apart. A text is padded to whole blocks, its length is put
behind it, and each block changes a state of words in many rounds. The constants of the rounds are
parts of roots of the first primes, or of sines.
-/

namespace ConfigTemplate.Shell.Digest

open Text (Bytes)

/-- The first primes. -/
def primes (count : Nat) : List Nat :=
  ((List.range 420).filter fun n =>
    2 ≤ n && (List.range n).all fun d => d < 2 || n % d ≠ 0).take count

/-- The greatest number whose power is not above another one, from some bit on. -/
def root (power n : Nat) : Nat → Nat → Nat
  | 0, found => found
  | bit + 1, found =>
    let next := found + Nat.pow 2 bit
    root power n bit (if next.pow power ≤ n then next else found)

/-- The bits behind the point of the root of a prime. -/
def rootBits (power bits prime : Nat) : Nat :=
  root power (prime * Nat.pow 2 (power * bits)) (bits + 9) 0 % Nat.pow 2 bits

example : rootBits 2 32 2 = 0x6a09e667 := by decide +kernel

/-- A word turned to the right. -/
def turned (width count x : Nat) : Nat := 
  (x >>> count ||| x <<< (width - count)) % Nat.pow 2 width

/-- A word with all its bits changed. -/
def flipped (width x : Nat) : Nat := x ^^^ (Nat.pow 2 width - 1)

/-- The number that bytes write, the highest byte first. -/
def ofBigEnd (bytes : Bytes) : Nat := bytes.foldl (fun n b => n * 256 + b.toNat) 0

/-- A number as so many bytes, the highest one first. -/
def toBigEnd (count n : Nat) : Bytes :=
  (List.range count).reverse.map fun place => UInt8.ofNat (n >>> (8 * place) % 256)

/-- A text padded to whole blocks: a one and zeros follow it, and then its length in bits. -/
def padded (block lengthSize : Nat) (bigEnd : Bool) (text : Bytes) : Bytes :=
  let used := text.length + 1 + lengthSize
  let zeros := (block - used % block) % block
  let length := toBigEnd lengthSize (8 * text.length)
  text ++ 0x80 :: List.replicate zeros 0 ++ (if bigEnd then length else length.reverse)

/-- The parts of so many bytes. -/
def blocksOf (size : Nat) : Nat → Bytes → List Bytes
  | 0, _ => []
  | fuel + 1, text =>
    if text.isEmpty then [] else text.take size :: blocksOf size fuel (text.drop size)

/-- The blocks of a padded text. -/
def blocks (size : Nat) (text : Bytes) : List Bytes := blocksOf size (text.length + 1) text

/-- How the digests of one family work: the width of words, the number of rounds, and by how much
words are turned. -/
structure Family where
  width : Nat
  rounds : Nat
  scheduled : (Nat × Nat × Nat) × (Nat × Nat × Nat)
  mixed : (Nat × Nat × Nat) × (Nat × Nat × Nat)

/-- The family with words of 32 bits. -/
def Family.narrow : Family := ⟨32, 64, ((7, 18, 3), (17, 19, 10)), ((2, 13, 22), (6, 11, 25))⟩

/-- The family with words of 64 bits. -/
def Family.wide : Family := ⟨64, 80, ((1, 8, 7), (19, 61, 6)), ((28, 34, 39), (14, 18, 41))⟩

namespace Family

/-- The sum of words. -/
def sum (f : Family) (words : List Nat) : Nat := 
  words.foldl (· + ·) 0 % Nat.pow 2 f.width

/-- Three turned words together. -/
def threeTurns (f : Family) (counts : Nat × Nat × Nat) (x : Nat) : Nat :=
  turned f.width counts.1 x ^^^ turned f.width counts.2.1 x ^^^ turned f.width counts.2.2 x

/-- Two turned words and a shifted one together. -/
def twoTurns (f : Family) (counts : Nat × Nat × Nat) (x : Nat) : Nat :=
  turned f.width counts.1 x ^^^ turned f.width counts.2.1 x ^^^ x >>> counts.2.2

/-- The words of a block, and those that follow from them. -/
def schedule (f : Family) (block : Bytes) : Array Nat :=
  let first := ((blocks (f.width / 8) block).map ofBigEnd).toArray
  (List.range (f.rounds - 16)).foldl (fun words n =>
    let at_ (back : Nat) : Nat := words.getD (n + 16 - back) 0
    words.push (f.sum [at_ 16, f.twoTurns f.scheduled.1 (at_ 15), at_ 7,
      f.twoTurns f.scheduled.2 (at_ 2)])) first

/-- The state after a round. -/
def round (f : Family) (constant word : Nat) (state : List Nat) : List Nat :=
  match state with
  | [a, b, c, d, e, g, h, i] =>
    let chosen := (e &&& g) ^^^ (flipped f.width e &&& h)
    let first := f.sum [i, f.threeTurns f.mixed.2 e, chosen, constant, word]
    let majority := (a &&& b) ^^^ (a &&& c) ^^^ (b &&& c)
    let second := f.sum [f.threeTurns f.mixed.1 a, majority]
    [f.sum [first, second], a, b, c, f.sum [d, first], e, g, h]
  | state => state

/-- The state after a block. -/
def compress (f : Family) (constants : List Nat) (state : List Nat) (block : Bytes) : List Nat :=
  let words := f.schedule block
  let after := (constants.zip words.toList).foldl (fun state (constant, word) =>
    f.round constant word state) state
  (state.zip after).map fun (x, y) => f.sum [x, y]

/-- The digest of a text from a first state on, as so many bytes. -/
def digest (f : Family) (start : List Nat) (size : Nat) (text : Bytes) : Bytes :=
  let constants := (primes f.rounds).map (rootBits 3 f.width)
  let block := 2 * f.width
  let whole := padded block (f.width / 4) true text
  let state := (blocks block whole).foldl (f.compress constants) start
  (state.flatMap (toBigEnd (f.width / 8))).take size

/-- The state that square roots of the first primes give. -/
def firstState (f : Family) : List Nat := (primes 8).map (rootBits 2 f.width)

end Family

/-- The digest of 256 bits. -/
def sha256 : Bytes → Bytes := Family.narrow.digest Family.narrow.firstState 32

/-- The digest of 224 bits. -/
def sha224 : Bytes → Bytes :=
  Family.narrow.digest (((primes 16).drop 8).map fun p => rootBits 2 64 p % Nat.pow 2 32) 28

/-- The digest of 512 bits. -/
def sha512 : Bytes → Bytes := Family.wide.digest Family.wide.firstState 64

/-- The digest of 384 bits. -/
def sha384 : Bytes → Bytes :=
  Family.wide.digest (((primes 16).drop 8).map (rootBits 2 64)) 48

/-- The sum of words of 32 bits. -/
def sum32 (words : List Nat) : Nat := words.foldl (· + ·) 0 % Nat.pow 2 32

/-- A word of 32 bits turned to the left. -/
def turnedLeft (count x : Nat) : Nat := turned 32 (32 - count) x

/-- The words from which the older digests begin. -/
def oldStart : List Nat := [0x67452301, 0xefcdab89, 0x98badcfe, 0x10325476]

/-- The state after a block of the digest of 160 bits. -/
def compress160 (state : List Nat) (block : Bytes) : List Nat :=
  let first := ((blocks 4 block).map ofBigEnd).toArray
  let words := (List.range 64).foldl (fun words n =>
    let at_ (back : Nat) : Nat := words.getD (n + 16 - back) 0
    words.push (turnedLeft 1 (at_ 3 ^^^ at_ 8 ^^^ at_ 14 ^^^ at_ 16))) first
  let after := words.toList.zipIdx.foldl (fun state (word, n) =>
    match state with
    | [a, b, c, d, e] =>
      let (mixed, constant) : Nat × Nat :=
        if n < 20 then ((b &&& c) ||| (flipped 32 b &&& d), 0x5a827999)
        else if n < 40 then (b ^^^ c ^^^ d, 0x6ed9eba1)
        else if n < 60 then ((b &&& c) ||| (b &&& d) ||| (c &&& d), 0x8f1bbcdc)
        else (b ^^^ c ^^^ d, 0xca62c1d6)
      [sum32 [turnedLeft 5 a, mixed, e, word, constant], a, turnedLeft 30 b, c, d]
    | state => state) state
  (state.zip after).map fun (x, y) => sum32 [x, y]

/-- The digest of 160 bits. -/
def sha1 (text : Bytes) : Bytes :=
  let state := (blocks 64 (padded 64 8 true text)).foldl compress160 (oldStart ++ [0xc3d2e1f0])
  state.flatMap (toBigEnd 4)

/-- By how much words are turned in the rounds of the digest of 128 bits. -/
def turns128 (n : Nat) : Nat :=
  let quarters : List (List Nat) :=
    [[7, 12, 17, 22], [5, 9, 14, 20], [4, 11, 16, 23], [6, 10, 15, 21]]
  (quarters.getD (n / 16) []).getD (n % 4) 0

/-- The constants of the digest of 128 bits. -/
def constant128 (n : Nat) : Nat :=
  ((Float.sin (Float.ofNat (n + 1))).abs * 4294967296.0).toUInt64.toNat

/-- The state after a block of the digest of 128 bits. -/
def compress128 (state : List Nat) (block : Bytes) : List Nat :=
  let words := ((blocks 4 block).map fun bytes => ofBigEnd bytes.reverse).toArray
  let after := (List.range 64).foldl (fun state n =>
    match state with
    | [a, b, c, d] =>
      let (mixed, index) : Nat × Nat :=
        if n < 16 then ((b &&& c) ||| (flipped 32 b &&& d), n)
        else if n < 32 then ((d &&& b) ||| (flipped 32 d &&& c), (5 * n + 1) % 16)
        else if n < 48 then (b ^^^ c ^^^ d, (3 * n + 5) % 16)
        else (c ^^^ (b ||| flipped 32 d), 7 * n % 16)
      let sum := sum32 [a, mixed, constant128 n, words.getD index 0]
      [d, sum32 [b, turnedLeft (turns128 n) sum], b, c]
    | state => state) state
  (state.zip after).map fun (x, y) => sum32 [x, y]

/-- The digest of 128 bits. -/
def md5 (text : Bytes) : Bytes :=
  let state := (blocks 64 (padded 64 8 false text)).foldl compress128 oldStart
  state.flatMap fun word => (toBigEnd 4 word).reverse

/-- A remainder after eight more bits, by the polynomial of the checksum. -/
def remainderStep (remainder : Nat) (b : UInt8) : Nat :=
  (List.range 8).foldl (fun r _ =>
    let shifted := r <<< 1
    if r &&& 0x80000000 ≠ 0 then (shifted ^^^ 0x04c11db7) &&& 0xffffffff
    else shifted &&& 0xffffffff) (remainder ^^^ (b.toNat <<< 24))

/-- The bytes of a length, the lowest one first, without zeros at the end. -/
def lengthBytes : Nat → Nat → Bytes
  | 0, _ => []
  | fuel + 1, n => if n = 0 then [] else UInt8.ofNat (n % 256) :: lengthBytes fuel (n / 256)

/-- The checksum of a text and of its length. -/
def checksum (text : Bytes) : Nat :=
  flipped 32 ((text ++ lengthBytes 16 text.length).foldl remainderStep 0)

/-- The sum of a text that is turned with each byte. -/
def turningSum (text : Bytes) : Nat :=
  text.foldl (fun sum b => ((sum >>> 1) + (sum &&& 1) * 0x8000 + b.toNat) % 65536) 0

/-- The plain sum of the bytes of a text, with its overflow. -/
def plainSum (text : Bytes) : Nat :=
  let sum := text.foldl (fun sum b => sum + b.toNat) 0 % Nat.pow 2 32
  let folded := sum % 65536 + sum / 65536
  folded % 65536 + folded / 65536

end ConfigTemplate.Shell.Digest
