/-!
# Changes between sequences

Which elements of two sequences have to go and to come so that the one becomes the other: as few as
possible. Ways are followed from both ends, a further change at a time, until two of them meet; then
the parts before and after that place are compared in the same way.
-/

namespace ConfigTemplate.Shell.Programs.Differing

/-- Two sequences, of whose elements only equality matters. -/
structure Pair where
  old : Array Nat
  new : Array Nat

/-- A part of both sequences. -/
structure Box where
  left : Nat
  right : Nat
  top : Nat
  bottom : Nat

namespace Pair

/-- Whether the elements at two places are equal. -/
def same (p : Pair) (x y : Int) : Bool :=
  0 ≤ x && 0 ≤ y && p.old[x.toNat]? = p.new[y.toNat]? && x < p.old.size

/-- How many equal elements follow from two places on. -/
def run (p : Pair) (b : Box) : Nat → Int → Int → Int
  | 0, x, _ => x
  | fuel + 1, x, y =>
    if x < b.right && y < b.bottom && p.same x y then p.run b fuel (x + 1) (y + 1) else x

/-- How far equal elements go back from two places on. -/
def runBack (p : Pair) (b : Box) : Nat → Int → Int → Int
  | 0, x, _ => x
  | fuel + 1, x, y =>
    if b.left < x && b.top < y && p.same (x - 1) (y - 1) then p.runBack b fuel (x - 1) (y - 1)
    else x

end Pair

/-- How far ways have come on each diagonal, and the diagonals on which there are any. -/
structure Front where
  low : Int
  high : Int
  reach : List (Int × Int)

/-- How far a way has come on a diagonal. -/
def Front.at (f : Front) (diagonal otherwise : Int) : Int :=
  ((f.reach.find? (·.1 = diagonal)).map (·.2)).getD otherwise

/-- The diagonals from a high one down, two at a time. -/
def downward : Nat → Int → Int → List Int
  | 0, _, _ => []
  | fuel + 1, high, low => if high < low then [] else high :: downward fuel (high - 2) low

/-- A further change on the ways from the front; the place comes back at which one of them meets
one from the end, where `other` has come. -/
def forward (p : Pair) (b : Box) (odd : Bool) (f other : Front) : Front × Option (Int × Int) :=
  let least := (b.left : Int) - b.bottom
  let most := (b.right : Int) - b.top
  let low := if least < f.low then f.low - 1 else f.low + 1
  let high := if f.high < most then f.high + 1 else f.high - 1
  let size := (b.right - b.left) + (b.bottom - b.top) + 2
  (downward size high low).foldl (fun (next, met) d =>
    if met.isSome then (next, met)
    else
      let below := f.at (d - 1) (-1)
      let above := f.at (d + 1) (-1)
      let x := if below < above then above else below + 1
      let x := p.run b size x (x - d)
      let next : Front := { next with reach := (d, x) :: next.reach }
      let meets := odd && other.low ≤ d && d ≤ other.high && other.at d x ≤ x
      (next, if meets then some (x, x - d) else none))
    ({ f with low := low, high := high, reach := [] }, none)
  |> fun (next, met) =>
    ({ next with reach := next.reach ++ f.reach }, met)

/-- A further change on the ways from the end; the place comes back at which one of them meets one
from the front, where `other` has come. -/
def backward (p : Pair) (b : Box) (odd : Bool) (f other : Front) : Front × Option (Int × Int) :=
  let least := (b.left : Int) - b.bottom
  let most := (b.right : Int) - b.top
  let low := if least < f.low then f.low - 1 else f.low + 1
  let high := if f.high < most then f.high + 1 else f.high - 1
  let size := (b.right - b.left) + (b.bottom - b.top) + 2
  let far : Int := b.right + b.bottom + 2
  (downward size high low).foldl (fun (next, met) d =>
    if met.isSome then (next, met)
    else
      let below := f.at (d - 1) far
      let above := f.at (d + 1) far
      let x := if below < above then below else above - 1
      let x := p.runBack b size x (x - d)
      let next : Front := { next with reach := (d, x) :: next.reach }
      let meets := !odd && other.low ≤ d && d ≤ other.high && x ≤ other.at d x
      (next, if meets then some (x, x - d) else none))
    ({ f with low := low, high := high, reach := [] }, none)
  |> fun (next, met) =>
    ({ next with reach := next.reach ++ f.reach }, met)

/-- A place at which a shortest way from the front and one from the end meet. -/
def meeting? (p : Pair) (b : Box) (odd : Bool) : Nat → Front → Front → Option (Int × Int)
  | 0, _, _ => none
  | fuel + 1, f, g =>
    match forward p b odd f g with
    | (_, some met) => some met
    | (f, none) =>
      match backward p b odd g f with
      | (_, some met) => some met
      | (g, none) => meeting? p b odd fuel f g

/-- Which elements of two sequences change. -/
structure Changes where
  old : Array Bool
  new : Array Bool

/-- Mark the elements between two places. -/
def marked (flags : Array Bool) (start stop : Nat) : Array Bool :=
  (List.range' start (stop - start)).foldl (fun flags n => flags.setIfInBounds n true) flags

/-- A part without the equal elements at its front and its end. -/
def trimmed (p : Pair) (b : Box) : Box :=
  let size := b.right - b.left
  let left := (p.run b size b.left b.top).toNat
  let top := b.top + (left - b.left)
  let b := { b with left := left, top := top }
  let right := (p.runBack b size b.right b.bottom).toNat
  { b with right := right, bottom := b.bottom - (b.right - right) }

/-- Mark what changes in a part of both sequences. -/
def compareIn (p : Pair) : Nat → Box → Changes → Changes
  | 0, _, changes => changes
  | fuel + 1, b, changes =>
    let b := trimmed p b
    if b.left = b.right then { changes with new := marked changes.new b.top b.bottom }
    else if b.top = b.bottom then { changes with old := marked changes.old b.left b.right }
    else
      let first := (b.left : Int) - b.top
      let last := (b.right : Int) - b.bottom
      let odd := (first - last) % 2 ≠ 0
      let size := (b.right - b.left) + (b.bottom - b.top) + 2
      let fromFront : Front := ⟨first, first, [(first, b.left)]⟩
      let fromEnd : Front := ⟨last, last, [(last, b.right)]⟩
      match meeting? p b odd size fromFront fromEnd with
      | none =>
        { old := marked changes.old b.left b.right, new := marked changes.new b.top b.bottom }
      | some (x, y) =>
        let changes := compareIn p fuel { b with right := x.toNat, bottom := y.toNat } changes
        compareIn p fuel { b with left := x.toNat, top := y.toNat } changes

end ConfigTemplate.Shell.Programs.Differing
