import ConfigTemplate.Shell.Programs.Differing.Changes

/-!
# Hunks

Changes as they are shown: runs of elements that go and come. A run is moved as far to the end as
the elements around it allow, and back to where elements of the other sequence change too.
-/

namespace ConfigTemplate.Shell.Programs.Differing

/-- Whether the element at a place changes; outside there is none that does. -/
def flagAt (flags : Array Bool) (n : Int) : Bool := 0 ≤ n && flags.getD n.toNat false

/-- The first place from one on whose element does not change. -/
def firstKept (flags : Array Bool) : Nat → Int → Int
  | 0, n => n
  | fuel + 1, n => if flagAt flags n then firstKept flags fuel (n + 1) else n

/-- The last place before one whose element does not change. -/
def lastKept (flags : Array Bool) : Nat → Int → Int
  | 0, n => n - 1
  | fuel + 1, n => if flagAt flags (n - 1) then lastKept flags fuel (n - 1) else n - 1

/-- A run of changes that is moved: what changes in its sequence, where it begins and ends, the
place in the other sequence, and where the run ends at which elements there change too. -/
structure Moving where
  flags : Array Bool
  start : Int
  stop : Int
  other : Int
  match_ : Int

/-- The sequences between which a run is moved: the elements of its own, and what changes in the
other one. -/
structure Ground where
  ids : Array Nat
  other : Array Bool

namespace Ground

/-- A bound for moves. -/
def fuel (g : Ground) : Nat := g.ids.size + g.other.size + 2

/-- Whether two elements are equal. -/
def same (g : Ground) (x y : Int) : Bool := g.ids[x.toNat]? = g.ids[y.toNat]?

/-- Set whether the element at a place changes. -/
def put (flags : Array Bool) (n : Int) (b : Bool) : Array Bool := flags.setIfInBounds n.toNat b

/-- Move a run back by one element. -/
def stepBack (g : Ground) (m : Moving) : Moving :=
  { m with
    flags := put (put m.flags (m.start - 1) true) (m.stop - 1) false
    start := m.start - 1
    stop := m.stop - 1
    other := lastKept g.other g.fuel m.other }

/-- Move a run back as far as possible. It grows by runs before it. -/
def back (g : Ground) : Nat → Moving → Moving
  | 0, m => m
  | fuel + 1, m =>
    if 0 < m.start && g.same (m.start - 1) (m.stop - 1) then
      let m := g.stepBack m
      g.back fuel { m with start := lastKept m.flags g.fuel m.start + 1 }
    else m

/-- The place in the other sequence after those that change there. -/
def follow (g : Ground) : Nat → Moving → Moving
  | 0, m => m
  | fuel + 1, m =>
    let m := { m with other := m.other + 1 }
    if flagAt g.other m.other then g.follow fuel { m with match_ := m.stop } else m

/-- Move a run on as far as possible. It grows by runs after it. -/
def ahead (g : Ground) : Nat → Moving → Moving
  | 0, m => m
  | fuel + 1, m =>
    if m.stop ≠ g.ids.size && g.same m.start m.stop then
      let flags := put (put m.flags m.start false) m.stop true
      let m := { m with
        flags := flags, start := m.start + 1, stop := firstKept flags g.fuel (m.stop + 1) }
      g.ahead fuel (g.follow g.fuel m)
    else m

/-- Move a run back and on until it does not grow any more. -/
def settle (g : Ground) : Nat → Moving → Moving
  | 0, m => m
  | fuel + 1, m =>
    let length := m.stop - m.start
    let m := g.back g.fuel m
    let m := { m with match_ := if flagAt g.other (m.other - 1) then m.stop else g.ids.size }
    let m := g.ahead g.fuel m
    if m.stop - m.start = length then m else g.settle fuel m

/-- Move a run back to where it ends at elements of the other sequence that change. -/
def meet (g : Ground) : Nat → Moving → Moving
  | 0, m => m
  | fuel + 1, m => if m.match_ < m.stop then g.meet fuel (g.stepBack m) else m

/-- Move all runs from a place on, with its place in the other sequence. -/
def moveAll (g : Ground) : Nat → Array Bool → Int → Int → Array Bool
  | 0, flags, _, _ => flags
  | fuel + 1, flags, n, other =>
    if g.ids.size ≤ n then flags
    else if flagAt flags n then
      let stop := firstKept flags g.fuel n
      let other := firstKept g.other g.fuel other
      let m := g.settle g.fuel ⟨flags, n, stop, other, g.ids.size⟩
      let m := g.meet g.fuel m
      g.moveAll fuel m.flags m.stop m.other
    else g.moveAll fuel flags (n + 1) (firstKept g.other g.fuel other + 1)

end Ground

/-- Changes whose runs are where they are shown. -/
def Changes.moved (p : Pair) (c : Changes) : Changes :=
  let fuel := p.old.size + p.new.size + 2
  let old := Ground.moveAll ⟨p.old, c.new⟩ fuel c.old 0 0
  { old := old, new := Ground.moveAll ⟨p.new, old⟩ fuel c.new 0 0 }

/-- The places of the elements that occur in another sequence. -/
def shared (elements others : Array Nat) : List Nat :=
  (List.range elements.size).filter fun n => others.contains (elements.getD n 0)

/-- The changes between two sequences. Elements that the other sequence does not have change
anyhow; only those that are left are compared. -/
def changesOf (p : Pair) : Changes :=
  let olds := shared p.old p.new
  let news := shared p.new p.old
  let inner : Pair :=
    ⟨(olds.map fun n => p.old.getD n 0).toArray, (news.map fun n => p.new.getD n 0).toArray⟩
  let none_ : Changes := ⟨.replicate olds.length false, .replicate news.length false⟩
  let found := compareIn inner (olds.length + news.length + 2)
    ⟨0, olds.length, 0, news.length⟩ none_
  let spread (size : Nat) (places : List Nat) (flags : Array Bool) : Array Bool :=
    places.zipIdx.foldl (fun all (place, n) => all.setIfInBounds place (flags.getD n false))
      (.replicate size true)
  Changes.moved p ⟨spread p.old.size olds found.old, spread p.new.size news found.new⟩

/-- A run of elements that go and of elements that come in their place. -/
structure Hunk where
  oldStart : Nat
  oldStop : Nat
  newStart : Nat
  newStop : Nat

/-- The hunks of changes from two places on. -/
def hunksFrom (c : Changes) : Nat → Nat → Nat → List Hunk
  | 0, _, _ => []
  | fuel + 1, x, y =>
    if c.old.size ≤ x && c.new.size ≤ y then []
    else
      let oldStop := (firstKept c.old (c.old.size + 1) x).toNat
      let newStop := (firstKept c.new (c.new.size + 1) y).toNat
      if oldStop = x && newStop = y then hunksFrom c fuel (x + 1) (y + 1)
      else ⟨x, oldStop, y, newStop⟩ :: hunksFrom c fuel oldStop newStop

/-- The hunks between two sequences. -/
def hunksOf (p : Pair) : List Hunk :=
  hunksFrom (changesOf p) (p.old.size + p.new.size + 2) 0 0

end ConfigTemplate.Shell.Programs.Differing
