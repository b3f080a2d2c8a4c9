import ConfigTemplate.Shell.Glob
import ConfigTemplate.Shell.Stray
import ConfigTemplate.Text.Lowercase

/-!
# Regular expressions

Expressions that texts match, with groups that later parts may refer to. A match begins as early as
possible and is then as long as possible; among matches of that length, the parts of the expression
are as long as possible one after the other.
-/

namespace ConfigTemplate.Shell

/-- A regular expression. -/
inductive Regular where
  /-- The empty text. -/
  | empty
  /-- A character. -/
  | one (c : Char)
  /-- Any character. -/
  | any
  /-- A character that belongs to a set, or does not. -/
  | set (negated : Bool) (members : List Member)
  /-- The front of the text. -/
  | front
  /-- The end of the text. -/
  | back
  /-- The front or the end of a line. -/
  | lineFront
  | lineBack
  /-- A place where a word begins, where one ends, and where neither is the case. -/
  | wordFront
  | wordBack
  | wordEdge
  | wordInside
  /-- A part that is remembered by its number. -/
  | group (number : Nat) (inner : Regular)
  /-- What a part of that number matched. -/
  | again (number : Nat)
  | seq (first second : Regular)
  | either (first second : Regular)
  /-- A part that is repeated within limits. -/
  | loop (least : Nat) (most : Option Nat) (inner : Regular)
  deriving Repr

namespace Regular

/-- A text in which matches are looked for. -/
structure Subject where
  chars : Array Char
  ignoresCase : Bool
  /-- Whether the text begins at the front of what there is. -/
  isWhole : Bool

/-- How far a match has come, and where the groups lie. -/
structure Spot where
  place : Nat
  groups : List (Nat × Nat × Nat)
  deriving DecidableEq

/-- Whether a character belongs to a word. -/
def isWordChar (c : Char) : Bool :=
  c.isAlphanum || c = '_' || (128 ≤ c.toNat && !Stray.isStray c)

/-- Whether two characters count as the same. -/
def Subject.alike (x : Subject) (a b : Char) : Bool :=
  a = b || (x.ignoresCase && Text.lowerChar a = Text.lowerChar b)

/-- Whether a character belongs to a set. -/
def Subject.belongs (x : Subject) (members : List Member) (c : Char) : Bool :=
  members.any fun m =>
    m.holds c || (x.ignoresCase && (m.holds (Text.lowerChar c) || m.holds c.toUpper))

/-- Whether there is a part of a word before a place, and after it. -/
def Subject.wordBefore (x : Subject) (place : Nat) : Bool :=
  place ≠ 0 && (x.chars[place - 1]?).any isWordChar

/-- Whether a part of a word follows at a place. -/
def Subject.wordAfter (x : Subject) (place : Nat) : Bool := (x.chars[place]?).any isWordChar

/-- Put a spot into a list that goes from the longest to the shortest, behind those of its
length. Of spots at one place the first is kept, unless groups are told apart. -/
def insert (exact : Bool) (spot : Spot) : List Spot → List Spot
  | [] => [spot]
  | other :: rest =>
    if other.place < spot.place then spot :: other :: rest
    else if spot = other || (!exact && spot.place = other.place) then other :: rest
    else other :: insert exact spot rest

/-- Spots from the longest to the shortest. -/
def ordered (exact : Bool) (spots : List Spot) : List Spot :=
  spots.foldl (fun all spot => insert exact spot all) []

/-- The spots after so many rounds. -/
def rounds (exact : Bool) (step : Spot → List Spot) : Nat → List Spot → List Spot
  | 0, spots => spots
  | count + 1, spots => rounds exact step count (ordered exact (spots.flatMap step))

/-- The spots after up to so many rounds. -/
def optional (exact : Bool) (step : Spot → List Spot) : Nat → List Spot → List Spot
  | 0, spots => spots
  | count + 1, spots =>
    let next := ordered exact (spots.flatMap step)
    let further := next.filter fun spot => !spots.contains spot
    if further.isEmpty then spots
    else ordered exact (optional exact step count further ++ spots)

/-- The spots after any number of rounds, each of which goes further. What is to be looked at comes
in an order in which the longest round is tried first; what has been seen lies before `far`, the
latest first. -/
def closure (exact : Bool) (step : Spot → List Spot) :
    Nat → Nat → List Spot → List Spot → List Spot
  | 0, _, _, seen => seen
  | _ + 1, _, [], seen => seen
  | fuel + 1, far, spot :: more, seen =>
    let known := spot.place < far &&
      seen.any fun other => spot = other || (!exact && spot.place = other.place)
    if known then closure exact step fuel far more seen
    else
      let next := (step spot).filter fun other => spot.place < other.place
      closure exact step fuel (max far (spot.place + 1)) (next ++ more) (spot :: seen)

/-- Whether the characters from one place on are those from another one on. -/
def Subject.repeats (x : Subject) (start place : Nat) : Nat → Bool
  | 0 => true
  | count + 1 =>
    match x.chars[start]?, x.chars[place]? with
    | some a, some b => x.alike a b && x.repeats (start + 1) (place + 1) count
    | _, _ => false

/-- Where a match may end that goes on from a spot, the longest first. -/
def ends (x : Subject) (exact : Bool) : Regular → Spot → List Spot
  | .empty, spot => [spot]
  | .one c, spot =>
    match x.chars[spot.place]? with
    | some d => if x.alike c d then [{ spot with place := spot.place + 1 }] else []
    | none => []
  | .any, spot =>
    match x.chars[spot.place]? with
    | some d => if Stray.isStray d then [] else [{ spot with place := spot.place + 1 }]
    | none => []
  | .set negated members, spot =>
    match x.chars[spot.place]? with
    | some d =>
      if !Stray.isStray d && x.belongs members d != negated then
        [{ spot with place := spot.place + 1 }]
      else []
    | none => []
  | .front, spot => if spot.place = 0 && x.isWhole then [spot] else []
  | .back, spot => if spot.place = x.chars.size then [spot] else []
  | .lineFront, spot =>
    let follows := spot.place ≠ 0 && x.chars[spot.place - 1]? = some '\n'
    if (spot.place = 0 && x.isWhole) || follows then [spot] else []
  | .lineBack, spot =>
    if spot.place = x.chars.size || x.chars[spot.place]? = some '\n' then [spot] else []
  | .wordFront, spot =>
    if !x.wordBefore spot.place && x.wordAfter spot.place then [spot] else []
  | .wordBack, spot =>
    if x.wordBefore spot.place && !x.wordAfter spot.place then [spot] else []
  | .wordEdge, spot =>
    if x.wordBefore spot.place != x.wordAfter spot.place then [spot] else []
  | .wordInside, spot =>
    if x.wordBefore spot.place = x.wordAfter spot.place then [spot] else []
  | .group number inner, spot =>
    (ends x exact inner spot).map fun after =>
      { after with groups := (number, spot.place, after.place) ::
          after.groups.filter (·.1 != number) }
  | .again number, spot =>
    match spot.groups.find? (·.1 = number) with
    | some (_, start, stop) =>
      let place := spot.place + (stop - start)
      if x.repeats start spot.place (stop - start) then [{ spot with place := place }] else []
    | none => []
  | .seq first second, spot =>
    ordered exact ((ends x exact first spot).flatMap fun after => ends x exact second after)
  | .either first second, spot =>
    ordered exact (ends x exact first spot ++ ends x exact second spot)
  | .loop least most inner, spot =>
    let step := ends x exact inner
    let front := rounds exact step least [spot]
    match most with
    | some most => optional exact step (most - least) front
    | none =>
      let fuel := (x.chars.size + 2) * (x.chars.size + 2)
      ordered exact (closure exact step fuel 0 front []).reverse

/-- Whether an expression refers to groups. -/
def refers : Regular → Bool
  | .again _ => true
  | .group _ inner | .loop _ _ inner => refers inner
  | .seq first second | .either first second => refers first || refers second
  | _ => false

/-- The number of the last group. -/
def groupCount : Regular → Nat
  | .group number inner => max number (groupCount inner)
  | .loop _ _ inner => groupCount inner
  | .seq first second | .either first second => max (groupCount first) (groupCount second)
  | _ => 0

/-- A match: where it lies, and where its groups lie. -/
structure Match where
  start : Nat
  stop : Nat
  groups : List (Nat × Nat × Nat)

/-- The match that begins at a place. -/
def matchAt? (x : Subject) (r : Regular) (place : Nat) : Option Match :=
  (ends x r.refers r ⟨place, []⟩).head?.map fun spot => ⟨place, spot.place, spot.groups⟩

/-- The first match from a place on. -/
def find? (x : Subject) (r : Regular) (place : Nat) : Option Match :=
  (List.range' place (x.chars.size + 1 - place)).findSome? fun place => matchAt? x r place

/-- The text of a part of a subject. -/
def Subject.part (x : Subject) (start stop : Nat) : List Char := (x.chars.extract start stop).toList

/-- What a group of a match holds; the match itself has the number zero. -/
def Match.group? (m : Match) (number : Nat) : Option (Nat × Nat) :=
  if number = 0 then some (m.start, m.stop)
  else (m.groups.find? (·.1 = number)).map (·.2)

end Regular

end ConfigTemplate.Shell
