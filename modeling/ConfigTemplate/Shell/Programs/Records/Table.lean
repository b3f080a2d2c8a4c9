import ConfigTemplate.Shell.Programs.Records.Value
import Std.Data.HashMap

/-!
# The tables of records

A table holds values under keys, which are texts. The order in which it tells its keys comes from
lists to which sums over the keys assign them; in each list a key comes first that was looked up
last. Whole numbers have lists of their own as long as no key is asked for by its text, and the
parts of a text that was split need no lists at all.
-/

namespace ConfigTemplate.Shell.Programs.Records

open Text (Bytes)
open Run (bytesOf textOf)

/-- A key as it is asked for. -/
inductive Key where
  | whole (n : Int)
  | text (text : Bytes)

/-- The text of a key. -/
def Key.toText : Key → Bytes
  | .whole n => bytesOf (toString n)
  | .text t => t

/-- The sum over a text that assigns it to a list. -/
def sumOf (text : Bytes) : Nat :=
  (text.foldl (fun h b => (h ^^^ b.toUInt32) * 16777619) (2166136261 : UInt32)).toNat

/-- A table. -/
structure Table where
  values : Std.HashMap Bytes Value
  /-- The number of parts, as long as the table has no lists. -/
  parts : Option Nat
  /-- Whether all keys are in the lists of texts. -/
  isByText : Bool
  byNumber : Array (List Int)
  byText : Array (List Bytes)

namespace Table

/-- The number of lists that a table begins with. -/
def firstCount : Nat := 64

/-- The number of keys for each list beyond which there are more lists. -/
def crowd : Nat := 12

/-- A table without keys. -/
def empty : Table where
  values := ∅
  parts := none
  isByText := false
  byNumber := .replicate firstCount []
  byText := .replicate firstCount []

/-- The number of keys. -/
def size (t : Table) : Nat := t.values.size

/-- The table of the parts of a text. -/
def ofParts (parts : List Value) : Table :=
  { empty with
    values := .ofList (parts.zipIdx.map fun (part, n) => (bytesOf (toString (n + 1)), part))
    parts := some parts.length }

/-- The number of lists for so many keys. -/
def listCount (size : Nat) : Nat → Nat → Nat
  | 0, count => count
  | fuel + 1, count => if count * crowd < size then listCount size fuel (2 * count) else count

/-- A table whose parts are in lists of numbers. -/
def listed (t : Table) : Table :=
  match t.parts with
  | none => t
  | some parts =>
    let count := listCount parts 32 firstCount
    let lists := (List.range parts).foldl (fun lists n =>
      lists.modify ((n + 1) % count) (((n + 1 : Nat) : Int) :: ·)) (.replicate count [])
    { t with parts := none, byNumber := lists, byText := .replicate count [] }

/-- The list of a number. -/
def numberList (t : Table) (n : Int) : Nat := (n % t.byNumber.size).toNat

/-- The list of a text. -/
def textList (t : Table) (text : Bytes) : Nat := sumOf text % t.byText.size

/-- A table all of whose keys are in lists of texts. -/
def textual (t : Table) : Table :=
  let t := t.listed
  if t.isByText then t
  else
    let lists := t.byNumber.toList.flatten.foldl (fun lists n =>
      let text := bytesOf (toString n)
      lists.modify (sumOf text % lists.size) (text :: ·)) t.byText
    { t with isByText := true, byText := lists }

/-- Lists twice as many. Each list is divided by `place`, and the order in it stays. -/
def doubled {α : Type} (place : α → Nat) (lists : Array (List α)) : Array (List α) :=
  let count := 2 * lists.size
  .ofFn fun i : Fin count =>
    (lists.getD (i % lists.size) []).filter fun key => place key % count = i

/-- A table with more lists if its keys are too many for those that it has. -/
def spread (t : Table) : Table :=
  if t.byText.size * crowd < t.size then
    { t with
      byNumber := doubled (fun n => (n % (2 * t.byNumber.size)).toNat) t.byNumber
      byText := doubled sumOf t.byText }
  else t

/-- Put an element first in a list, where it may be. -/
def first {α : Type} [DecidableEq α] (element : α) (list : List α) : List α :=
  if list.head? = some element then list else element :: list.filter (· ≠ element)

/-- Look a text up among the lists of texts, whether it is there or not. -/
def touchText (t : Table) (text : Bytes) : Table :=
  let t := t.textual
  { t with byText := t.byText.modify (t.textList text) (first text) }

/-- Look a number up that is there, or is about to be. -/
def touchNumber (t : Table) (n : Int) : Table :=
  let t := t.listed
  let isListed := (t.byNumber.getD (t.numberList n) []).contains n
  let t := if t.isByText && !isListed then t.touchText (bytesOf (toString n)) else t
  { t with byNumber := t.byNumber.modify (t.numberList n) (first n) }

/-- Whether a number is one of a part. -/
def isPart (t : Table) (n : Int) : Bool := t.parts.any fun parts => 1 ≤ n && n ≤ parts

/-- Look a key up that is there, or is about to be. -/
def touch (t : Table) : Key → Table
  | .whole n => if t.isPart n then t else t.touchNumber n
  | .text text => t.touchText text

/-- Whether a key is there. -/
def contains (t : Table) (key : Key) : Bool := t.values.contains key.toText

/-- The value of a key, and the table after it was looked up; a key that was not there is there
afterwards. -/
def get (t : Table) (key : Key) : Value × Table :=
  let text := key.toText
  match t.values.get? text with
  | some value => (value, t.touch key)
  | none => (.nothing, { t.touch key with values := t.values.insert text .nothing }.spread)

/-- A table with a value under a key. -/
def put (t : Table) (key : Key) (value : Value) : Table :=
  { t.touch key with values := t.values.insert key.toText value }.spread

/-- A table after a key was looked for in it. -/
def asked (t : Table) (key : Key) : Table :=
  if t.contains key then t.touch key
  else
    match key with
    | .whole _ => t
    | .text _ => if t.size = 0 then t else t.textual

/-- A table without a key. -/
def erase (t : Table) (key : Key) : Table :=
  if !t.contains key then t.asked key
  else
    let text := key.toText
    let isLastPart : Bool :=
      match key, t.parts with
      | .whole n, some parts => n = parts
      | _, _ => false
    let values := t.values.erase text
    if values.isEmpty then empty
    else if isLastPart then { t with values := values, parts := t.parts.map (· - 1) }
    else
      let t := (match key with
        | .whole n => t.touchNumber n
        | .text text => t.touchText text)
      { t with
        values := values
        byNumber := t.byNumber.map (·.filter fun n => bytesOf (toString n) ≠ text)
        byText := t.byText.map (·.filter (· ≠ text)) }

/-- The keys in their order, and the table once they have been told. -/
def keys (t : Table) : List Bytes × Table :=
  if t.size = 0 then ([], t)
  else
    let t := t.textual
    (t.byText.toList.flatten, t)

end Table

end ConfigTemplate.Shell.Programs.Records
