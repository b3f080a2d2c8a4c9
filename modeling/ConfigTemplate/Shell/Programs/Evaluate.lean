import ConfigTemplate.Shell.Programs.Columns
import ConfigTemplate.Shell.Regular.Reader

/-!
# Evaluating arguments

The program whose arguments are the values and operators of an expression: alternatives,
comparisons, sums, products, matches and a few functions of texts. A value is a text; where a number
is asked for, it has to write one.
-/

namespace ConfigTemplate.Shell.Programs

open Text (Bytes)
open Run (bytesOf textOf)

namespace Evaluate

/-- The whole number that a text writes. -/
def integer? (text : Bytes) : Option Int :=
  let digits := if text.head? = some 45 then text.drop 1 else text
  (number? digits).map fun n => if text.head? = some 45 then -(n : Int) else (n : Int)

/-- Whether a value counts as nothing: an empty text, or a zero. -/
def isNull (value : Bytes) : Bool := value.isEmpty || integer? value = some 0

/-- The text of a number. -/
def ofInt (n : Int) : Bytes := bytesOf (toString n)

/-- A truth value as a number. -/
def ofBool (b : Bool) : Bytes := if b then [49] else [48]

/-- The number of a value. -/
def demandInteger (value : Bytes) : Except String Int :=
  match integer? value with
  | some n => .ok n
  | none => .error "non-integer argument"

/-- The complaint about an argument that is missing after the last of those before. -/
def missing (before : List Bytes) : String :=
  s!"syntax error: missing argument after {curly (before.headD [])}"

/-- The text of the first group of an expression that a text matches from its front on; without
groups, the length of the match. -/
def matched (text pattern : Bytes) : Except String Bytes :=
  match Regular.read ⟨false, true, false, false⟩ (textOf pattern).toList with
  | .error flaw => .error flaw.message
  | .ok r =>
    let subject : Regular.Subject := ⟨(textOf text).toList.toArray, false, true⟩
    let hasGroups := r.groupCount ≠ 0
    .ok (match Regular.matchAt? subject r 0 with
      | none => if hasGroups then [] else [48]
      | some m =>
        if hasGroups then
          match m.group? 1 with
          | some (start, stop) => bytesOf (String.ofList (subject.part start stop))
          | none => []
        else ofInt m.stop)

/-- The place of the first character of a text that is among some others. -/
def firstAmong (text among : List Char) : Nat :=
  match text.findIdx? among.contains with
  | some n => n + 1
  | none => 0

/-- A part of a text by its first place and its length. -/
def partOf (text : Bytes) (start length : Bytes) : Bytes :=
  match integer? start, integer? length with
  | some start, some length =>
    if start ≤ 0 || length ≤ 0 then []
    else
      bytesOf (String.ofList (((textOf text).toList.drop (start.toNat - 1)).take length.toNat))
  | _, _ => []

/-- The result of an operator of sums and products. -/
def computed (op : String) (x y : Int) : Except String Int :=
  match op with
  | "+" => .ok (x + y)
  | "-" => .ok (x - y)
  | "*" => .ok (x * y)
  | "/" => if y = 0 then .error "division by zero" else .ok (x.tdiv y)
  | _ => if y = 0 then .error "division by zero" else .ok (x.tmod y)

/-- The result of a comparison, of numbers if both values are numbers. -/
def comparedBy (op : String) (a b : Bytes) : Bool :=
  let order : Ordering :=
    match integer? a, integer? b with
    | some x, some y => compare x y
    | _, _ => if a = b then .eq else if bytesLe a b then .lt else .gt
  match op with
  | "<" => order = .lt
  | "<=" => order ≠ .gt
  | "=" | "==" => order = .eq
  | "!=" => order ≠ .eq
  | ">=" => order ≠ .lt
  | _ => order = .gt

/-- What has been read of the arguments, the last one first, and what is left of them. -/
structure Place where
  before : List Bytes
  rest : List Bytes

/-- The place after an argument. -/
def Place.next (p : Place) : Place :=
  match p.rest with
  | argument :: rest => ⟨argument :: p.before, rest⟩
  | [] => p

/-- The operators by how tightly they bind, the loosest first. -/
def levels : List (List String) :=
  [["|"], ["&"], ["<", "<=", "=", "==", "!=", ">=", ">"], ["+", "-"], ["*", "/", "%"], [":"]]

/-- The result of an operator; what is not counted has no faults. -/
def applied (counts : Bool) (op : String) (a b : Bytes) : Except String Bytes :=
  match op with
  | "|" =>
    .ok (if !isNull a then a else if isNull b then [48] else b)
  | "&" => .ok (if isNull a || isNull b then [48] else a)
  | ":" => if counts then matched a b else .ok a
  | "+" | "-" | "*" | "/" | "%" =>
    if counts then do
      let x ← demandInteger a
      let y ← demandInteger b
      return ofInt (← computed op x y)
    else .ok a
  | _ => .ok (ofBool (comparedBy op a b))

mutual

/-- The value of operands between operators of one level and tighter ones. -/
def level (counts : Bool) : Nat → List (List String) → Place → Except String (Bytes × Place)
  | 0, _, p => .ok ([], p)
  | fuel + 1, [], p => single counts fuel p
  | fuel + 1, ops :: tighter, p => do
    let (value, p) ← level counts fuel tighter p
    further counts fuel ops tighter value p

/-- The value of a first operand and what follows it on its level. -/
def further (counts : Bool) : Nat → List String → List (List String) → Bytes → Place →
    Except String (Bytes × Place)
  | 0, _, _, value, p => .ok (value, p)
  | fuel + 1, ops, tighter, value, p =>
    match p.rest with
    | [] => .ok (value, p)
    | argument :: _ =>
      let op := textOf argument
      if !ops.contains op then .ok (value, p)
      else do
        let needed :=
          if op = "|" then counts && isNull value
          else if op = "&" then counts && !isNull value
          else counts
        let (other, p) ← level needed fuel tighter p.next
        further counts fuel ops tighter (← applied counts op value other) p

/-- A function of texts or a single value. -/
def single (counts : Bool) : Nat → Place → Except String (Bytes × Place)
  | 0, p => .ok ([], p)
  | fuel + 1, p => do
    match p.rest with
    | [] => throw (missing p.before)
    | argument :: _ =>
      let p := p.next
      match textOf argument with
      | "+" =>
        match p.rest with
        | [] => throw (missing p.before)
        | value :: _ => return (value, p.next)
      | "length" =>
        let (text, p) ← single counts fuel p
        return (ofInt (textOf text).length, p)
      | "match" =>
        let (text, p) ← single counts fuel p
        let (pattern, p) ← single counts fuel p
        return (← if counts then matched text pattern else pure text, p)
      | "index" =>
        let (text, p) ← single counts fuel p
        let (among, p) ← single counts fuel p
        return (ofInt (firstAmong (textOf text).toList (textOf among).toList), p)
      | "substr" =>
        let (text, p) ← single counts fuel p
        let (start, p) ← single counts fuel p
        let (length, p) ← single counts fuel p
        return (partOf text start length, p)
      | "(" =>
        let (value, p) ← level counts fuel levels p
        match p.rest with
        | [] => throw s!"syntax error: expecting ')' after {curly (p.before.headD [])}"
        | [41] :: _ => return (value, p.next)
        | other :: _ => throw s!"syntax error: expecting ')' instead of {curly other}"
      | ")" => throw "syntax error: unexpected ')'"
      | _ => return (argument, p)

end

/-- The value of all arguments. -/
def whole (arguments : List Bytes) : Except String Bytes := do
  let (value, p) ← level true (16 * (arguments.length + 2)) levels ⟨[], arguments⟩
  match p.rest with
  | [] => return value
  | extra :: _ => throw s!"syntax error: unexpected argument {curly extra}"

end Evaluate

/-- Write the value of an expression. The status tells whether it is nothing. -/
def evaluate : Program := fun arguments => do
  let arguments := if arguments.head? = some [45, 45] then arguments.drop 1 else arguments
  let manual : Manual := { name := "expr", choices := [], mistake := 2, anywhere := false }
  if arguments.isEmpty then misuse manual "missing operand"
  match Evaluate.whole arguments with
  | .error complaint => fail 2 s!"expr: {complaint}"
  | .ok value =>
    Run.write 1 (value ++ [10])
    return if Evaluate.isNull value then 1 else 0

end ConfigTemplate.Shell.Programs
