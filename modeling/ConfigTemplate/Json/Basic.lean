import ConfigTemplate.Entries

/-!
# JSON values

A value of the JSON data model. Integers are unbounded and distinct from floating-point numbers;
the members of an object are kept in order.
-/

namespace ConfigTemplate

/-- A JSON value. -/
inductive Json where
  | null
  | bool (b : Bool)
  | int (n : Int)
  | float (x : Float)
  | str (s : String)
  | arr (items : List Json)
  | obj (members : List (String × Json))
  deriving Inhabited, Repr

namespace Json

/-- The name of a value's type in messages. -/
def typeName : Json → String
  | null => "NoneType"
  | bool _ => "bool"
  | int _ => "int"
  | float _ => "float"
  | str _ => "str"
  | arr _ => "list"
  | obj _ => "dict"

/-- Objects and arrays. -/
def isContainer : Json → Bool
  | arr _ | obj _ => true
  | _ => false

/-- A string's text. -/
def text? : Json → Option String
  | str s => some s
  | _ => none

/-- The number that a value counts as in comparisons; truth values count as one and zero. -/
def asInt? : Json → Option Int
  | bool b => some (if b then 1 else 0)
  | int n => some n
  | _ => none

mutual

/-- Whether two values are equal up to the order of members. Numbers and truth values compare by
value, and a number that is not a number equals itself. -/
def same : Json → Json → Bool
  | null, null => true
  | str a, str b => a = b
  | float a, float b => a == b || (a.isNaN && b.isNaN)
  | float a, b => (asInt? b).any fun n => a == Float.ofInt n
  | a, float b => (asInt? a).any fun n => b == Float.ofInt n
  | arr a, arr b => sameItems a b
  | obj a, obj b => a.length = b.length && sameMembers a b
  | a, b => (asInt? a).isSome && asInt? a = asInt? b

/-- Whether two lists of values are equal item by item. -/
def sameItems : List Json → List Json → Bool
  | [], [] => true
  | a :: as, b :: bs => same a b && sameItems as bs
  | _, _ => false

/-- Whether every member of the first list has an equal one in the second. -/
def sameMembers : List (String × Json) → List (String × Json) → Bool
  | [], _ => true
  | (key, a) :: rest, members =>
    (match Entries.get? key members with
      | some b => same a b
      | none => false) && sameMembers rest members

end

mutual

/-- Keys are distinct in every object of a value. -/
def KeysDistinct : Json → Prop
  | arr items => ItemsKeysDistinct items
  | obj members => (Entries.keys members).Nodup ∧ MembersKeysDistinct members
  | _ => True

/-- Keys are distinct in every object of some values. -/
def ItemsKeysDistinct : List Json → Prop
  | [] => True
  | item :: rest => item.KeysDistinct ∧ ItemsKeysDistinct rest

/-- Keys are distinct in every object of the values of some members. -/
def MembersKeysDistinct : List (String × Json) → Prop
  | [] => True
  | (_, value) :: rest => value.KeysDistinct ∧ MembersKeysDistinct rest

end

mutual

/-- Whether keys are distinct in every object of a value can be decided. -/
def decideKeysDistinct : (value : Json) → Decidable value.KeysDistinct
  | arr items => decideItemsKeysDistinct items
  | obj members =>
    have := decideMembersKeysDistinct members
    inferInstanceAs (Decidable (_ ∧ _))
  | null | bool _ | int _ | float _ | str _ => .isTrue trivial

/-- Whether keys are distinct in every object of some values can be decided. -/
def decideItemsKeysDistinct : (items : List Json) → Decidable (ItemsKeysDistinct items)
  | [] => .isTrue trivial
  | item :: rest =>
    have := decideKeysDistinct item
    have := decideItemsKeysDistinct rest
    inferInstanceAs (Decidable (_ ∧ _))

/-- Whether keys are distinct in every object of the values of some members can be decided. -/
def decideMembersKeysDistinct :
    (members : List (String × Json)) → Decidable (MembersKeysDistinct members)
  | [] => .isTrue trivial
  | (_, value) :: rest =>
    have := decideKeysDistinct value
    have := decideMembersKeysDistinct rest
    inferInstanceAs (Decidable (_ ∧ _))

end

instance : DecidablePred KeysDistinct := decideKeysDistinct

end Json

end ConfigTemplate
