import ConfigTemplate.Yaml.Value

/-!
# Mappings

Looking up and storing the values of a mapping. Numbers and truth values are the same key when
they are equal by value, and so are times that are the same moment; a key that is stored again
keeps its place and its form.
-/

namespace ConfigTemplate.Yaml

/-- The number of days before a year. -/
def daysBeforeYear (year : Nat) : Nat :=
  let past := year - 1
  365 * past + past / 4 - past / 100 + past / 400

/-- The number of days in a year before a month of it. -/
def daysBeforeMonth (year month : Nat) : Nat :=
  ((List.range (month - 1)).map fun m => daysIn year (m + 1)).foldl (· + ·) 0

/-- The number of seconds from the first day of the year one to a time. -/
def Time.seconds (t : Time) : Int :=
  let days := daysBeforeYear t.date.year + daysBeforeMonth t.date.year t.date.month + t.date.day
  ((days * 24 + t.hour) * 60 + t.minute) * 60 + t.second - t.offset.getD 0

/-- A key by which equal keys are told. -/
def Key.canonical : Key → Key
  | .bool b => .int (if b then 1 else 0)
  | .float bits =>
    match Decimal.Parts.ofFloat (Float.ofBits bits) with
    | .zero _ => .int 0
    | .finite negative magnitude =>
      if magnitude.value % magnitude.denominator = 0 then
        let size : Int := magnitude.value / magnitude.denominator
        .int (if negative then -size else size)
      else .float bits
    | _ => .float bits
  | .time t =>
    if t.offset.isSome then .time ⟨⟨0, 0, 0⟩, 0, 0, 0, t.microsecond, some t.seconds⟩ else .time t
  | key => key

@[simp] theorem Key.canonical_str (s : String) : (Key.str s).canonical = .str s := rfl

namespace Mapping

variable {α : Type}

/-- The value stored under a key. -/
def get? (key : Key) : List (Key × α) → Option α
  | [] => none
  | (k, v) :: rest => if k.canonical = key.canonical then some v else get? key rest

/-- Store a value: in place of the present one, or at the end. -/
def put (key : Key) (value : α) : List (Key × α) → List (Key × α)
  | [] => [(key, value)]
  | (k, v) :: rest =>
    if k.canonical = key.canonical then (k, value) :: rest else (k, v) :: put key value rest

@[simp] theorem get?_nil (key : Key) : get? key ([] : List (Key × α)) = none := rfl

theorem get?_cons (key k : Key) (v : α) (rest : List (Key × α)) :
    get? key ((k, v) :: rest) =
      if k.canonical = key.canonical then some v else get? key rest := rfl

@[simp] theorem get?_put_self (key : Key) (value : α) (mapping : List (Key × α)) :
    get? key (put key value mapping) = some value := by
  fun_induction put key value mapping with
  | case1 => simp [get?]
  | case2 k v rest h => simp [get?, h]
  | case3 k v rest h ih => simp [get?, h, ih]

theorem get?_put_of_ne {key other : Key} (h : key.canonical ≠ other.canonical) (value : α)
    (mapping : List (Key × α)) : get? other (put key value mapping) = get? other mapping := by
  fun_induction put key value mapping with
  | case1 => simp [get?, h]
  | case2 k v rest hk => simp [get?, hk, h]
  | case3 k v rest hk ih => simp [get?, ih]

end Mapping

end ConfigTemplate.Yaml
