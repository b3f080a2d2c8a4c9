import ConfigTemplate.Yaml.Mapping

/-!
# Linked values

A value in which several places may hold the same container, as aliases make them do, and in which
a container may be part of itself. The containers have numbers. Seen as a tree, a linked value
shows a container at every place that holds it, except inside itself.
-/

namespace ConfigTemplate.Yaml

/-- What a place holds: a value of its own, or the container with a number. -/
inductive Slot where
  | own (value : Value)
  | shared (number : Nat)
  deriving Inhabited, Repr

/-- A container by what its places hold. -/
inductive Container where
  | seq (items : List Slot)
  | map (entries : List (Key × Slot))
  | set (keys : List Key)
  | pairs (items : List (Slot × Slot))
  deriving Inhabited, Repr

namespace Container

/-- The slots of the places of a container. -/
def slots : Container → List Slot
  | seq items => items
  | map entries => entries.map (·.2)
  | set _ => []
  | pairs items => items.flatMap fun (first, second) => [first, second]

/-- Whether a container is a mapping. -/
def isMapping : Container → Bool
  | map _ => true
  | _ => false

/-- Whether nothing is in a container. -/
def isEmpty : Container → Bool
  | seq items => items.isEmpty
  | map entries => entries.isEmpty
  | set keys => keys.isEmpty
  | pairs items => items.isEmpty

/-- The name of a container's type in messages. -/
def typeName : Container → String
  | seq _ | pairs _ => "list"
  | map _ => "dict"
  | set _ => "set"

end Container

/-- A value with the containers that its places hold. -/
structure Linked where
  containers : Array Container
  root : Slot
  deriving Inhabited, Repr

namespace Linked

/-- The container with a number. -/
def container (linked : Linked) (number : Nat) : Container :=
  linked.containers.getD number (.seq [])

/-- The entries of a mapping, given by its number. -/
def entries? (linked : Linked) (number : Nat) : Option (List (Key × Slot)) :=
  match linked.containers[number]? with
  | some (.map entries) => some entries
  | _ => none

/-- The name of the type of what a slot holds. -/
def typeName (linked : Linked) : Slot → String
  | .own value => value.typeName
  | .shared number => (linked.container number).typeName

/-- Whether what a slot holds counts as true. -/
def isTruthy (linked : Linked) : Slot → Bool
  | .own value => value.isTruthy
  | .shared number => !(linked.container number).isEmpty

/-- Mark the container of a slot as met; none if it was met before. -/
def meet? (met : Array Bool) : Slot → Option (Array Bool)
  | .own _ => some met
  | .shared number => if met.getD number false then none else some (met.setIfInBounds number true)

/-- Whether no two places hold the same container. -/
def isTree (linked : Linked) : Bool :=
  let slots := linked.root :: linked.containers.toList.flatMap Container.slots
  (slots.foldlM meet? (Array.replicate linked.containers.size false)).isSome

/-- The values of the containers that do not depend on where they are, as far as they are known. -/
abbrev Known := Array (Option Value)

/-- The value of a slot inside some containers, and whether it refers back to one of them. -/
def valueAt (linked : Linked) : Nat → List Nat → Slot → StateM Known (Value × Bool)
  | _, _, .own value => pure (value, false)
  | 0, _, .shared number => pure (.again (linked.container number).isMapping, true)
  | fuel + 1, around, .shared number => do
    if around.contains number then return (.again (linked.container number).isMapping, true)
    match ((← get)[number]?).join with
    | some value => return (value, false)
    | none =>
      let inside := valueAt linked fuel (number :: around)
      let (value, refersBack) ←
        match linked.container number with
        | .seq items => do
          let values ← items.mapM inside
          pure (Value.seq (values.map (·.1)), values.any (·.2))
        | .map entries => do
          let values ← entries.mapM fun (key, slot) => do return (key, ← inside slot)
          pure (Value.map (values.map fun (key, value, _) => (key, value)), values.any (·.2.2))
        | .set keys => pure (Value.set keys, false)
        | .pairs items => do
          let values ← items.mapM fun (a, b) => do return (← inside a, ← inside b)
          pure (Value.seq (values.map fun (a, b) => .pair a.1 b.1),
            values.any fun (a, b) => a.2 || b.2)
      if !refersBack then modify (·.setIfInBounds number (some value))
      return (value, refersBack)

/-- A linked value as a tree. -/
def value (linked : Linked) : Value :=
  let size := linked.containers.size
  ((valueAt linked (size + 1) [] linked.root).run (Array.replicate size none)).1.1

end Linked

end ConfigTemplate.Yaml
