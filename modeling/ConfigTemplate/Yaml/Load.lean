import ConfigTemplate.Yaml.Linked
import ConfigTemplate.Yaml.Node

/-!
# Loading settings files

The value of a settings file. Each node becomes a value of its type, level by level from the root
on; the first fault on the way counts. A mapping first takes over the entries that it asks for from
other mappings. Only the standard types are known.
-/

namespace ConfigTemplate.Yaml

/-- What is kept while nodes become values. -/
structure Construction where
  nodes : Array Node
  /-- A bound on how deeply mappings take over entries from one another. -/
  depth : Nat
  /-- The containers by the numbers of their nodes. -/
  containers : Array Container
  /-- The collections that were met, by their numbers. -/
  met : Array Bool
  /-- The collections in the order in which they were met. -/
  order : Array Nat

/-- A step of turning nodes into values. -/
abbrev Constructor := StateT Construction (Except Fault)

namespace Constructor

/-- Give up. -/
def giveUp {α : Type} : Constructor α := fun _ => .error .malformed

/-- The node with a number. -/
def node (number : Nat) : Constructor Node := do return (← get).nodes.getD number default

/-- The tag of a node. -/
def tag (number : Nat) : Constructor String := do return (← node number).tag

/-- The entries of a node that is a mapping. -/
def entriesOf (number : Nat) : Constructor (List (Nat × Nat)) := do
  match ← node number with
  | .map _ entries => return entries
  | _ => giveUp

/-- A node in place of the one with its number. -/
def replace (number : Nat) (node : Node) : Constructor Unit :=
  modify fun s => { s with nodes := s.nodes.setIfInBounds number node }

/-- Entries in place of those of a mapping. -/
def replaceEntries (number : Nat) (entries : List (Nat × Nat)) : Constructor Unit := do
  replace number (.map (← tag number) entries)

/-- The mark of the default entry becomes a string where it is a key. -/
def plainKey (key : Nat) : Constructor Unit := do
  match ← node key with
  | .scalar _ text => replace key (.scalar (standardTag "str") text)
  | .seq _ items => replace key (.seq (standardTag "str") items)
  | .map _ entries => replace key (.map (standardTag "str") entries)

mutual

/-- A mapping takes over the entries that it asks for: they come before its own. -/
def merge (number : Nat) : Nat → Constructor Unit
  | 0 => giveUp
  | fuel + 1 => do
    let taken ← takenOver number fuel (← entriesOf number)
    if !taken.isEmpty then replaceEntries number (taken ++ (← entriesOf number))

/-- The entries that some entries of a mapping ask for. An entry that does is dropped first. -/
def takenOver (number fuel : Nat) : List (Nat × Nat) → Constructor (List (Nat × Nat))
  | [] => return []
  | (key, value) :: rest => do
    let name ← tag key
    if name = standardTag "merge" && (← entriesOf number).contains (key, value) then
      replaceEntries number ((← entriesOf number).erase (key, value))
      let taken ← sources value fuel
      return taken ++ (← takenOver number fuel rest)
    else
      if name = standardTag "value" then plainKey key
      takenOver number fuel rest

/-- The entries of a mapping, or of several, the last of them first. -/
def sources (value : Nat) : Nat → Constructor (List (Nat × Nat))
  | 0 => giveUp
  | fuel + 1 => do
    match ← node value with
    | .map .. =>
      merge value fuel
      entriesOf value
    | .seq _ items =>
      let several ← items.mapM fun item => do
        let _ ← entriesOf item
        merge item fuel
        entriesOf item
      return several.reverse.flatten
    | .scalar .. => giveUp

end

/-- The text of a node that stands for a scalar: its own, or that of the default entry of a
mapping. -/
def scalarText : Nat → Nat → Constructor String
  | 0, _ => giveUp
  | fuel + 1, number => do
    match ← node number with
    | .scalar _ text => return text
    | .seq .. => giveUp
    | .map _ entries =>
      match ← entries.findM? fun (key, _) => do return (← tag key) = standardTag "value" with
      | some (_, value) => scalarText fuel value
      | none => giveUp

/-- The value of a scalar of a type. -/
def scalarValue (kind : Scalar.Kind) (text : String) : Except Fault Value :=
  let orFault (result : Except Scalar.Fault Value) : Except Fault Value :=
    result.mapError Fault.scalar
  match kind with
  | .null => .ok .null
  | .bool => orFault (Scalar.truthValue text)
  | .int => orFault (.int <$> Scalar.integer text)
  | .float => orFault (.float <$> Scalar.float text)
  | .timestamp => orFault (Scalar.timestamp text)
  | .binary =>
    match Scalar.binary? text with
    | some content => .ok (.bytes content)
    | none => .error .malformed
  | .str => .ok (.str text)
  | .merge | .default | .indicator => .error .malformed

/-- The value that a node of a type of scalars stands for. A time has to be written as such. -/
def scalar (kind : Scalar.Kind) (number : Nat) : Constructor Value := do
  let text ← scalarText ((← get).nodes.size + 1) number
  match kind, ← node number with
  | .timestamp, .map .. => fun _ => .error (.scalar .timeOfMapping)
  | _, _ => fun s => (scalarValue kind text).map fun value => (value, s)

/-- The types of collections. -/
def collectionTags : List String := ["seq", "omap", "pairs", "map", "set"].map standardTag

/-- What a node stands for. A container is filled later. -/
def slot (number : Nat) : Constructor Slot := do
  let name ← tag number
  if collectionTags.contains name then
    if !(← get).met.getD number false then
      modify fun s =>
        { s with met := s.met.setIfInBounds number true, order := s.order.push number }
    return .shared number
  else
    match Scalar.Kind.all.find? fun kind => standardTag kind.name = name with
    | some kind => return .own (← scalar kind number)
    | none => giveUp

/-- The key that a value is. Each number that is no number is a key of its own, unless it is
written as such. -/
def keyOf (number : Nat) (value : Value) : Constructor Key := do
  match value.toKey? with
  | none => giveUp
  | some (.float bits) =>
    let isWritten : Bool :=
      match ← node number with
      | .scalar _ text => text.contains '.'
      | _ => false
    if (Float.ofBits bits).isNaN && !isWritten then return .float (bits + UInt64.ofNat (number + 1))
    else return .float bits
  | some key => return key

/-- What a node stands for as a key; a container is none. -/
def key (number : Nat) : Constructor Key := do
  match ← slot number with
  | .own value => keyOf number value
  | .shared _ => giveUp

/-- Entries stored one after the other. -/
def entries (mapping : List (Key × Slot)) :
    List (Nat × Nat) → Constructor (List (Key × Slot))
  | [] => return mapping
  | (name, value) :: rest => do
    let name ← key name
    let value ← slot value
    entries (Mapping.put name value mapping) rest

/-- The entries of a mapping after it took over those that it asks for. -/
def mergedEntries (number : Nat) : Constructor (List (Key × Slot)) := do
  let _ ← entriesOf number
  merge number (← get).depth
  entries [] (← entriesOf number)

/-- The items of a node that is a sequence. -/
def itemsOf (number : Nat) : Constructor (List Nat) := do
  match ← node number with
  | .seq _ items => return items
  | _ => giveUp

/-- The pair that a mapping with a single entry is. -/
def pair (number : Nat) : Constructor (Slot × Slot) := do
  match ← entriesOf number with
  | [(key, value)] => return (← slot key, ← slot value)
  | _ => giveUp

/-- The container of a collection. -/
def containerOf (number : Nat) : Constructor Container := do
  let name ← tag number
  if name = standardTag "map" then return .map (← mergedEntries number)
  else if name = standardTag "set" then return .set ((← mergedEntries number).map (·.1))
  else if name = standardTag "seq" then return .seq (← (← itemsOf number).mapM slot)
  else return .pairs (← (← itemsOf number).mapM pair)

/-- Fill the containers in the order in which they were met, from a place in it on. -/
def fillFrom (place : Nat) : Nat → Constructor Unit
  | 0 => return
  | fuel + 1 => do
    match (← get).order[place]? with
    | none => return
    | some number =>
      let container ← containerOf number
      modify fun s => { s with containers := s.containers.setIfInBounds number container }
      fillFrom (place + 1) fuel

end Constructor

/-- The value that a document stands for. -/
def Linked.ofGraph (graph : Graph) : Except Fault Linked :=
  let size := graph.nodes.size
  let steps : Constructor Slot := do
    let root ← Constructor.slot graph.root
    Constructor.fillFrom 0 size
    return root
  let start : Construction :=
    ⟨graph.nodes, 2 * graph.entryCount + 2, Array.replicate size (.seq []),
      Array.replicate size false, #[]⟩
  match steps.run start with
  | .error fault => .error fault
  | .ok (root, s) => .ok ⟨s.containers, root⟩

/-- The value of the text of a settings file; an empty one is null. -/
def Linked.ofText (text : List Char) : Except Fault Linked :=
  match Graph.ofText text with
  | .error fault => .error fault
  | .ok none => .ok ⟨#[], .own .null⟩
  | .ok (some graph) => ofGraph graph

end ConfigTemplate.Yaml
