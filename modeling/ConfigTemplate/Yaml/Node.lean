import ConfigTemplate.Entries
import ConfigTemplate.Yaml.Scalar.Kind
import ConfigTemplate.Yaml.Tokens

/-!
# Nodes of settings files

The graph that the tokens of a text stand for. Every node has a number and a tag that names its
type; the type of a scalar without one follows from its text. An alias is the number of the node
with its anchor, so a node may be part of several collections, and of itself. A text holds one
document at most.
-/

namespace ConfigTemplate.Yaml

/-- The name of a standard type. -/
def standardTag (name : String) : String := "tag:yaml.org,2002:" ++ name

/-- A node with the name of its type. The nodes inside a collection are given by their numbers. -/
inductive Node where
  | scalar (tag : String) (text : String)
  | seq (tag : String) (items : List Nat)
  | map (tag : String) (entries : List (Nat × Nat))
  deriving Inhabited, DecidableEq, Repr

/-- The name of a node's type. -/
def Node.tag : Node → String
  | scalar tag _ => tag
  | seq tag _ => tag
  | map tag _ => tag

/-- A document: its nodes by number, and the number of its root. -/
structure Graph where
  nodes : Array Node
  root : Nat
  deriving DecidableEq, Repr

/-- The number of entries of all mappings. -/
def Graph.entryCount (graph : Graph) : Nat :=
  (graph.nodes.toList.map fun node =>
    match node with
    | .map _ entries => entries.length
    | _ => 0).foldl (· + ·) 0

/-- What a reader of tokens keeps in mind. -/
structure Composition where
  rest : List Token
  /-- Why there are no more tokens, if the text goes on. -/
  fault : Option Fault
  nodes : Array Node
  /-- The anchors so far, with the numbers of their nodes. -/
  anchors : List (String × Nat)

/-- A piece of reading tokens. -/
abbrev Composer := StateT Composition (Except Fault)

/-- What handles of tags stand for. -/
abbrev Handles := List (String × String)

/-- The handles that need no directive. -/
def Handles.standard : Handles := [("!", "!"), ("!!", "tag:yaml.org,2002:")]

namespace Composer

/-- Give up. Where the tokens are at an end, it is for the reason that they are. -/
def giveUp {α : Type} : Composer α := fun s =>
  .error (if s.rest.isEmpty then s.fault.getD .malformed else .malformed)

/-- Give up unless a condition holds. -/
def need (condition : Bool) : Composer Unit := if condition then pure () else giveUp

/-- Whether the next token is one of some tokens. -/
def sees (tokens : List Token) : Composer Bool := do
  return (← get).rest.head?.any tokens.contains

/-- Take the next token. -/
def skip : Composer Unit := modify fun s => { s with rest := s.rest.drop 1 }

/-- Take the next token if it is a given one. -/
def accept (token : Token) : Composer Bool := do
  if ← sees [token] then
    skip
    return true
  else return false

/-- Take the next token, which has to be a given one. -/
def expect (token : Token) : Composer Unit := do need (← accept token)

/-- An anchor, if there is one; it may not occur twice. -/
def anchor : Composer (Option String) := do
  match (← get).rest.head? with
  | some (.anchor name) =>
    skip
    need (Entries.get? name (← get).anchors).isNone
    return some name
  | _ => return none

/-- A tag, if there is one, with its handle replaced by what it stands for. -/
def tag (handles : Handles) : Composer (Option String) := do
  match (← get).rest.head? with
  | some (.tag none name) =>
    skip
    return some name
  | some (.tag (some handle) name) =>
    skip
    match Entries.get? handle handles with
    | some leading => return some (leading ++ name)
    | none => giveUp
  | _ => return none

/-- A new node, under its anchor if it has one. -/
def add (anchored : Option String) (node : Node) : Composer Nat := do
  let number := (← get).nodes.size
  modify fun s =>
    { s with
      nodes := s.nodes.push node
      anchors :=
        match anchored with
        | some name => (name, number) :: s.anchors
        | none => s.anchors }
  return number

/-- A node in place of the one with its number. -/
def replace (number : Nat) (node : Node) : Composer Unit :=
  modify fun s => { s with nodes := s.nodes.setIfInBounds number node }

/-- An empty scalar. -/
def empty : Composer Nat := add none (.scalar (standardTag "null") "")

/-- The anchor and the tag before a node, in either order. -/
def properties (handles : Handles) : Composer (Option String × Option String) := do
  match ← anchor with
  | some name => return (some name, ← tag handles)
  | none =>
    let given ← tag handles
    if given.isSome then return (← anchor, given) else return (none, none)

/-- The tag of a collection: its own, unless that leaves the type open. -/
def collectionTag (standard : String) : Option String → String
  | none => standardTag standard
  | some given => if given = "!" then standardTag standard else given

/-- The tag that the shape of a text calls for. -/
def tagOfText (text : String) : String := standardTag (Scalar.Kind.ofText text).name

/-- The tag of a scalar: its own, or the one that its text calls for where that leaves the type
open; text between quotes is a string. -/
def scalarTag (plain : Bool) (text : String) : Option String → String
  | none => if plain then tagOfText text else standardTag "str"
  | some given => if given = "!" then tagOfText text else given

/-- Where nodes may stand. -/
inductive Place where
  /-- Inside brackets. -/
  | flow
  /-- Outside brackets. -/
  | block
  /-- In a mapping outside brackets, where a sequence needs no indentation. -/
  | member
  deriving DecidableEq

/-- A sequence with items that are read after its number is known. -/
def sequence (anchored given : Option String) (items : Composer (List Nat)) : Composer Nat := do
  let tag := collectionTag "seq" given
  let number ← add anchored (.seq tag [])
  replace number (.seq tag (← items))
  return number

/-- A mapping with entries that are read after its number is known. -/
def mapping (anchored given : Option String) (entries : Composer (List (Nat × Nat))) :
    Composer Nat := do
  let tag := collectionTag "map" given
  let number ← add anchored (.map tag [])
  replace number (.map tag (← entries))
  return number

mutual

/-- A node. -/
def node (handles : Handles) (place : Place) : Nat → Composer Nat
  | 0 => giveUp
  | fuel + 1 => do
    match (← get).rest.head? with
    | some (.alias name) =>
      skip
      match Entries.get? name (← get).anchors with
      | some target => return target
      | none => giveUp
    | _ =>
      let (name, given) ← properties handles
      content handles place name given fuel

/-- A node after its anchor and its tag. Nothing at all is an empty scalar if there is either. -/
def content (handles : Handles) (place : Place) (anchored given : Option String) :
    Nat → Composer Nat
  | 0 => giveUp
  | fuel + 1 => do
    match (← get).rest.head? with
    | some (.scalar text plain) =>
      skip
      add anchored (.scalar (scalarTag plain text given) text)
    | some .flowSequenceStart =>
      skip
      sequence anchored given (flowItems handles true fuel)
    | some .flowMappingStart =>
      skip
      mapping anchored given (flowEntries handles true fuel)
    | token =>
      if place = .member && token = some .blockEntry then
        sequence anchored given (plainItems handles fuel)
      else if place ≠ .flow && token = some .blockSequenceStart then
        skip
        sequence anchored given (blockItems handles fuel)
      else if place ≠ .flow && token = some .blockMappingStart then
        skip
        mapping anchored given (blockEntries handles fuel)
      else
        need (anchored.isSome || given.isSome)
        add anchored (.scalar (scalarTag true "" given) "")

/-- A node, or an empty scalar where one of some tokens follows. -/
def optionalNode (handles : Handles) (place : Place) (ends : List Token) : Nat → Composer Nat
  | 0 => giveUp
  | fuel + 1 => do
    if ← sees ends then empty
    else node handles place fuel

/-- The items of a sequence outside brackets. -/
def blockItems (handles : Handles) : Nat → Composer (List Nat)
  | 0 => giveUp
  | fuel + 1 => do
    if ← accept .blockEntry then
      let item ← optionalNode handles .block [.blockEntry, .blockEnd] fuel
      return item :: (← blockItems handles fuel)
    else
      expect .blockEnd
      return []

/-- The items of a sequence that is not indented more deeply than the mapping around it. -/
def plainItems (handles : Handles) : Nat → Composer (List Nat)
  | 0 => giveUp
  | fuel + 1 => do
    if ← accept .blockEntry then
      let item ← optionalNode handles .block [.blockEntry, .key, .value, .blockEnd] fuel
      return item :: (← plainItems handles fuel)
    else return []

/-- The entries of a mapping outside brackets. -/
def blockEntries (handles : Handles) : Nat → Composer (List (Nat × Nat))
  | 0 => giveUp
  | fuel + 1 => do
    if ← accept .key then
      let key ← optionalNode handles .member [.key, .value, .blockEnd] fuel
      let value ←
        if ← accept .value then optionalNode handles .member [.key, .value, .blockEnd] fuel
        else empty
      return (key, value) :: (← blockEntries handles fuel)
    else
      expect .blockEnd
      return []

/-- The rest of an entry between brackets, after the mark of its key. -/
def flowEntry (handles : Handles) (close : Token) : Nat → Composer (Nat × Nat)
  | 0 => giveUp
  | fuel + 1 => do
    let key ← optionalNode handles .flow [.value, .flowEntry, close] fuel
    let value ←
      if ← accept .value then optionalNode handles .flow [.flowEntry, close] fuel
      else empty
    return (key, value)

/-- The items of a sequence between brackets. An entry by itself is a mapping of its own. -/
def flowItems (handles : Handles) (first : Bool) : Nat → Composer (List Nat)
  | 0 => giveUp
  | fuel + 1 => do
    if ← accept .flowSequenceEnd then return []
    if !first then expect .flowEntry
    if ← accept .key then
      let single ← mapping none none do return [← flowEntry handles .flowSequenceEnd fuel]
      return single :: (← flowItems handles false fuel)
    else if ← accept .flowSequenceEnd then return []
    else
      let item ← node handles .flow fuel
      return item :: (← flowItems handles false fuel)

/-- The entries of a mapping between brackets. A node by itself is a key with an empty value. -/
def flowEntries (handles : Handles) (first : Bool) : Nat → Composer (List (Nat × Nat))
  | 0 => giveUp
  | fuel + 1 => do
    if ← accept .flowMappingEnd then return []
    if !first then expect .flowEntry
    if ← accept .key then
      let entry ← flowEntry handles .flowMappingEnd fuel
      return entry :: (← flowEntries handles false fuel)
    else if ← accept .flowMappingEnd then return []
    else
      let key ← node handles .flow fuel
      let entry := (key, ← empty)
      return entry :: (← flowEntries handles false fuel)

end

/-- The directives before a document: the handles they define. There may be one version, which has
to be 1, and one tag for each handle. -/
def directives (versioned : Bool) (handles : Handles) : Nat → Composer Handles
  | 0 => giveUp
  | fuel + 1 => do
    match (← get).rest.head? with
    | some (.directive d) =>
      skip
      match d with
      | .version major =>
        need (!versioned && major = 1)
        directives true handles fuel
      | .tag handle leading =>
        need (Entries.get? handle handles).isNone
        directives versioned (handles ++ [(handle, leading)]) fuel
      | .other => directives versioned handles fuel
    | _ => return handles

/-- The marks of the end of a document. -/
def documentEnds : Composer Unit :=
  modify fun s => { s with rest := s.rest.dropWhile (· = .documentEnd) }

/-- The root of a document, which may be left out where `---` is there. -/
def root : Composer Nat := do
  let fuel := 4 * (← get).rest.length + 4
  match (← get).rest.head? with
  | some (.directive _) | some .documentStart =>
    let handles ← directives false [] fuel
    expect .documentStart
    let next := (← get).rest.head?
    match next with
    | none | some (.directive _) | some .documentStart | some .documentEnd => empty
    | some _ => node (handles ++ Handles.standard) .block fuel
  | _ => node Handles.standard .block fuel

/-- The end of the text, which has to be well-formed up to it. -/
def finish : Composer Unit := do need ((← get).rest.isEmpty && (← get).fault.isNone)

/-- The document of a text, if there is one. Nothing may follow it. -/
def document : Composer (Option Nat) := do
  if (← get).rest.isEmpty then
    finish
    return none
  let root ← root
  documentEnds
  finish
  return some root

end Composer

/-- The document of a text, if it holds one. -/
def Graph.ofText (text : List Char) : Except Fault (Option Graph) :=
  let (tokens, fault) := Token.ofText text
  match Composer.document.run ⟨tokens, fault, #[], []⟩ with
  | .error fault => .error fault
  | .ok (none, _) => .ok none
  | .ok (some root, s) => .ok (some ⟨s.nodes, root⟩)

end ConfigTemplate.Yaml
