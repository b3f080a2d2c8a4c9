import ConfigTemplate.Flat.Basic
import ConfigTemplate.Path.Assign

/-!
# Rebuilding documents

A document is rebuilt from its flat form by writing each value at its path. The kind of the root
follows the first path that has a step; without one the root is empty and of a given kind.
-/

namespace ConfigTemplate.Flat

/-- The kinds of a document's root. -/
inductive RootKind where
  | object
  | array
  deriving DecidableEq, Repr

/-- An empty root. -/
def RootKind.empty : RootKind → Json
  | object => .obj []
  | array => .arr []

/-- The kind of a document's root. -/
def RootKind.ofRoot : Json → RootKind
  | .arr _ => array
  | _ => object

/-- The pairs of steps and values to write; a path without steps writes nothing. -/
def assignments (flat : Flat) : List (Path × Json) :=
  (flat.entries.map fun (path, value) => (Path.split path, value)).filter fun (steps, _) =>
    !steps.isEmpty

/-- Write values one after the other. -/
def assignAll (root : Json) : List (Path × Json) → Except Document.Fault Json
  | [] => .ok root
  | (path, value) :: rest =>
    match Path.assign root path value with
    | .error fault => .error fault
    | .ok root => assignAll root rest

/-- The root that a first path calls for. -/
def initialRoot (kind : RootKind) : List (Path × Json) → Json
  | (step :: _, _) :: _ => step.emptyContainer
  | _ => kind.empty

/-- The document that a flat form stands for. -/
def toDocument (flat : Flat) (kind : RootKind) : Except Document.Fault Json :=
  assignAll (initialRoot kind flat.assignments) flat.assignments

end ConfigTemplate.Flat
