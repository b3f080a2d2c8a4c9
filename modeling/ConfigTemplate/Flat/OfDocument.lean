import ConfigTemplate.Document
import ConfigTemplate.Flat.Basic

/-!
# Flattening

The leaves of a document are its scalars and, below the root, its empty containers. A document is
refused when an object of it has a key that paths cannot hold; the first such key in document order
is reported.
-/

namespace ConfigTemplate.Flat

mutual

/-- The leaves of a value at a path. -/
def leaves (path : String) : Json → Except Document.Fault (List (String × Json))
  | .arr [] => .ok (if path = "" then [] else [(path, .arr [])])
  | .obj [] => .ok (if path = "" then [] else [(path, .obj [])])
  | .arr items => itemLeaves path 0 items
  | .obj members => memberLeaves path members
  | scalar => .ok [(path, scalar)]

/-- The leaves of the items of an array at a path, from an index on. -/
def itemLeaves (path : String) (index : Nat) :
    List Json → Except Document.Fault (List (String × Json))
  | [] => .ok []
  | item :: rest =>
    match leaves (Path.appendIndex path index) item with
    | .error fault => .error fault
    | .ok first =>
      match itemLeaves path (index + 1) rest with
      | .error fault => .error fault
      | .ok others => .ok (first ++ others)

/-- The leaves of the members of an object at a path. -/
def memberLeaves (path : String) :
    List (String × Json) → Except Document.Fault (List (String × Json))
  | [] => .ok []
  | (key, value) :: rest =>
    if Path.isAddressable key then
      match leaves (Path.appendName path key) value with
      | .error fault => .error fault
      | .ok first =>
        match memberLeaves path rest with
        | .error fault => .error fault
        | .ok others => .ok (first ++ others)
    else .error (.unaddressableKey path key)

end

/-- The flat form of a document. -/
def ofDocument (document : Json) : Except Document.Fault Flat :=
  match Document.ofRoot document with
  | .error fault => .error fault
  | .ok root =>
    match leaves "" root with
    | .error fault => .error fault
    | .ok pairs => .ok (ofList pairs)

/-- The flat form of a document from whatever it comes from. -/
def ofSource (source : Document.Source) : Except Document.Fault Flat :=
  match Document.load source with
  | .error fault => .error fault
  | .ok document => ofDocument document

end ConfigTemplate.Flat
