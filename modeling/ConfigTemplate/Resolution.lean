import ConfigTemplate.Flat.OfDocument
import ConfigTemplate.Flat.ToDocument
import ConfigTemplate.Session.Resolve
import ConfigTemplate.Settings.Load

/-!
# Resolving documents

A document is resolved as a whole, or a single key of it. An observer of the whole is shown
snapshots of the flat document on the way; one of them comes from resolving a copy without commands
and variables.
-/

namespace ConfigTemplate

/-- The options that settings ask for. -/
def Settings.options (settings : Settings) : Options where
  uniqueMatch := settings.uniqueMatch
  external := settings.external
  limit :=
    match settings.maxSubstitutions with
    | .int n => n
    | _ => Options.standard.limit

/-- The moments at which a document is shown. -/
inductive Stage where
  | flat
  | pending
  | internal
  | resolved
  deriving DecidableEq, Repr

/-- The name of a stage. -/
def Stage.name : Stage → String
  | flat => "flat"
  | pending => "pending"
  | internal => "internal"
  | resolved => "resolved"

/-- What came of resolving: a result, what an observer saw, and what happened. -/
structure Resolution where
  result : Except Halt Json
  snapshots : List (Stage × List (String × Json))
  journal : Journal

namespace Resolution

/-- A resolution that fails before it has begun. -/
def failed (halt : Halt) : Resolution := ⟨.error halt, [], []⟩

/-- A resolution after snapshots and events. -/
def after (snapshots : List (Stage × List (String × Json))) (journal : Journal)
    (r : Resolution) : Resolution :=
  ⟨r.result, snapshots ++ r.snapshots, r.journal ++ journal⟩

/-- The entries of a flat document that are still to be resolved. -/
def pendingEntries (setup : Setup) (flat : Flat) : List (String × Json) :=
  (Session.pending setup (.start flat)).filterMap fun key =>
    (flat.get? key).map fun value => (key, value)

/-- The document that a flat document stands for. -/
def rebuilt (flat : Flat) (kind : Flat.RootKind) : Except Halt Json :=
  match flat.toDocument kind with
  | .ok document => .ok document
  | .error fault => .error (.failure (.document fault))

/-- Resolve all values of a flat document, then rebuild it. -/
def ofFlat (setup : Setup) (flat : Flat) (kind : Flat.RootKind) : Resolution :=
  match (Session.resolveAll setup).run (.start flat) with
  | (.error halt, s) => ⟨.error halt, [], s.journal⟩
  | (.ok (), s) =>
    ⟨rebuilt s.flat kind, [(.resolved, s.flat.entries)],
      (s.noted (.finished s.flat.size)).journal⟩

/-- The setup in which commands and variables are left alone. -/
def withoutExternal (setup : Setup) : Setup :=
  { setup with options := { setup.options with external := false } }

/-- Resolve a flat document as far as references go, for an observer, before it is resolved. -/
def observed (setup : Setup) (flat : Flat) (rest : Resolution) : Resolution :=
  let first := [(Stage.flat, flat.entries), (Stage.pending, pendingEntries setup flat)]
  if setup.options.external then
    match (Session.resolveAll (withoutExternal setup)).run (.start flat) with
    | (.error halt, s) => ⟨.error halt, first, s.journal⟩
    | (.ok (), s) => rest.after (first ++ [(.internal, s.flat.entries)]) s.journal
  else rest.after first []

/-- Resolve a document, with or without an observer. -/
def ofDocument (setup : Setup) (observe : Bool) (document : Json) : Resolution :=
  match Flat.ofDocument document with
  | .error fault => failed (.failure (.document fault))
  | .ok flat =>
    let whole := ofFlat setup flat (.ofRoot document)
    if observe then observed setup flat whole else whole

/-- Load a document and resolve it. -/
def ofSource (setup : Setup) (observe : Bool) (source : Document.Source) : Resolution :=
  match Document.load source with
  | .error fault => failed fault.halt
  | .ok document => ofDocument setup observe document

/-- The value of a single key of a document. Only what it depends on is evaluated. -/
def ofKey (setup : Setup) (source : Document.Source) (key : String) : Resolution :=
  match Flat.ofSource source with
  | .error fault => failed fault.halt
  | .ok flat =>
    let action := do
      Action.note (.requested key)
      Session.lookup setup key
    let (result, s) := action.run (.start flat)
    ⟨result, [], s.journal⟩

end Resolution

/-- The document in a file. -/
def Document.ofFile (files : Files) (location : Location) : Except Halt Json :=
  if location.text.contains '\x00' then .error (.mishap .nullCharacter)
  else
    match files.read location with
    | .error .missing => .error (.failure (.document (.missingFile location.text)))
    | .error .isDirectory => .error (.failure (.document (.isDirectory location.text)))
    | .error fault => .error (.mishap (.file fault location.text))
    | .ok content =>
      match Document.ofBytes content with
      | .ok document => .ok document
      | .error fault => .error fault.halt

end ConfigTemplate
