import ConfigTemplate.Failure
import ConfigTemplate.Join
import ConfigTemplate.Log.Basic
import ConfigTemplate.Placeholder

/-!
# Events of a session

What happens in a session, in the order in which it happens. The log and the commands that were
run are read off the events.
-/

namespace ConfigTemplate

/-- Something that happens while placeholders are resolved. -/
inductive Event where
  /-- No value has a placeholder. -/
  | nothingPending
  /-- So many values are about to be resolved. -/
  | pendingFound (count : Nat)
  /-- A key begins to be resolved. -/
  | entered (key : String)
  /-- A key is resolved. -/
  | settled (key : String) (value : Json)
  /-- The resolution of a key failed. -/
  | failed (key : String)
  /-- The first of several paths was taken for a shorthand. -/
  | chose (key : String) (candidates : List String)
  /-- The elements of an array were joined. -/
  | joined (count : Nat) (join : Join)
  /-- A loop was reported. -/
  | loopReported (key : String) (trail : List String)
  /-- A placeholder of a text was replaced. -/
  | replaced (source : String) (placeholder : Placeholder) (replacement : String)
  /-- A replacement left a text as it was. -/
  | stalled (owner placeholder : String)
  /-- A command is run for a text. `announced` says whether the log tells so. -/
  | ran (source command : String) (announced : Bool)
  /-- An environment variable is read. -/
  | read (name : String)
  /-- A placeholder is left as it is. -/
  | withheld (key placeholder : String)
  /-- A single key is asked for. -/
  | requested (key : String)
  /-- All values of a document are resolved. -/
  | finished (count : Nat)
  /-- A resolved document was written to a file. -/
  | written (path : String)
  /-- A command of the program failed. -/
  | gaveUp
  deriving Repr

namespace Event

/-- The log record that an event leaves. -/
def record? : Event → Option Log.Record
  | nothingPending => some ⟨.debug, "jresolve.core.engine", "Nothing to resolve"⟩
  | pendingFound count =>
    some ⟨.info, "jresolve.core.engine", s!"Resolving {count} pending values"⟩
  | entered key => some ⟨.debug, "jresolve.core.engine", s!"Resolving path: {key}"⟩
  | chose key candidates =>
    some ⟨.debug, "jresolve.core.keys",
      s!"Shorthand '{key}' matches {Text.quotedList candidates}, using '{candidates.headD key}'"⟩
  | joined count join =>
    some ⟨.debug, "jresolve.core.handlers",
      s!"Joined {count} elements of '{join.path}' with {Text.quoted join.separator}"⟩
  | loopReported key trail =>
    some ⟨.error, "jresolve.core.handlers", Failure.cycleReport key trail⟩
  | stalled owner placeholder =>
    some ⟨.warning, "jresolve.core.engine",
      s!"Substitution of {placeholder} made no progress in '{owner}'"⟩
  | ran _ command true =>
    some ⟨.debug, "jresolve.core.external", s!"Running shell command: {command}"⟩
  | withheld key placeholder =>
    some ⟨.info, "jresolve.core.engine",
      s!"Dry run: leaving {placeholder} unresolved in '{key}'"⟩
  | requested key => some ⟨.info, "jresolve.core.api", s!"Resolving path: {key}"⟩
  | finished count => some ⟨.debug, "jresolve.core.api", s!"Resolved {count} keys"⟩
  | written path =>
    some ⟨.info, "jresolve.cli.resolve", s!"Wrote resolved document to {path}"⟩
  | gaveUp => some ⟨.debug, "jresolve.cli", "Resolution failed"⟩
  | settled .. | failed _ | replaced .. | ran _ _ false | read _ => none

/-- The command that an event runs. -/
def command? : Event → Option String
  | ran _ command _ => some command
  | _ => none

end Event

/-- Events in the order in which they happened, the latest first. -/
abbrev Journal := List Event

namespace Journal

/-- The log records of a journal, in order. -/
def records (journal : Journal) : List Log.Record := journal.reverse.filterMap Event.record?

/-- The commands of a journal, in order. -/
def commands (journal : Journal) : List String := journal.reverse.filterMap Event.command?

end Journal

end ConfigTemplate
