import ConfigTemplate.CommandLine.Run
import Mathlib

/-!
# What a run leaves behind

A run writes to two places: the log file, and the target of a document that is resolved as a whole.
The target is written last, when nothing can fail any more, so that a run that fails leaves nothing
there and nothing on its output. Everything else that changes is changed by commands.
-/

namespace ConfigTemplate

/-! ### Changes at one place -/

/-- The place that a location leads to, if it leads anywhere. -/
def Location.target (home : Place) (l : Location) : Place :=
  l.parts.foldl (fun place name => if name = ".." then place.dropLast else place ++ [name])
    (if l.isAbsolute then [] else home)

namespace Files

/-- What lies at a place, unless it is a directory. -/
def thing? (files : Files) (place : Place) : Option Entry :=
  (files.entry? place).filter (· ≠ .directory)

theorem entry?_put_of_ne {place other : Place} (h : place ≠ other) (files : Files)
    (entry : Entry) : Files.entry? (files.put place entry) other = files.entry? other := by
  rw [Files.entry?, Files.entry?, put, Entries.get?_put_of_ne h]

/-- Whether files differ from earlier ones in nothing but directories and what lies at one place. -/
structure Untouched (off : Option Place) (before after : Files) : Prop where
  home : after.home = before.home
  thing : ∀ place, off ≠ some place → after.thing? place = before.thing? place

namespace Untouched

variable {off : Option Place} {before between after : Files}

theorem refl (off : Option Place) (files : Files) : Untouched off files files :=
  ⟨rfl, fun _ _ => rfl⟩

theorem trans (first : Untouched off before between) (second : Untouched off between after) :
    Untouched off before after :=
  ⟨second.home.trans first.home,
    fun place other => (second.thing place other).trans (first.thing place other)⟩

theorem mono (h : Untouched none before after) : Untouched off before after :=
  ⟨h.home, fun place _ => h.thing place (by simp)⟩

theorem put (files : Files) (place : Place) (entry : Entry) :
    Untouched (some place) files (files.put place entry) :=
  ⟨rfl, fun other apart => by
    rw [thing?, thing?, entry?_put_of_ne (mt (congrArg some) apart)]⟩

end Untouched

variable {files after : Files} {location : Location}

end Files

/-! ### The log file -/

namespace Log.Output

open Files (Untouched)

/-- The place of the log file. -/
def place? (output : Output) (home : Place) : Option Place :=
  output.file.map fun file => file.location.target home

variable {files after : Files}

end Log.Output

/-! ### Runs -/

namespace CommandLine

open Files (Untouched)

/-- Whether commands are what changes files, and leave the working directory alone. -/
structure World.Regular (world : World) : Prop where
  idle : ∀ shell files, world.filesAfter shell files [] = files
  home : ∀ shell files commands, (world.filesAfter shell files commands).home = files.home

/-- How a command resolves a document, if it resolves any. -/
def Command.manner? : Command → Option Manner
  | .resolve _ manner _ _ | .get _ _ manner => some manner
  | .flatten .. => none

/-- The name of the document of a command. -/
def Command.source : Command → String
  | .resolve name _ _ _ | .get name _ _ | .flatten name _ => name

section

variable (world : World)

/-- The place of the log file of a run. -/
def logPlace? (command : Command) : Option Place :=
  match command.manner?.map (Bench.prepare world) with
  | some (.ok bench) => bench.log.place? world.files.home
  | _ => none

/-- What a command resolves with, and the commands that are run for the resolution, if it comes to
one. -/
def resolution? : Command → Option (Bench × List String)
  | .resolve name manner _ _ => do
    let bench ← (Bench.prepare world manner).toOption
    let document ← (readDocument bench.files world.input name).toOption
    let resolution := Resolution.ofDocument (bench.setup world) manner.debug document
    return (bench, resolution.journal.commands)
  | .get name key manner => do
    let bench ← (Bench.prepare world manner).toOption
    let document ← (readDocument bench.files world.input name).toOption
    let resolution := Resolution.ofKey (bench.setup world) (.value document) key
    return (bench, resolution.journal.commands)
  | .flatten .. => none

/-- Whether a place holds what it held before a run, or, if the run has run commands, what these
have left there, which began with it. -/
def HoldsOwn (command : Command) (after : Files) (place : Place) : Prop :=
  match resolution? world command with
  | some (bench, first :: rest) =>
    bench.files.thing? place = world.files.thing? place ∧ after.thing? place =
      (world.filesAfter bench.shell bench.files (first :: rest)).thing? place
  | _ => after.thing? place = world.files.thing? place

/-- Failures of the steps of a command: of preparing it, of reading its document, and of what it
does with that. -/
inductive Raised : Command → Failure → Prop
  | prepare {command : Command} {manner : Manner} {failure : Failure}
      (asked : command.manner? = some manner)
      (failed : Bench.prepare world manner = .error (.failure failure)) : Raised command failure
  | read {command : Command} {manner : Manner} {bench : Bench} {failure : Failure}
      (asked : command.manner? = some manner) (prepared : Bench.prepare world manner = .ok bench)
      (failed : readDocument bench.files world.input command.source = .error (.failure failure)) :
      Raised command failure
  | resolve {name : String} {manner : Manner} {target : Option String} {indent : Option Int}
      {bench : Bench} {document : Json} {failure : Failure}
      (prepared : Bench.prepare world manner = .ok bench)
      (read : readDocument bench.files world.input name = .ok document)
      (failed : (Resolution.ofDocument (bench.setup world) manner.debug document).result =
        .error (.failure failure)) :
      Raised (.resolve name manner target indent) failure
  | get {name key : String} {manner : Manner} {bench : Bench} {document : Json} {failure : Failure}
      (prepared : Bench.prepare world manner = .ok bench)
      (read : readDocument bench.files world.input name = .ok document)
      (failed : (Resolution.ofKey (bench.setup world) (.value document) key).result =
        .error (.failure failure)) :
      Raised (.get name key manner) failure
  | readFlat {name : String} {pendingOnly : Bool} {failure : Failure}
      (failed : readDocument world.files world.input name = .error (.failure failure)) :
      Raised (.flatten name pendingOnly) failure
  | flatten {name : String} {pendingOnly : Bool} {document : Json} {fault : Document.Fault}
      (read : readDocument world.files world.input name = .ok document)
      (failed : Flat.ofDocument document = .error fault) :
      Raised (.flatten name pendingOnly) (.document fault)

/-- Whether a text is where a run has to put it: on its output, or in a file, unless that is the log
file, or a device that swallows it. -/
def HandedOver (command : Command) (ending : Ending) (text : String) : Option String → Prop
  | none => ending.output = text
  | some name =>
    let place := (Location.ofText name).target world.files.home
    ending.output = "" ∧ (logPlace? world command ≠ some place →
      ending.files.thing? place = some (.file (Text.toBytes text)) ∨
        ending.files.thing? place = some .sink)

/-- Whether a command has handed over what it was asked for, and all of it. -/
def Delivered (ending : Ending) : Command → Prop
  | .resolve name manner target indent =>
    ∃ bench document resolved, Bench.prepare world manner = .ok bench ∧
      readDocument bench.files world.input name = .ok document ∧
      (Resolution.ofDocument (bench.setup world) manner.debug document).result = .ok resolved ∧
      HandedOver world (.resolve name manner target indent) ending
        (resolved.text (.indented (indent.getD bench.indent)) ++ "\n") target
  | .get name key manner =>
    ∃ bench document value, Bench.prepare world manner = .ok bench ∧
      readDocument bench.files world.input name = .ok document ∧
      (Resolution.ofKey (bench.setup world) (.value document) key).result = .ok value ∧
      ending.output = value.spliced ++ "\n"
  | .flatten name pendingOnly =>
    ∃ document flat, readDocument world.files world.input name = .ok document ∧
      Flat.ofDocument document = .ok flat ∧
      ending.output =
        (Json.obj (if pendingOnly then
            flat.entries.filter fun (_, value) => Session.isPending Placeholder.Kind.all value
          else flat.entries)).text (.indented 2) ++ "\n"

/-- How a command ends: it fails without a trace, or delivers. -/
structure EndsCleanly (command : Command) (ending : Ending) : Prop where
  silent : ending.status ≠ 0 → ending.output = ""
  raised : ∀ failure, ending.cause? = some (.halt (.failure failure)) →
    Raised world command failure
  kept : ending.status ≠ 0 → ∀ place, logPlace? world command ≠ some place →
    HoldsOwn world command ending.files place
  delivered : ending.status = 0 → Delivered world ending command

end

variable {world : World} {command : Command} {manner : Manner} {bench : Bench}

namespace EndsCleanly

theorem stopped {halt : Halt} {traces : Traces} (silent : traces.output = "")
    (raised : ∀ failure, halt = .failure failure → Raised world command failure)
    (kept : ∀ place, logPlace? world command ≠ some place →
      HoldsOwn world command traces.files place) :
    EndsCleanly world command (.stopped halt traces) where
  silent _ := silent
  raised failure cause := by
    cases cause
    exact raised failure rfl
  kept _ := kept
  delivered zero := absurd zero (Cause.status_ne_zero _)

theorem done {ending : Ending} (zero : ending.status = 0)
    (delivered : Delivered world ending command) : EndsCleanly world command ending where
  silent nonzero := absurd zero nonzero
  raised _ cause := by
    rw [Ending.status_eq_zero_iff.1 zero] at cause
    cases cause
  kept nonzero := absurd zero nonzero
  delivered _ := delivered

end EndsCleanly

/-! ### What happens beside the target -/

/-- A world with nothing but a document in the working directory, and the device that swallows what
is written to it. -/
def World.ofDocument (text : String) : World :=
  .ofShells ⟨["work"], [(["work"], .directory), (["dev"], .directory), (["dev", "null"], .sink),
    (["work", "doc.json"], .file (Text.toBytes text))]⟩ [] [] 0

end CommandLine

end ConfigTemplate
