import ConfigTemplate.Flat.Shared
import ConfigTemplate.Main
import ConfigTemplate.Path.Write
import ConfigTemplate.Proofs.CommandLine.Run
import ConfigTemplate.Proofs.Entries
import ConfigTemplate.Proofs.Flat.Array
import ConfigTemplate.Proofs.Flat.Elements
import ConfigTemplate.Proofs.Flat.Leaves
import ConfigTemplate.Proofs.Flat.Overlap
import ConfigTemplate.Proofs.Flat.Rebuild
import ConfigTemplate.Proofs.Flat.Refusal
import ConfigTemplate.Proofs.Flat.Reorder
import ConfigTemplate.Proofs.Flat.RoundTrip
import ConfigTemplate.Proofs.Flat.Shorthand
import ConfigTemplate.Proofs.Join
import ConfigTemplate.Proofs.Json.Alike
import ConfigTemplate.Proofs.Json.Leaves
import ConfigTemplate.Proofs.Json.Scalar
import ConfigTemplate.Proofs.Path.Assign
import ConfigTemplate.Proofs.Path.Leaves
import ConfigTemplate.Proofs.Path.Text
import ConfigTemplate.Proofs.Placeholder.Command
import ConfigTemplate.Proofs.Placeholder.Grammar
import ConfigTemplate.Proofs.Placeholder.Reference
import ConfigTemplate.Proofs.Placeholder.Template
import ConfigTemplate.Proofs.Resolution.Keys
import ConfigTemplate.Proofs.Resolution.Observed
import ConfigTemplate.Proofs.Resolution.Reorder
import ConfigTemplate.Proofs.Resolution.Shape
import ConfigTemplate.Proofs.Session.Acyclic
import ConfigTemplate.Proofs.Session.Addressing
import ConfigTemplate.Proofs.Session.Aftermath
import ConfigTemplate.Proofs.Session.Agreement
import ConfigTemplate.Proofs.Session.Alarm
import ConfigTemplate.Proofs.Session.Commands
import ConfigTemplate.Proofs.Session.Conclusion
import ConfigTemplate.Proofs.Session.Conduct
import ConfigTemplate.Proofs.Session.Cost
import ConfigTemplate.Proofs.Session.Course
import ConfigTemplate.Proofs.Session.Dependencies
import ConfigTemplate.Proofs.Session.Depth
import ConfigTemplate.Proofs.Session.Escape
import ConfigTemplate.Proofs.Session.Expansion
import ConfigTemplate.Proofs.Session.Faithful
import ConfigTemplate.Proofs.Session.FirstMatch
import ConfigTemplate.Proofs.Session.History
import ConfigTemplate.Proofs.Session.Interchange
import ConfigTemplate.Proofs.Session.Internal
import ConfigTemplate.Proofs.Session.Invariant
import ConfigTemplate.Proofs.Session.Joined
import ConfigTemplate.Proofs.Session.Ledger
import ConfigTemplate.Proofs.Session.Limit
import ConfigTemplate.Proofs.Session.Loops
import ConfigTemplate.Proofs.Session.Marks
import ConfigTemplate.Proofs.Session.Memory
import ConfigTemplate.Proofs.Session.Mirror
import ConfigTemplate.Proofs.Session.Precedence
import ConfigTemplate.Proofs.Session.References
import ConfigTemplate.Proofs.Session.Run
import ConfigTemplate.Proofs.Session.Substitution
import ConfigTemplate.Proofs.Session.Trail
import ConfigTemplate.Proofs.Session.Value
import ConfigTemplate.Proofs.Session.Watch
import ConfigTemplate.Proofs.Session.Withheld
import ConfigTemplate.Proofs.Settings.Layers
import ConfigTemplate.Proofs.Settings.Rules
