import ConfigTemplate.Proofs.Session.Interchange
import ConfigTemplate.Proofs.Session.Substitution

/-!
# The limit of substitutions

With a higher limit, work that came to an end takes the same course. The limit itself is exact: it
stops a text when as many substitutions were made as it allows, each of them changed the text, and
a placeholder is left. A text that has none left by then comes out.
-/

namespace ConfigTemplate

open ConfigTemplate.Action

/-- A setup with another limit of substitutions. -/
def Setup.withLimit (setup : Setup) (limit : Int) : Setup :=
  { setup with options := { setup.options with limit } }

/-- A limit may be interchanged with a higher one, as long as nothing stops the work. -/
theorem interchangeable_withLimit {setup : Setup} (straight : setup.registry.IsStraight)
    {low high : Int} (le : low ≤ high) :
    Interchangeable True (setup.withLimit low) (setup.withLimit high) (· = ·) :=
  .of_options (.inl straight) rfl (.inr ⟨trivial, le⟩) (fun _ _ => .inr rfl) fun _ _ => .inr rfl

namespace Session

variable {setup : Setup} {enter : Enter} {owner : Option String} {made : Nat}
variable {text last : String} {s t : Session}

/-- A text comes out when no placeholder is left after as many substitutions as are allowed, or
after fewer ones. -/
theorem Substituted.substituteAll_eq (run : Substituted setup enter owner made text s last t)
    (within : made ≤ setup.options.limit.toNat)
    (none : Placeholder.scan (kinds setup) last = none) :
    (substituteAll setup enter owner text).result s = .ok last ∧
      (substituteAll setup enter owner text).final s = t := by
  obtain ⟨left, enough⟩ := Nat.exists_eq_add_of_le within
  obtain ⟨result, final⟩ := run.substitute_eq left
  rw [substituteAll, enough, result, final, substitute_of_scan none]
  exact ⟨result_pure .., final_pure ..⟩

/-- A call that gives an answer gives the same answer with a higher limit, and leaves the same
session behind, if handlers are straight. With any limit and any handlers, a text is stopped of
itself exactly when all substitutions that are allowed were made on it, each of which changed it,
and a placeholder is left, which the failure names. When none is left after so many substitutions,
the text comes out. -/
theorem answer_of_limit (setup : Setup) {low high : Int} (le : low ≤ high) :
    (setup.registry.IsStraight → ∀ (call : Call) s value,
      (call.answer (setup.withLimit low)).result s = .ok value →
      (call.answer (setup.withLimit high)).result s = .ok value ∧
        (call.answer (setup.withLimit high)).final s =
          (call.answer (setup.withLimit low)).final s) ∧
    ∀ enter owner text s,
      (∀ halt, StopsItself (setup.withLimit low) enter owner text s halt ↔
        ∃ last t p, Substituted (setup.withLimit low) enter owner low.toNat text s last t ∧
          Placeholder.scan (kinds setup) last = some p ∧
          halt = .failure (.substitutionLimit (ownerOr last owner) low p.text)) ∧
      ∀ made last t, made ≤ low.toNat →
        Substituted (setup.withLimit low) enter owner made text s last t →
        Placeholder.scan (kinds setup) last = none →
          (substituteAll (setup.withLimit low) enter owner text).result s = .ok last ∧
            (substituteAll (setup.withLimit low) enter owner text).final s = t := by
  refine ⟨fun straight call s value answered => ?_, fun enter owner text s => ⟨fun halt => ?_, ?_⟩⟩
  · exact (call.agree_answer (interchangeable_withLimit straight le) s s rfl).ok answered
  · exact stopsItself_iff
  · intro made last t within run none
    exact run.substituteAll_eq within none

/-- A value that takes as many substitutions as are allowed comes out, and a text that takes one
more does not. -/
theorem answer_of_limit_boundary :
    let setup : Setup := ⟨.standard, ⟨fun _ _ => .output "", fun _ => some "v", false⟩, .standard⟩
    let s := start (Flat.ofList [("a", .str "$\x7bb\x7d$X"), ("b", .str "$X")])
    let call : Call := .resolveKey "a"
    (2 : Int) ≤ 3 ∧ setup.registry.IsStraight ∧
      (call.answer (setup.withLimit 2)).result s = .ok (.str "vv") ∧
      (call.answer (setup.withLimit 3)).result s = .ok (.str "vv") ∧
      StopsItself (setup.withLimit 2) (atRest (setup.withLimit 2)) none "$\x7bb\x7d$X$X" s
        (.failure (.substitutionLimit "vv$X" 2 "$X")) := by
  intro setup s call
  have le : (2 : Int) ≤ 3 := by decide
  have answered : (call.answer (setup.withLimit 2)).result s = .ok (.str "vv") := by cbv
  have value : (replacement (setup.withLimit 2) (atRest (setup.withLimit 2)) none
      "$\x7bb\x7d$X$X" ⟨.reference, "b", 0⟩).result s = .ok "v" := by cbv
  have first : Placeholder.splice ⟨.reference, "b", 0⟩ "$\x7bb\x7d$X$X" "v" = "v$X$X" := by cbv
  have read : ∀ t, (replacement (setup.withLimit 2) (atRest (setup.withLimit 2)) none "v$X$X"
      ⟨.envVar, "X", 1⟩).result t = .ok "v" := fun _ => rfl
  have second : Placeholder.splice ⟨.envVar, "X", 1⟩ "v$X$X" "v" = "vv$X" := by cbv
  have more (u : Session) : ∃ t, Substituted (setup.withLimit 2) (atRest (setup.withLimit 2))
      none 1 "v$X$X" u "vv$X" t := by
    apply Exists.intro
    apply Substituted.step (by cbv) (read u) (by rw [second]; decide)
    rw [second]
    exact .start ..
  obtain ⟨t, rest⟩ := more _
  have run : Substituted (setup.withLimit 2) (atRest (setup.withLimit 2)) none 2
      "$\x7bb\x7d$X$X" s "vv$X" t :=
    .step (by cbv) value (by rw [first]; decide) (first ▸ rest)
  obtain ⟨same, exact⟩ := answer_of_limit setup le
  have straight : setup.registry.IsStraight := Registry.isStraight_standard
  refine ⟨le, straight, answered, (same straight call s _ answered).1, ?_⟩
  exact ((exact (atRest (setup.withLimit 2)) none "$\x7bb\x7d$X$X" s).1 _).2
    ⟨"vv$X", t, ⟨.envVar, "X", 2⟩, run, by cbv, by cbv⟩

end Session

end ConfigTemplate
