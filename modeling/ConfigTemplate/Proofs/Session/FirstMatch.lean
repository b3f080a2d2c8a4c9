import ConfigTemplate.Proofs.Session.Interchange

/-!
# Unique and first matches

Where several paths match a key, a setup that asks for unique matches stops the work, and another
one takes the first path. The failure of an ambiguous key is offered to no handler, so work that
comes to an end with unique matches has met no ambiguous key. It takes the same course where first
matches are taken: it gives the same value and leaves the same session behind, down to the commands
that were run. A handler that is not straight may see a call of its own fail and go on, so handlers
are straight here.
-/

namespace ConfigTemplate

open ConfigTemplate.Action

/-- A setup in which a match has to be unique, or need not be. -/
def Setup.withUnique (setup : Setup) (unique : Bool) : Setup :=
  { setup with options := { setup.options with uniqueMatch := unique } }

namespace Flat

variable (flat : Flat) (key : String)

/-- A match that is unique is the first one. -/
theorem pick_of_unique (paths : List String) :
    (∃ failure, pick true key paths = .error failure ∧ failure.kind ≠ .keyNotFound) ∨
      pick true key paths = pick false key paths := by
  match paths with
  | [] => exact .inr rfl
  | [path] => exact .inr rfl
  | path :: next :: rest => exact .inl ⟨_, rfl, by simp [Failure.kind]⟩

/-- A key that is not ambiguous leads to the same path, or is missing, also where the first match is
taken. -/
theorem resolve_of_unique :
    (∃ failure, flat.resolve true key = .error failure ∧ failure.kind ≠ .keyNotFound) ∨
      flat.resolve true key = flat.resolve false key := by
  unfold resolve
  split
  · exact .inr rfl
  · exact pick_of_unique key _

theorem pickArray_of_unique :
    (∃ failure, flat.pickArray true key = .error failure ∧ failure.kind ≠ .keyNotFound) ∨
      flat.pickArray true key = flat.pickArray false key := by
  unfold pickArray
  dsimp only
  split
  · exact .inr rfl
  · exact pick_of_unique key _

end Flat

/-- A setup with unique matches may be interchanged with one that takes first matches, as long as
nothing stops the work. -/
theorem interchangeable_withUnique {setup : Setup} (straight : setup.registry.IsStraight) :
    Interchangeable True (setup.withUnique true) (setup.withUnique false) (· = ·) := by
  refine .of_options (.inl straight) rfl (.inl rfl) (fun flat key => ?_) (fun flat key => ?_)
  · obtain ambiguous | same := flat.resolve_of_unique key
    · exact .inl ⟨trivial, ambiguous⟩
    · exact .inr same
  · obtain ⟨failure, stopped, _⟩ | same := flat.pickArray_of_unique key
    · exact .inl ⟨trivial, failure, stopped⟩
    · exact .inr same

namespace Session

/-- A call that gives an answer with unique matches gives the same answer where first matches are
taken, and leaves the same session behind: the same document, the same marks and the same journal,
hence the same commands in the same order. -/
theorem answer_of_unique (setup : Setup) (straight : setup.registry.IsStraight) (call : Call)
    (s : Session) {value : Json}
    (answered : (call.answer (setup.withUnique true)).result s = .ok value) :
    (call.answer (setup.withUnique false)).result s = .ok value ∧
      (call.answer (setup.withUnique false)).final s =
        (call.answer (setup.withUnique true)).final s := by
  have agree := call.agree_answer (interchangeable_withUnique straight) s s rfl
  obtain ⟨_, halt, stopped⟩ | ⟨results, finals⟩ := agree
  · rw [answered] at stopped
    cases stopped
  · exact ⟨results.symm.trans answered, finals.symm⟩

/-- A reference to a join expression over a shorthand of an array. -/
theorem answer_of_unique_shorthand :
    let setup : Setup :=
      ⟨.standard, ⟨fun _ command => .output command, fun _ => some "v", true⟩, .standard⟩
    let s := start (Flat.ofList
      [("a", .str "$\x7bl.join(-)\x7d"), ("x.l[0]", .str "$V"), ("x.l[1]", .str "$(c)")])
    let call : Call := .lookup "a"
    setup.registry.IsStraight ∧
      (call.answer (setup.withUnique true)).result s = .ok (.str "v-c") ∧
      (call.answer (setup.withUnique false)).result s = .ok (.str "v-c") ∧
      (call.answer (setup.withUnique false)).final s =
        (call.answer (setup.withUnique true)).final s := by
  intro setup s call
  have answered : (call.answer (setup.withUnique true)).result s = .ok (.str "v-c") := by cbv
  have straight : setup.registry.IsStraight := Registry.isStraight_standard
  exact ⟨straight, answered, answer_of_unique setup straight call s answered⟩

end Session

end ConfigTemplate
