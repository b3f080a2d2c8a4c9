import ConfigTemplate.Proofs.Session.Conclusion
import ConfigTemplate.Proofs.Session.Precedence

/-!
# Placeholders that are withheld

Without commands and variables a session leaves the other placeholders of a value as they are. When
it settles a key it notes each of them, once and in their order. What was noted of a key at any
later time are the placeholders of its value, and of a key that is not resolved nothing was noted.

A key becomes resolved when its string holds a reference, or a reference leads to it. So a value
that has none but the other placeholders and that nothing refers to keeps them without a word.
-/

namespace ConfigTemplate

/-- The source texts of the placeholders of a value. -/
def Json.placeholders : Json → List String
  | .str text => (Placeholder.findAll text).map Placeholder.text
  | _ => []

/-- The placeholder that an event says is left in the value of a key. -/
def Event.withheldIn? (key : String) : Event → Option String
  | .withheld owner placeholder => if owner = key then some placeholder else none
  | _ => none

theorem Event.withheldIn?_eq_some_iff {event : Event} {key placeholder : String} :
    event.withheldIn? key = some placeholder ↔ event = .withheld key placeholder := by
  cases event <;> simp [withheldIn?]

theorem Event.IsAside.withheldIn?_eq {event : Event} (h : event.IsAside) (key : String) :
    event.withheldIn? key = none := by
  cases event with
  | withheld => exact h.elim
  | _ => rfl

namespace Journal

variable {journal : Journal} {event : Event} {key other : String}

/-- The placeholders that were left in the value of a key, in the order in which they were noted. -/
def withheld (journal : Journal) (key : String) : List String :=
  journal.reverse.filterMap (Event.withheldIn? key)

theorem withheld_cons_of_none (h : event.withheldIn? key = none) :
    withheld (event :: journal) key = journal.withheld key := by
  simp [withheld, h]

theorem withheld_append (later : Journal) :
    withheld (later ++ journal) key = journal.withheld key ++ later.withheld key := by
  simp [withheld]

/-- Notes on the placeholders of a key are about that key. -/
theorem withheld_notes (key : String) (placeholders : List String) :
    withheld (placeholders.map (.withheld key)).reverse key = placeholders := by
  simp [withheld, List.filterMap_map, Function.comp_def, Event.withheldIn?]

theorem withheld_notes_of_ne (apart : key ≠ other) (placeholders : List String) :
    withheld (placeholders.map (.withheld key)).reverse other = [] := by
  simp [withheld, List.filterMap_map, Function.comp_def, Event.withheldIn?, apart]

/-- The log tells of each placeholder that was left in a value. -/
theorem sublist_records (journal : Journal) (key : String) :
    ((journal.withheld key).map fun placeholder =>
      (⟨.info, "jresolve.core.engine",
        s!"Dry run: leaving {placeholder} unresolved in '{key}'"⟩ : Log.Record)).Sublist
      journal.records := by
  unfold withheld records
  induction journal.reverse with
  | nil => exact List.Sublist.slnil
  | cons event events ih =>
    cases noted : event.withheldIn? key with
    | none =>
      rw [List.filterMap_cons_none noted]
      exact ih.trans ((List.sublist_cons_self event events).filterMap _)
    | some placeholder =>
      obtain rfl := Event.withheldIn?_eq_some_iff.1 noted
      rw [List.filterMap_cons_some noted]
      exact ih.cons_cons _

end Journal

namespace Session

open ConfigTemplate.Action Placeholder

variable {setup : Setup} {flat : Flat} {underway : List String} {s t : Session} {key : String}
variable {value : Json}

/-- What is withheld of a value is added to the journal. -/
theorem journal_noteWithheld (internal : setup.options.external = false) (key : String)
    (value : Json) (s : Session) : ((noteWithheld setup key value).final s).journal =
      (value.placeholders.map (.withheld key)).reverse ++ s.journal := by
  have each (ps : List Placeholder) : ∀ s : Session,
      ((ps.forM fun p => note (.withheld key p.text)).final s).journal =
        ((ps.map Placeholder.text).map (.withheld key)).reverse ++ s.journal := by
    induction ps with
    | nil => exact fun _ => rfl
    | cons p ps ih =>
      intro s
      refine (ih (s.noted (.withheld key p.text))).trans ?_
      simp [noted]
  cases value with
  | str text =>
    rw [noteWithheld, internal]
    exact each _ s
  | _ => rfl

/-- Whether the placeholders of each resolved value were noted, those of no other value, and the
keys that are not resolved hold what they hold in a flat document. -/
structure Tells (flat : Flat) (underway : List String) (s : Session) : Prop
    extends Tracks flat underway s where
  told : ∀ key value, s.mark key = .resolved → s.flat.get? key = some value →
    s.journal.withheld key = value.placeholders
  silent : ∀ key, s.mark key ≠ .resolved → s.journal.withheld key = []

namespace Tells

theorem start (flat : Flat) : Tells flat [] (start flat) where
  toTracks := .start flat
  told key value known := by simp at known
  silent _ _ := rfl

/-- Events and marks that leave the resolved keys as they are may be added, as long as nothing is
noted to be left in a value. -/
theorem of_sameMemory (h : Tells flat underway s) (same : SameMemory s t)
    (journal : ∀ key, t.journal.withheld key = s.journal.withheld key) :
    Tells flat underway t where
  toTracks := h.toTracks.of_sameMemory same
  told key value known present := by
    rw [journal]
    exact h.told key value ((same.resolved key).1 known) (same.flat ▸ present)
  silent key unresolved := by
    rw [journal]
    exact h.silent key fun known => unresolved ((same.resolved key).2 known)

theorem aside (h : Tells flat underway s) (event : Event) (aside : event.IsAside) :
    Tells flat underway (s.noted event) :=
  h.of_sameMemory (sameMemory_noted ..) fun key =>
    Journal.withheld_cons_of_none (aside.withheldIn?_eq key)

/-- A key that is entered is being resolved as well. -/
theorem entering (h : Tells flat underway s) (unresolved : s.mark key ≠ .resolved) :
    Tells flat (underway ++ [key]) (s.entering key) :=
  .of_sameMemory ⟨h.toTracks.append unresolved, h.told, h.silent⟩
    (sameMemory_entering unresolved) fun _ => Journal.withheld_cons_of_none rfl

theorem gaveUpOn (h : Tells flat (underway ++ [key]) s) : Tells flat underway (s.gaveUpOn key) :=
  .of_sameMemory ⟨h.toTracks.of_append, h.told, h.silent⟩
    (sameMemory_gaveUpOn h.unresolved) fun _ => Journal.withheld_cons_of_none rfl

/-- When a key is settled, the placeholders of its value are noted. -/
theorem noteWithheld (internal : setup.options.external = false)
    (h : Tells flat (underway ++ [key]) s) (fresh : key ∉ underway) (change : Settled s key value t)
    (journal : t.journal = .settled key value :: s.journal) :
    Tells flat underway ((noteWithheld setup key value).final t) := by
  have same := sameMemory_noteWithheld setup key value t
  have before (other : String) : t.journal.withheld other = s.journal.withheld other := by
    rw [journal]
    exact Journal.withheld_cons_of_none rfl
  -- Nothing was noted of the key while it was not resolved, so what is noted now is all.
  have own : ((Session.noteWithheld setup key value).final t).journal.withheld key =
      value.placeholders := by
    rw [journal_noteWithheld internal, Journal.withheld_append, Journal.withheld_notes, before,
      h.silent key h.unresolved, List.nil_append]
  have others {other : String} (apart : key ≠ other) :
      ((Session.noteWithheld setup key value).final t).journal.withheld other =
        s.journal.withheld other := by
    rw [journal_noteWithheld internal, Journal.withheld_append,
      Journal.withheld_notes_of_ne apart, List.append_nil, before]
  refine ⟨(h.toTracks.settled fresh change).of_sameMemory same, fun other found known present => ?_,
    fun other unresolved => ?_⟩
  · rw [same.flat] at present
    by_cases here : key = other
    · subst here
      obtain rfl := Option.some.inj (present.symm.trans change.value)
      exact own
    · rw [others here]
      rw [same.resolved, change.marks other here] at known
      exact h.told other found known ((change.values other here).symm.trans present)
  · have apart : key ≠ other := by
      rintro rfl
      exact unresolved ((same.resolved key).2 change.mark)
    rw [others apart]
    exact h.silent other fun known =>
      unresolved ((same.resolved other).2 ((change.marks other apart).trans known))

end Tells

/-! ### The work on a key -/

section Work

variable (internal : setup.options.external = false)

include internal

/-- To enter a key is to tell in the end of what is left in its value. -/
theorem tells_enterKey {enter : Enter}
    (enters : ∀ call, Keeps (Tells flat (underway ++ [key])) (enter.answer call))
    (fresh : key ∉ underway) (unresolved : s.mark key ≠ .resolved) (h : Tells flat underway s) :
    Tells flat underway ((enterKey setup enter key).final s) := by
  have entered := h.entering unresolved
  cases present : (s.entering key).flat.get? key with
  | none =>
    rw [final_enterKey_of_error (result_resolveValue_of_none present),
      final_resolveValue_of_none present]
    exact entered.gaveUpOn
  | some value =>
    obtain ⟨text, rfl⟩ | other := value.eq_str_or
    · have kept : Tells flat (underway ++ [key])
          ((substituteAll setup enter (some key) text).final (s.entering key)) :=
        keeps_substituteAll Tells.aside (fun call _ => enters call) (some key) text _ entered
      have result : (resolveValue setup enter key).result (s.entering key) =
          ((substituteAll setup enter (some key) text).result (s.entering key)).map .str :=
        result_resolveValue_of_str present
      cases done : (substituteAll setup enter (some key) text).result (s.entering key) with
      | error halt =>
        rw [done] at result
        rw [final_enterKey_of_error result, final_resolveValue_of_error present done]
        exact kept.gaveUpOn
      | ok new =>
        rw [done] at result
        rw [final_enterKey_of_ok result, final_resolveValue_of_ok present done]
        have unchanged := kept.original.trans (entered.original.symm.trans present)
        exact kept.noteWithheld internal fresh (settled_stored unchanged new) rfl
    · rw [final_enterKey_of_ok (result_resolveValue_of_ne_str present other),
        final_resolveValue_of_ne_str present other]
      exact entered.noteWithheld internal fresh (settled_settledOn present) rfl

section Deeper

variable {deeper : Trail → Enter}
variable (deep : ∀ trail call, Keeps (Tells flat trail.keys) ((deeper trail).answer call))

include deep

/-- One step tells of what it leaves in a value when the deeper steps do. -/
theorem tells_resolveStep (trail : Trail) (key : String) :
    Keeps (Tells flat trail.keys) (resolveStep setup deeper trail key) := by
  refine .get_bind fun s h => ?_
  split
  · split <;> exact h
  next unresolved =>
    split
    · exact ((keeps_recover Tells.aside (fun call _ => deep trail call) _).bind
        fun _ => .pure _) s h
    next longer pushed =>
      have keys := Trail.keys_of_push pushed
      exact tells_enterKey internal (keys ▸ deep longer) (Trail.not_mem_of_push pushed) unresolved h

theorem tells_answerStep (trail : Trail) (call : Call) :
    Keeps (Tells flat trail.keys) ((answerStep setup deeper trail).answer call) :=
  keeps_answerStep Tells.aside (tells_resolveStep internal deep trail) (deep trail) call

end Deeper

theorem tells_resolveOn (room : Nat) (trail : Trail) (call : Call) :
    Keeps (Tells flat trail.keys) ((resolveOn setup room trail).answer call) := by
  induction room generalizing trail call with
  | zero => exact tells_answerStep internal (fun _ _ => .breakOff _) trail call
  | succ room ih => exact tells_answerStep internal ih trail call

theorem tells_resolveKey (key : String) : Keeps (Tells flat []) (resolveKey setup key) :=
  .get_bind fun s h => tells_resolveOn internal _ .empty (.resolveKey key) s h

/-- The resolution of everything tells of what it leaves in values. -/
theorem tells_resolveAll (flat : Flat) : Tells flat [] ((resolveAll setup).final (start flat)) :=
  keeps_resolvePending (tells_resolveKey internal) Tells.aside _ (.start flat)

end Work

/-! ### What is told in the end -/

/-- With the usual handlers, what the string of a key refers to is resolved with it, if every
substitution made progress. -/
theorem mark_of_mentions (standard : setup.registry = .standard) (flat : Flat)
    (done : (resolveAll setup).result (start flat) = .ok ())
    (progresses : ((resolveAll setup).final (start flat)).journal.Progresses) {owner : String}
    (mentions : Mentions setup flat owner key) :
    ((resolveAll setup).final (start flat)).mark key = .resolved := by
  obtain ⟨goesOn, resolved⟩ := (proceeds_resolveAll standard flat).ok done
  obtain ⟨text, payload, present, held, leads⟩ := mentions
  have known := resolved owner (mem_pending_of_holdsReference present held)
  have pair :=
    (goesOn.ordered.comesLast progresses owner known text payload present held).2 key leads
  exact (goesOn.ordered.settled_iff key).1 (pair.subset (by simp))

/-- After everything was resolved without commands and variables, each placeholder that is left in
the value of a resolved key was noted for that key, once and in order, and the log says so. Of a key
that is not resolved nothing was noted: its value is that of the document, and no reference is in
it. Keys that a reference leads to are resolved, if every substitution made progress. -/
theorem withheld_resolveAll (internal : setup.options.external = false) (flat : Flat)
    (done : (resolveAll setup).result (start flat) = .ok ()) :
    let final := (resolveAll setup).final (start flat)
    (∀ key text, final.mark key = .resolved → final.flat.get? key = some (.str text) →
      final.journal.withheld key = (findAll text).map Placeholder.text ∧
        ((findAll text).map fun p => (⟨.info, "jresolve.core.engine",
          s!"Dry run: leaving {p.text} unresolved in '{key}'"⟩ : Log.Record)).Sublist
          final.journal.records) ∧
    (∀ key, final.mark key ≠ .resolved →
      final.journal.withheld key = [] ∧ final.flat.get? key = flat.get? key ∧
        ∀ text payload, flat.get? key = some (.str text) → ¬ HoldsReference text payload) ∧
    (setup.registry = .standard → final.journal.Progresses →
      ∀ owner key, Mentions setup flat owner key → final.mark key = .resolved) := by
  intro final
  have tells : Tells flat [] final := tells_resolveAll internal flat
  refine ⟨fun key text known present => ?_, fun key unresolved => ?_,
    fun standard progresses owner key => mark_of_mentions standard flat done progresses⟩
  · have told : final.journal.withheld key = (findAll text).map Placeholder.text :=
      tells.told key _ known present
    have logged := final.journal.sublist_records key
    rw [told, List.map_map] at logged
    exact ⟨told, logged⟩
  · refine ⟨tells.silent key unresolved, tells.others key unresolved, ?_⟩
    intro text payload present held
    exact unresolved (mark_resolveAll done key (mem_pending_of_holdsReference present held))

/-- The placeholders that a string takes over are noted with its own, and those of the element of a
joined array as well. -/
theorem withheld_resolveAll_join :
    let setup : Setup :=
      ⟨⟨true, false, 1000⟩, ⟨fun _ _ => .output "", fun _ => none, false⟩, .standard⟩
    let flat := Flat.ofList [("a", .str "$X$\x7bb\x7d"), ("b", .str "$\x7bl.join(,)\x7d$X"),
      ("l[0]", .str "$(c)")]
    setup.options.external = false ∧ (resolveAll setup).result (start flat) = .ok () ∧
      ((resolveAll setup).final (start flat)).flat.get? "a" = some (.str "$X$(c)$X") ∧
      ((resolveAll setup).final (start flat)).journal.withheld "a" = ["$X", "$(c)", "$X"] ∧
      ((resolveAll setup).final (start flat)).journal.withheld "l[0]" = ["$(c)"] := by
  intro setup flat
  have done : (resolveAll setup).result (start flat) = .ok () := by
    dsimp only [setup, flat]
    cbv
  have internal : setup.options.external = false := rfl
  have told := (withheld_resolveAll internal flat done).1
  have whole : ((resolveAll setup).final (start flat)).flat.get? "a" =
      some (.str "$X$(c)$X") := by
    dsimp only [setup, flat]
    cbv
  have element : ((resolveAll setup).final (start flat)).flat.get? "l[0]" =
      some (.str "$(c)") := by
    dsimp only [setup, flat]
    cbv
  have first := (told "a" _ (by cbv) whole).1
  have second := (told "l[0]" _ (by cbv) element).1
  exact ⟨internal, done, whole, first.trans (by cbv), second.trans (by cbv)⟩

/-- A variable in a value without references is left there, and the log says nothing of it. -/
theorem withheld_resolveAll_unresolved :
    let setup : Setup :=
      ⟨⟨true, false, 1000⟩, ⟨fun _ _ => .output "", fun _ => none, false⟩, .standard⟩
    let flat := Flat.ofList [("a", .str "$X"), ("b", .str "$\x7bc\x7d"), ("c", .int 1)]
    (resolveAll setup).result (start flat) = .ok () ∧
      ((resolveAll setup).final (start flat)).flat.get? "a" = some (.str "$X") ∧
      (findAll "$X").map Placeholder.text = ["$X"] ∧
      ∀ record ∈ ((resolveAll setup).final (start flat)).journal.records,
        record.message ≠ "Dry run: leaving $X unresolved in 'a'" := by
  intro setup flat
  dsimp only [setup, flat]
  refine ⟨by cbv, by cbv, by cbv, ?_⟩
  have others : ((resolveAll setup).final (start flat)).journal.records.all
      (·.message ≠ "Dry run: leaving $X unresolved in 'a'") = true := by cbv
  simpa using others

end Session

end ConfigTemplate
