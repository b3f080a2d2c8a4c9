import ConfigTemplate.Proofs.Flat.Reorder
import ConfigTemplate.Proofs.Resolution.Keys
import ConfigTemplate.Proofs.Session.Ledger

/-!
# Reordered documents

Where shorthands have to be unique, the order of a flat document decides in which order its keys are
resolved and nothing more. The values of the keys are the same in any order, and so are the commands
of each key. As every key is resolved once, the same commands are run, in another order maybe.
-/

namespace ConfigTemplate

open ConfigTemplate.Action

theorem Registry.not_recoversLoops_of_standard {registry : Registry}
    (standard : registry = .standard) : ¬ registry.RecoversLoops := by
  rintro ⟨respond, registered, _⟩
  rw [standard] at registered
  cases registered

namespace Session

variable {setup : Setup} {flat other : Flat} {key : String} {value : Json} {s t : Session}
variable {depth deeper : Nat}

/-- Whether two sessions hold two documents and have run the same commands. -/
structure Beside (flat other : Flat) (s t : Session) : Prop where
  first : s.flat = flat
  second : t.flat = other
  commands : s.journal.commands = t.journal.commands

theorem Beside.start (flat other : Flat) : Beside flat other (start flat) (start other) :=
  ⟨rfl, rfl, rfl⟩

theorem Beside.noted (h : Beside flat other s t) (event : Event) :
    Beside flat other (s.noted event) (t.noted event) := by
  refine ⟨h.first, h.second, ?_⟩
  have same := h.commands
  simp only [Journal.commands, Session.noted, List.reverse_cons, List.filterMap_append] at same ⊢
  rw [same]

theorem Beside.spent (h : Beside flat other s t) : s.spent = t.spent :=
  congrArg Multiset.ofList h.commands

/-- A key that a document does not have is not there in the end either. -/
theorem get?_final_resolveAll_of_not_mem (setup : Setup) (absent : key ∉ flat) :
    ((resolveAll setup).final (start flat)).flat.get? key = none := by
  refine Entries.get?_of_not_mem fun mem => absent ?_
  change key ∈ flat.keys
  rwa [← (retains_final_resolveAll setup flat).keys]

section Reordered

variable (unique : setup.options.uniqueMatch = true) (perm : other.entries.Perm flat.entries)
variable (straight : setup.registry.IsStraight)

include unique perm straight

/-- Sessions with a document and a reordered one run in parallel, as far as the first one is not
stopped. -/
theorem parallel_beside : Parallel True setup setup (Beside flat other) where
  kinds := rfl
  limit := .inl rfl
  registry := rfl
  looks := .inl straight
  noted h event _ := h.noted event
  resolve h key := by
    rw [h.first, h.second, unique]
    exact (Flat.resolve_of_perm perm key).imp_left fun stopped => ⟨trivial, stopped⟩
  pickArray h key := by
    rw [h.first, h.second, unique]
    exact (Flat.pickArray_of_perm perm key).imp_left fun stopped => ⟨trivial, stopped⟩
  elementPaths h key array := by
    rw [h.first, h.second]
    exact (Flat.elementPaths_of_perm perm key array).imp_left fun stopped => ⟨trivial, stopped⟩
  command _ _ := .runCommand (fun _ _ h => by rw [h.commands]) fun _ _ h => .of_eq rfl (h.noted _)
  read _ _ := ⟨fun _ _ h => .of_eq rfl (h.noted _), rfl⟩

/-- A key is resolved in a reordered document as it is in the document, with the same commands, when
its references come to the same values. -/
theorem resolveValue_of_perm (more : ∀ key value, valueWithin setup flat depth key = .ok value →
      valueWithin setup other deeper key = .ok value)
    (found : valueWithin setup flat (depth + 1) key = .ok value) :
    valueWithin setup other (deeper + 1) key = .ok value ∧
      ownCommands setup flat depth key = ownCommands setup other deeper key := by
  have enters : ∀ call, setup.registry.Makes call → Agree True (Beside flat other)
      ((answering (valueWithin setup flat depth)).answer call)
      ((answering (valueWithin setup other deeper)).answer call) :=
    straight.forall_makes fun key => agree_answering (more key)
  have held : (start flat).flat.get? key = (start other).flat.get? key :=
    (Flat.get?_eq_of_perm perm key).symm
  have agree : AgreeAt True (fun s t => s.spent = t.spent)
      (resolveValue setup (answering (valueWithin setup flat depth)) key)
      (resolveValue setup (answering (valueWithin setup other deeper)) key)
      (start flat) (start other) :=
    (parallel_beside unique perm straight).resolveValue enters (.start flat other) held
      fun related =>
      ⟨related.spent, fun _ => related.spent⟩
  refine ⟨agree.result_ok found, ?_⟩
  obtain ⟨_, halt, stopped⟩ | ⟨_, same⟩ := agree
  · cases stopped.symm.trans found
  · exact same

theorem valueWithin_of_perm (found : valueWithin setup flat depth key = .ok value) :
    valueWithin setup other depth key = .ok value := by
  induction depth generalizing key value with
  | zero => cases found
  | succ depth ih => exact (resolveValue_of_perm unique perm straight (fun _ _ => ih) found).1

/-- A key has the same value in any order of the document. -/
theorem hasValue_iff_of_perm : HasValue setup flat key value ↔ HasValue setup other key value :=
  ⟨fun ⟨depth, found⟩ => ⟨depth, valueWithin_of_perm unique perm straight found⟩,
    fun ⟨depth, found⟩ => ⟨depth, valueWithin_of_perm unique perm.symm straight found⟩⟩

omit straight

variable (oblivious : setup.IsOblivious) (loops : ¬ setup.registry.RecoversLoops)

include oblivious loops

/-- Everything is resolved with success in both orders or in none. -/
theorem result_resolveAll_iff_of_perm :
    (resolveAll setup).result (start flat) = .ok () ↔
      (resolveAll setup).result (start other) = .ok () := by
  rw [result_resolveAll_eq_ok_iff oblivious loops, result_resolveAll_eq_ok_iff oblivious loops]
  simp only [Flat.mem_iff_of_perm perm, hasValue_iff_of_perm unique perm oblivious.straight]

/-- Each key has the same value in the end. -/
theorem get?_final_resolveAll_of_perm (done : (resolveAll setup).result (start flat) = .ok ())
    (key : String) :
    ((resolveAll setup).final (start flat)).flat.get? key =
      ((resolveAll setup).final (start other)).flat.get? key := by
  have done' := (result_resolveAll_iff_of_perm unique perm oblivious loops).1 done
  by_cases mem : key ∈ flat
  · obtain ⟨value, present, known⟩ := get?_final_resolveAll oblivious loops done mem
    obtain ⟨value', present', known'⟩ := get?_final_resolveAll oblivious loops done'
      ((Flat.mem_iff_of_perm perm).2 mem)
    have same :=
      ((hasValue_iff_of_perm unique perm oblivious.straight).1 known).unique oblivious known'
    rw [present, present', same]
  · have absent := mem ∘ (Flat.mem_iff_of_perm perm).1
    rw [get?_final_resolveAll_of_not_mem setup mem, get?_final_resolveAll_of_not_mem setup absent]

/-- The same commands are run, since they are those of the same keys. -/
theorem spent_final_resolveAll_of_perm
    (done : (resolveAll setup).result (start flat) = .ok ()) :
    ((resolveAll setup).final (start flat)).spent =
      ((resolveAll setup).final (start other)).spent := by
  have done' := (result_resolveAll_iff_of_perm unique perm oblivious loops).1 done
  obtain ⟨depth, enough⟩ := exists_depth oblivious flat
  obtain ⟨depth', enough'⟩ := exists_depth oblivious other
  rw [spent_final_resolveAll oblivious loops enough done,
    spent_final_resolveAll oblivious loops enough' done',
    List.toFinset_eq_of_perm _ _ (Flat.keys_perm perm)]
  refine Finset.sum_congr rfl fun key listed => ?_
  obtain ⟨value, valued⟩ := (result_resolveAll_eq_ok_iff oblivious loops).1 done key
    (List.mem_toFinset.1 listed)
  have more : ∀ key value, valueWithin setup flat depth key = .ok value →
      valueWithin setup other depth' key = .ok value := fun key value found =>
    enough' key value ((hasValue_iff_of_perm unique perm oblivious.straight).1 ⟨depth, found⟩)
  exact (resolveValue_of_perm unique perm oblivious.straight more
    (valueWithin_succ oblivious (enough key value valued))).2

end Reordered

/-- Where shorthands have to be unique and the handlers are the usual ones, everything is resolved
with success in a document exactly if it is in the document in any other order. Every key has the
same value then, and the same commands were run, each as often, if only a command's output does not
depend on what was run before. -/
theorem resolveAll_of_perm (standard : setup.registry = .standard)
    (unique : setup.options.uniqueMatch = true) (oblivious : setup.host.IsOblivious)
    (perm : other.entries.Perm flat.entries) :
    ((resolveAll setup).result (start flat) = .ok () ↔
        (resolveAll setup).result (start other) = .ok ()) ∧
      ((resolveAll setup).result (start flat) = .ok () →
        (∀ key, ((resolveAll setup).final (start flat)).flat.get? key =
          ((resolveAll setup).final (start other)).flat.get? key) ∧
        ((resolveAll setup).final (start flat)).journal.commands.Perm
          ((resolveAll setup).final (start other)).journal.commands) := by
  have loops := Registry.not_recoversLoops_of_standard standard
  have oblivious : setup.IsOblivious := ⟨oblivious, standard ▸ Registry.isStraight_standard⟩
  refine ⟨result_resolveAll_iff_of_perm unique perm oblivious loops, fun done => ⟨?_, ?_⟩⟩
  · exact get?_final_resolveAll_of_perm unique perm oblivious loops done
  · rw [← Multiset.coe_eq_coe]
    exact spent_final_resolveAll_of_perm unique perm oblivious loops done

/-- Two keys run a command each, one of them a second time, and the elements of an array come in the
wrong order. Reordered, the document is resolved from the array on. -/
theorem resolveAll_of_perm_join :
    let host : Host := ⟨fun _ command => .output command, fun _ => none, false⟩
    let setup : Setup := ⟨.standard, host, .standard⟩
    let flat := Flat.ofList [("a", .str "$(x)$\x7bl.join(-)\x7d$(y)"), ("m.l[1]", .str "$(y)"),
      ("m.l[0]", .int 1)]
    let other := Flat.ofList [("m.l[0]", .int 1), ("m.l[1]", .str "$(y)"),
      ("a", .str "$(x)$\x7bl.join(-)\x7d$(y)")]
    setup.registry = .standard ∧ setup.options.uniqueMatch = true ∧ setup.host.IsOblivious ∧
      other.entries.Perm flat.entries ∧ (resolveAll setup).result (start flat) = .ok () ∧
      ((resolveAll setup).final (start flat)).flat.get? "a" = some (.str "x1-yy") ∧
      (resolveAll setup).result (start other) = .ok () ∧
      ((resolveAll setup).final (start other)).flat.get? "a" = some (.str "x1-yy") ∧
      ["y", "x", "y"].Perm ((resolveAll setup).final (start other)).journal.commands := by
  intro host setup flat other
  have oblivious : setup.host.IsOblivious := fun _ _ => rfl
  have reversed : other.entries = flat.entries.reverse := by cbv
  have perm : other.entries.Perm flat.entries := reversed ▸ List.reverse_perm _
  have done : (resolveAll setup).result (start flat) = .ok () := by cbv
  have value : ((resolveAll setup).final (start flat)).flat.get? "a" = some (.str "x1-yy") := by
    cbv
  have commands : ((resolveAll setup).final (start flat)).journal.commands = ["y", "x", "y"] := by
    cbv
  obtain ⟨iff, same⟩ := resolveAll_of_perm rfl rfl oblivious perm
  obtain ⟨values, ran⟩ := same done
  rw [commands] at ran
  exact ⟨rfl, rfl, oblivious, perm, done, value, iff.1 done, (values "a").symm.trans value, ran⟩

end Session

end ConfigTemplate
