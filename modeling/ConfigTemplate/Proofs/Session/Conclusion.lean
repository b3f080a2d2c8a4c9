import ConfigTemplate.Proofs.Placeholder.Source
import ConfigTemplate.Proofs.Session.Course
import Mathlib

/-!
# What is left of a text

A text that was substituted has no placeholder left, or the substitution stalled: what was last
obtained for the first placeholder of the text was the placeholder itself. The journal tells so, and
since a resolved key is not entered again it remains the last word on the key.
-/

namespace ConfigTemplate

namespace Session

variable {setup : Setup} {key text : String} {s t : Session}

/-- Whether a key was resolved to a text because its substitution stalled: the last replacement that
was obtained for the first placeholder of the text was the source text of that placeholder, and the
key was not entered again. -/
def StalledOn (setup : Setup) (s : Session) (key text : String) : Prop :=
  ∃ p after before, Placeholder.scan (kinds setup) text = some p ∧
    s.journal = after ++ .settled key (.str text) ::
      .stalled (ownerOr text (some key)) p.text :: .replaced text p p.text :: before ∧
    .entered key ∉ after

/-- Whether the text of a key has no placeholder left, or its substitution stalled. -/
def Finished (setup : Setup) (s : Session) (key text : String) : Prop :=
  Placeholder.scan (kinds setup) text = none ∨ StalledOn setup s key text

/-- More events change nothing about a finished key, unless it is entered again. -/
theorem Finished.append (h : Finished setup s key text) {events : List Event}
    (journal : t.journal = events ++ s.journal) (others : .entered key ∉ events) :
    Finished setup t key text := by
  obtain none | ⟨p, after, before, found, told, fresh⟩ := h
  · exact .inl none
  · refine .inr ⟨p, events ++ after, before, found, ?_, ?_⟩
    · rw [journal, told, List.append_assoc]
    · simp [others, fresh]

end Session

namespace Moment

open ConfigTemplate.Action ConfigTemplate.Session

variable {setup : Setup} {m n : Moment} {f : Frame} {s t : Session} {key : String}

theorem entered_not_mem_questions (setup : Setup) (text : String) (p : Placeholder) :
    .entered key ∉ questions setup text p := by
  unfold questions
  split <;> simp

/-- The end of a substitution enters no key. -/
theorem Ends.journal_eq (h : Ends setup f s t) (key : String) :
    ∃ events, t.journal = events ++ s.journal ∧ .entered key ∉ events := by
  cases h with
  | clean => exact ⟨[], rfl, by simp⟩
  | @stalled p new =>
    refine ⟨.stalled (ownerOr f.text f.owner) p.text :: .replaced f.text p new ::
      questions setup f.text p, rfl, ?_⟩
    simp [entered_not_mem_questions]

/-- The end of a substitution leaves a finished text behind. -/
theorem Ends.finished (h : Ends setup f s t) (owner : f.owner = some key) {u : Session}
    (journal : u.journal = .settled key (.str f.text) :: t.journal) :
    Finished setup u key f.text := by
  cases h with
  | clean none => exact .inl none
  | @stalled p new found within same =>
    obtain rfl := (Placeholder.splice_eq_self_iff found).1 same
    refine .inr ⟨p, [], (asked setup s f.text p).journal, found, ?_, by simp⟩
    rw [journal, owner]
    rfl

/-- A resolved key is not entered again. -/
theorem Step.journal_eq (h : Step setup m n) (resolved : m.session.mark key = .resolved) :
    ∃ events, n.session.journal = events ++ m.session.journal ∧ .entered key ∉ events := by
  have apart {other : String} (unresolved : m.session.mark other ≠ .resolved) : key ≠ other := by
    rintro rfl
    exact unresolved resolved
  cases h with
  | @remark fs s event remark =>
    refine ⟨[event], rfl, ?_⟩
    rintro mem
    obtain rfl := List.mem_singleton.1 mem
    exact remark
  | @enter fs s other text fresh unresolved =>
    exact ⟨[.entered other], rfl, by simpa using apart unresolved⟩
  | @take fs s other value fresh unresolved =>
    exact ⟨[.settled other value, .entered other], rfl, by simpa using apart unresolved⟩
  | @replace f fs s p new =>
    exact ⟨.replaced f.text p new :: questions setup f.text p, rfl,
      by simp [entered_not_mem_questions]⟩
  | @settle f fs s t other old owner ends =>
    obtain ⟨events, journal, others⟩ := ends.journal_eq key
    exact ⟨.settled other (.str f.text) :: events, congrArg _ journal, by simpa using others⟩
  | @miss fs s other free fresh unresolved =>
    exact ⟨[.failed other, .entered other], rfl, by simpa using apart unresolved⟩
  | deliver owner ends => exact ends.journal_eq key
  | stop | drop | begin | resume => exact ⟨[], rfl, by simp⟩
  | @refuse f fs s p =>
    exact ⟨questions setup f.text p, rfl, entered_not_mem_questions setup f.text p⟩
  | @giveUp f fs s other => exact ⟨[.failed other], rfl, by simp⟩

/-- Whether all strings that were resolved so far are finished. -/
def AllFinished (setup : Setup) (m : Moment) : Prop :=
  ∀ key text, m.session.mark key = .resolved → m.session.flat.get? key = some (.str text) →
    Finished setup m.session key text

/-- In orderly work a key is finished when it becomes resolved, and remains finished. -/
theorem Step.allFinished (h : Step setup m n) (orderly : Orderly m)
    (finished : AllFinished setup m) : AllFinished setup n := by
  intro key text resolved present
  by_cases before : m.session.mark key = .resolved
  · obtain same | ⟨unresolved, _⟩ := (h.advances orderly).values key
    · obtain ⟨events, journal, others⟩ := h.journal_eq before
      exact (finished key text before (same ▸ present)).append journal others
    · exact absurd before unresolved
  · have apart {other : String} (marks : ∀ k, other ≠ k → n.session.mark k = m.session.mark k) :
        other = key := by
      by_contra different
      exact before ((marks key different).symm.trans resolved)
    cases h with
    | remark | replace | stop | refuse | drop | begin | resume => exact absurd resolved before
    | deliver owner ends => exact absurd ((ends.mark_eq key).symm.trans resolved) before
    | enter =>
      obtain rfl := apart fun _ => mark_entering_of_ne
      cases (mark_marked_self ..).symm.trans resolved
    | miss =>
      obtain rfl := apart fun _ different =>
        (mark_gaveUpOn_of_ne different).trans (mark_entering_of_ne different)
      cases (mark_marked_self ..).symm.trans resolved
    | giveUp owner =>
      obtain rfl := apart fun _ => mark_gaveUpOn_of_ne
      cases (mark_marked_self ..).symm.trans resolved
    | take fresh unresolved held other =>
      obtain rfl := apart fun k different =>
        (mark_settledOn_of_ne different _).trans (mark_entering_of_ne different)
      exact absurd (Option.some.inj (held.symm.trans present)) (other text)
    | settle owner ends =>
      obtain rfl := apart fun k different =>
        (mark_settledOn_of_ne different _).trans (ends.mark_eq k)
      obtain rfl := Json.str.inj (Option.some.inj ((Flat.get?_put_self ..).symm.trans present))
      exact ends.finished owner rfl

theorem Leads.allFinished (h : Leads setup m n) (orderly : Orderly m)
    (finished : AllFinished setup m) : AllFinished setup n :=
  h.keeps_of_orderly (fun step => step.allFinished) orderly finished

end Moment

namespace Session

open ConfigTemplate.Action ConfigTemplate.Moment

variable {setup : Setup} {key text : String} {s : Session}

/-- A key that is entered with success becomes resolved. -/
theorem mark_enterKey {enter : Enter} {value : Json}
    (done : (enterKey setup enter key).result s = .ok value) :
    ((enterKey setup enter key).final s).mark key = .resolved := by
  rw [result_enterKey] at done
  rw [final_enterKey_of_ok done]
  have same := sameMemory_noteWithheld setup key value
    (((resolveValue setup enter key).final (s.entering key)).settledOn key value)
  exact (same.resolved key).2 (mark_marked_self ..)

/-- A key that is resolved with success is marked so. -/
theorem mark_resolveKey {value : Json} (done : (resolveKey setup key).result s = .ok value) :
    ((resolveKey setup key).final s).mark key = .resolved := by
  obtain ⟨deeper, step, _⟩ := exists_deeper setup (s.flat.size + setup.registry.depth)
  change (resolveOn setup _ .empty key).result s = .ok value at done
  change ((resolveOn setup _ .empty key).final s).mark key = .resolved
  rw [step] at done ⊢
  change (resolveStep setup deeper .empty key).result s = .ok value at done
  change ((resolveStep setup deeper .empty key).final s).mark key = .resolved
  by_cases resolved : s.mark key = .resolved
  · cases present : s.flat.get? key with
    | none =>
      rw [resolveStep, result_bind_of_ok (result_get s), final_get, if_pos resolved] at done
      simp only [present, result_breakOff, reduceCtorEq] at done
    | some value =>
      rw [(resolveStep_of_resolved setup deeper .empty resolved present).2]
      exact resolved
  · have off : key ∉ Trail.empty.keys := by simp
    obtain ⟨longer, pushed⟩ := Trail.exists_push off
    obtain ⟨result, final⟩ := resolveStep_of_push setup deeper resolved pushed
    rw [final]
    exact mark_enterKey (result.symm.trans done)

/-- Keys that are resolved one after the other with success are all resolved in the end. -/
theorem mark_resolveEach {keys : List String} (mem : ∀ key ∈ keys, key ∈ s.flat)
    (done : (resolveEach (atRest setup) keys).result s = .ok ()) :
    ∀ key ∈ keys, ((resolveEach (atRest setup) keys).final s).mark key = .resolved := by
  induction keys generalizing s with
  | nil => simp
  | cons key rest ih =>
    rw [List.forall_mem_cons] at mem ⊢
    unfold resolveEach at done ⊢
    cases first : (atRest setup key).result s with
    | error halt =>
      rw [result_bind_of_error first] at done
      cases done
    | ok value =>
      rw [result_bind_of_ok first] at done
      rw [final_bind_of_ok first]
      have way := (courses_resolveKey mem.1).ok first
      have others : ∀ other ∈ rest, other ∈ ((atRest setup key).final s).flat :=
        fun other listed => (Flat.mem_iff_of_shape way.shape_eq).2 (mem.2 other listed)
      have goesOn : Courses setup [] (resolveEach (atRest setup) rest)
          ((atRest setup key).final s) :=
        courses_resolveEach (enters_atRest setup _) rfl others
      have advances := (goesOn.ok done).advances (orderly_of_keys_eq_nil rfl)
      exact ⟨advances.resolved key (mark_resolveKey first), ih others done⟩

/-- All values with placeholders are resolved when the resolution of everything succeeds. -/
theorem mark_resolveAll (done : (resolveAll setup).result s = .ok ()) :
    ∀ key ∈ pending setup s, ((resolveAll setup).final s).mark key = .resolved := by
  unfold resolveAll resolvePending at done ⊢
  rw [result_bind_of_ok (result_get s), final_get] at done
  rw [final_bind_of_ok (result_get s), final_get]
  dsimp only at done ⊢
  split at done
  next empty =>
    rw [List.isEmpty_iff.1 empty]
    simp
  next some =>
    rw [if_neg some, final_bind_of_ok (result_note ..)]
    rw [result_bind_of_ok (result_note ..)] at done
    exact mark_resolveEach (fun key listed => mem_of_mem_pending (s := s) listed) done

/-- A string that is not pending has no placeholder, unless it is resolved. -/
theorem scan_eq_none_of_not_mem_pending (unresolved : s.mark key ≠ .resolved)
    (present : s.flat.get? key = some (.str text)) (settled : key ∉ pending setup s) :
    Placeholder.scan (kinds setup) text = none := by
  by_contra occurs
  refine settled (mem_pending_iff.2 ⟨unresolved, .str text, present, ?_⟩)
  simpa [isPending, Placeholder.occurs, Option.isSome_iff_ne_none] using occurs

/-- After all values were resolved with success, every string has no placeholder left or its
substitution stalled. -/
theorem finished_resolveAll (setup : Setup) (flat : Flat)
    (done : (resolveAll setup).result (start flat) = .ok ()) {key text : String}
    (present : ((resolveAll setup).final (start flat)).flat.get? key = some (.str text)) :
    Finished setup ((resolveAll setup).final (start flat)) key text := by
  have way : Leads setup ⟨[], start flat, false⟩
      ⟨[], (resolveAll setup).final (start flat), false⟩ :=
    courses_resolveAll.ok done
  have orderly : Orderly ⟨[], start flat, false⟩ := orderly_of_keys_eq_nil rfl
  by_cases resolved : ((resolveAll setup).final (start flat)).mark key = .resolved
  · exact way.allFinished orderly (fun _ _ known => by cases known) key text resolved present
  · obtain same | ⟨_, known⟩ := (way.advances orderly).values key
    · have unresolved : (start flat).mark key ≠ .resolved := by simp
      exact .inl (scan_eq_none_of_not_mem_pending unresolved (same.symm.trans present)
        fun listed => resolved (mark_resolveAll done key listed))
    · exact absurd known resolved

/-- A variable that stands for itself is given up, also where a reference leads to it. -/
theorem finished_resolveAll_itself :
    let setup : Setup :=
      ⟨.standard, ⟨fun _ _ => .output "", fun _ => some "$X", false⟩, .standard⟩
    let flat := Flat.ofList [("a", .str "1$\x7bb\x7d"), ("b", .str "$X")]
    (resolveAll setup).result (start flat) = .ok () ∧
      ((resolveAll setup).final (start flat)).flat.get? "a" = some (.str "1$X") ∧
      Finished setup ((resolveAll setup).final (start flat)) "a" "1$X" := by
  intro setup flat
  have done : (resolveAll setup).result (start flat) = .ok () := by cbv
  have present : ((resolveAll setup).final (start flat)).flat.get? "a" = some (.str "1$X") := by cbv
  exact ⟨done, present, finished_resolveAll setup flat done present⟩

end Session

end ConfigTemplate
