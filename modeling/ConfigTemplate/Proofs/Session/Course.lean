import ConfigTemplate.Proofs.Flat.Lookup
import ConfigTemplate.Proofs.Session.History
import ConfigTemplate.Proofs.Session.Moment

/-!
# The course of an action

Whatever is done in a session goes from moment to moment. An action that gives a result comes back
to the texts that were being substituted when it began. One that is stopped comes back to them as
well, and they are given up in their turn.

To enter a key is to substitute one more text, so what holds of an action holds of the actions that
it is made of, with the texts being substituted as they are there.
-/

namespace ConfigTemplate

/-- A key is pending when it is not resolved and holds a string with a placeholder. -/
theorem Session.mem_pending_iff {setup : Setup} {s : Session} {key : String} :
    key ∈ pending setup s ↔ s.mark key ≠ .resolved ∧
      ∃ value, s.flat.get? key = some value ∧ isPending (kinds setup) value = true := by
  simp only [pending, List.mem_map, List.mem_filter, Bool.and_eq_true, bne_iff_ne, Prod.exists]
  constructor
  · rintro ⟨_, value, ⟨listed, unresolved, waits⟩, rfl⟩
    exact ⟨unresolved, value, Entries.get?_of_mem s.flat.distinct listed, waits⟩
  · rintro ⟨unresolved, value, present, waits⟩
    exact ⟨key, value, ⟨Entries.mem_of_get? present, unresolved, waits⟩, rfl⟩

theorem Session.mem_of_mem_pending {setup : Setup} {s : Session} {key : String}
    (h : key ∈ pending setup s) : key ∈ s.flat := by
  obtain ⟨_, _, present, _⟩ := mem_pending_iff.1 h
  exact Flat.mem_of_get? present

namespace Moment

open ConfigTemplate.Action ConfigTemplate.Session

variable {α β : Type} {setup : Setup} {fs : List Frame} {s : Session}

/-- Whether an action, begun in a session while some texts are being substituted, goes from moment
to moment and comes back to these texts, stopped if it has no result. -/
def Courses (setup : Setup) (fs : List Frame) (action : Action α) (s : Session) : Prop :=
  Leads setup ⟨fs, s, false⟩ ⟨fs, action.final s, !(action.result s).isOk⟩

namespace Courses

theorem of_ok {action : Action α} {x : α} (result : action.result s = .ok x)
    (h : Leads setup ⟨fs, s, false⟩ ⟨fs, action.final s, false⟩) : Courses setup fs action s := by
  unfold Courses
  rwa [result]

theorem of_error {action : Action α} {halt : Halt} (result : action.result s = .error halt)
    (h : Leads setup ⟨fs, s, false⟩ ⟨fs, action.final s, true⟩) : Courses setup fs action s := by
  unfold Courses
  rwa [result]

theorem ok {action : Action α} {x : α} (h : Courses setup fs action s)
    (result : action.result s = .ok x) :
    Leads setup ⟨fs, s, false⟩ ⟨fs, action.final s, false⟩ := by
  unfold Courses at h
  rwa [result] at h

theorem error {action : Action α} {halt : Halt} (h : Courses setup fs action s)
    (result : action.result s = .error halt) :
    Leads setup ⟨fs, s, false⟩ ⟨fs, action.final s, true⟩ := by
  unfold Courses at h
  rwa [result] at h

/-- Actions of the same outcome take the same course. -/
theorem of_eq {a : Action α} {b : Action β} (h : Courses setup fs b s)
    (result : (a.result s).isOk = (b.result s).isOk) (final : a.final s = b.final s) :
    Courses setup fs a s := by
  unfold Courses at h ⊢
  rwa [result, final]

theorem pure (x : α) : Courses setup fs (pure x : Action α) s := .refl

theorem throw (halt : Halt) : Courses setup fs (throw halt : Action α) s := .single .stop

theorem fail (failure : Failure) : Courses setup fs (fail failure : Action α) s := .single .stop

theorem note {event : Event} (remark : event.IsRemark) : Courses setup fs (note event) s :=
  .single (.remark remark)

/-- Two actions one after the other. The document has the same shape in between. -/
theorem bind {action : Action α} {next : α → Action β} (first : Courses setup fs action s)
    (rest : ∀ x t, t.flat.shape = s.flat.shape → Courses setup fs (next x) t) :
    Courses setup fs (action >>= next) s := by
  cases result : action.result s with
  | error halt =>
    refine .of_error (result_bind_of_error result next) ?_
    rw [final_bind_of_error result]
    exact first.error result
  | ok x =>
    have begun := first.ok result
    have goesOn := begun.trans (rest x _ begun.shape_eq)
    unfold Courses
    rwa [result_bind_of_ok result, final_bind_of_ok result]

theorem get_bind {next : Session → Action α} (h : Courses setup fs (next s) s) :
    Courses setup fs (get >>= next) s := h

end Courses

/-- Where a handler goes on after a stop, an attempt takes the course of what is attempted. -/
theorem Courses.attempt (free : ¬ setup.registry.IsPrompt) {action : Action α}
    (h : Courses setup fs action s) : Courses setup fs (attempt action) s := by
  refine .of_ok (result_attempt ..) ?_
  rw [final_attempt]
  cases result : action.result s with
  | error halt => exact (h.error result).tail (.resume free)
  | ok x => exact h.ok result

/-- Whether a call may be made while keys of a document are being resolved. Prompt handlers make
none, so nothing but keys of the document is asked for then. -/
def Admits (setup : Setup) (flat : Flat) (call : Call) : Prop :=
  setup.registry.IsPrompt → ∃ key ∈ flat, call = .resolveKey key

/-- Whether calls on a document take their course while certain keys, the latest first, are being
resolved. -/
def Enters (setup : Setup) (flat : Flat) (keys : List String) (enter : Enter) : Prop :=
  ∀ fs call s, fs.filterMap Frame.owner = keys → s.flat.shape = flat.shape →
    Admits setup flat call → Courses setup fs (enter.answer call) s

theorem admits_of_mem {flat : Flat} {key : String} (mem : key ∈ flat) :
    Admits setup flat (.resolveKey key) :=
  fun _ => ⟨key, mem, rfl⟩

theorem admits_of_free (free : ¬ setup.registry.IsPrompt) (flat : Flat) (call : Call) :
    Admits setup flat call :=
  fun prompt => absurd prompt free

/-- Where no call is answered the work is stopped. -/
theorem enters_exhausted (setup : Setup) (flat : Flat) (keys : List String) :
    Enters setup flat keys exhausted :=
  fun _ _ _ _ _ _ => .throw _

/-! ### On the way to a value -/

theorem courses_orMissing (missing : Failure) (found : Except Failure α) :
    Courses setup fs (orMissing missing found) s := by
  unfold orMissing
  split
  · exact .pure _
  · exact .fail _
  · exact .fail _

theorem courses_notePick (key : String) (found : Flat.Pick) :
    Courses setup fs (notePick key found) s := by
  unfold notePick
  split
  · exact .note (by trivial)
  · exact .pure _

section Enters

variable {flat : Flat} {keys : List String} {enter : Enter} (enters : Enters setup flat keys enter)
  (owners : fs.filterMap Frame.owner = keys) (shape : s.flat.shape = flat.shape)

include enters owners

theorem courses_elementTexts {paths : List String} (shape : s.flat.shape = flat.shape)
    (mem : ∀ path ∈ paths, path ∈ flat) : Courses setup fs (elementTexts enter paths) s := by
  induction paths generalizing s with
  | nil => exact .pure _
  | cons path rest ih =>
    rw [List.forall_mem_cons] at mem
    refine (enters fs _ s owners shape (admits_of_mem mem.1)).bind fun value t same => ?_
    exact (ih (same.trans shape) mem.2).bind fun others u _ => .pure _

include shape

theorem courses_joinElements (missing : Failure) (join : Join) :
    Courses setup fs (joinElements setup enter missing join) s := by
  unfold joinElements
  refine .get_bind ((courses_orMissing missing _).bind fun found t sameShape => ?_)
  refine (courses_notePick join.path found).bind fun _ u sameShape' => ?_
  have shape' := sameShape'.trans (sameShape.trans shape)
  rw [Flat.elementPaths_eq_of_shape shape]
  cases listed : flat.elementPaths join.path found.chosen with
  | error failure =>
    cases failure <;> exact .of_error rfl (.single .stop)
  | ok paths =>
    refine (courses_elementTexts enters owners shape' (Flat.mem_of_elementPaths listed)).bind
      fun texts v _ => ?_
    dsimp only
    split
    · refine (Courses.fail missing).bind fun _ _ _ => ?_
      exact (Courses.note (by trivial)).bind fun _ _ _ => .pure _
    · exact (Courses.note (by trivial)).bind fun _ _ _ => .pure _

/-- A reply that is not prompt makes calls that take their course, and goes on after each of
them. -/
theorem courses_consult {reply : Reply} (prompt : setup.registry.IsPrompt → reply.IsPrompt) :
    Courses setup fs (consult enter reply) s := by
  by_cases calm : setup.registry.IsPrompt
  · obtain ⟨text, rfl⟩ | ⟨halt, rfl⟩ := (prompt calm).eq_answer_or
    · exact .pure _
    · exact .throw _
  clear prompt
  induction reply generalizing s with
  | answer text => exact .pure _
  | stop halt => exact .throw _
  | look next ih => exact .get_bind (ih s shape)
  | ask call next ih =>
    have course := enters fs call s owners shape (admits_of_free calm flat call)
    exact course.bind fun value t same => ih value (same.trans shape)
  | attempt call next ih =>
    have course := enters fs call s owners shape (admits_of_free calm flat call)
    exact (course.attempt calm).bind fun outcome t same => ih outcome (same.trans shape)

/-- What is made of a failure takes its course. -/
theorem courses_recover (failure : Failure) :
    Courses setup fs (recover setup enter failure) s := by
  unfold recover
  split
  next handler registered =>
    unfold applyHandler
    split
    · split
      · exact courses_joinElements enters owners shape _ _
      · exact .fail _
    · exact .fail _
    · exact (Courses.note (by trivial)).bind fun _ _ _ => .fail _
    · exact .fail _
    · exact courses_consult enters owners shape fun prompt => prompt _ _ registered _
  · exact .fail _

theorem courses_follow (expression : String) :
    Courses setup fs (follow setup enter expression) s := by
  unfold follow
  refine .get_bind ?_
  rw [Flat.resolve_eq_of_shape shape]
  split
  next found leads =>
    refine (courses_notePick expression found).bind fun _ t same => ?_
    exact enters fs _ t owners (same.trans shape) (admits_of_mem (Flat.mem_of_resolve leads))
  · exact (courses_recover enters owners shape _).bind fun _ _ _ => .pure _
  · exact .fail _

end Enters

/-! ### Substituting a text -/

section Substitute

variable {f : Frame} {p : Placeholder} {flat : Flat} {enter : Enter}

/-- A command or a variable in place of a placeholder is asked for, and that is all. -/
theorem final_replacement_of_question (enter : Enter) (owner : Option String) (source : String)
    (question : p.kind ≠ .reference) :
    (replacement setup enter owner source p).final s = asked setup s source p := by
  unfold replacement asked questions
  cases kind : p.kind with
  | reference => exact absurd kind question
  | command =>
    simp only [runCommand]
    rw [final_bind_of_ok (result_get s), final_bind_of_ok (result_note ..), final_note]
    split <;> rfl
  | envVar =>
    simp only [orFail]
    rw [final_bind_of_ok (result_note ..), final_note]
    split <;> rfl

/-- A reference takes the course of its way to a value. -/
theorem courses_replacement_reference (owner : Option String) (source : String)
    (reference : p.kind = .reference) (enters : Enters setup flat (fs.filterMap Frame.owner) enter)
    (shape : s.flat.shape = flat.shape) :
    Courses setup fs (replacement setup enter owner source p) s := by
  have course := courses_follow enters rfl shape (Text.trimmed p.payload)
  unfold replacement
  simp only [reference]
  refine course.of_eq ?_ ?_
  · rw [result_bind_of_ok (result_attempt ..)]
    cases (follow setup enter (Text.trimmed p.payload)).result s with
    | ok value => rfl
    | error halt => cases halt <;> rfl
  · rw [final_bind_of_ok (result_attempt ..), final_attempt]
    cases (follow setup enter (Text.trimmed p.payload)).result s with
    | ok value => rfl
    | error halt => cases halt <;> rfl

/-- On the way to a replacement the output of a command or the value of a variable is asked for at
the very end. -/
theorem replacement_of_ok {new : String}
    (enters : Enters setup flat ((f :: fs).filterMap Frame.owner) enter)
    (shape : s.flat.shape = flat.shape)
    (done : (replacement setup enter f.owner f.text p).result s = .ok new) :
    ∃ t, Leads setup ⟨f :: fs, s, false⟩ ⟨f :: fs, t, false⟩ ∧
      (replacement setup enter f.owner f.text p).final s = asked setup t f.text p := by
  by_cases reference : p.kind = .reference
  · have course := courses_replacement_reference f.owner f.text reference enters shape
    exact ⟨_, course.ok done, (asked_of_reference reference _ _).symm⟩
  · exact ⟨s, .refl, final_replacement_of_question enter f.owner f.text reference⟩

/-- Where a placeholder gets no replacement the work is stopped. -/
theorem replacement_of_error {halt : Halt}
    (enters : Enters setup flat ((f :: fs).filterMap Frame.owner) enter)
    (shape : s.flat.shape = flat.shape)
    (found : Placeholder.scan (kinds setup) f.text = some p)
    (within : f.count < setup.options.limit.toNat)
    (stopped : (replacement setup enter f.owner f.text p).result s = .error halt) :
    Leads setup ⟨f :: fs, s, false⟩
      ⟨f :: fs, (replacement setup enter f.owner f.text p).final s, true⟩ := by
  by_cases reference : p.kind = .reference
  · exact (courses_replacement_reference f.owner f.text reference enters shape).error stopped
  · rw [final_replacement_of_question enter f.owner f.text reference]
    exact .single (.refuse found within)

/-- How the substitution of a text comes out: it goes on to a text that ends it, or it is
stopped. -/
inductive Concludes (setup : Setup) (fs : List Frame) (f : Frame) (action : Action String)
    (s : Session) : Prop where
  | ends {g : Frame} {t : Session} (owner : g.owner = f.owner)
    (way : Leads setup ⟨f :: fs, s, false⟩ ⟨g :: fs, t, false⟩)
    (result : action.result s = .ok g.text) (ends : Ends setup g t (action.final s))
  | stops {g : Frame} {halt : Halt} (owner : g.owner = f.owner)
    (way : Leads setup ⟨f :: fs, s, false⟩ ⟨g :: fs, action.final s, true⟩)
    (result : action.result s = .error halt)

/-- What comes out after some steps comes out before them. -/
theorem Concludes.after {g : Frame} {a b : Action String} {t : Session}
    (h : Concludes setup fs g b t) (owner : g.owner = f.owner)
    (way : Leads setup ⟨f :: fs, s, false⟩ ⟨g :: fs, t, false⟩)
    (result : a.result s = b.result t) (final : a.final s = b.final t) :
    Concludes setup fs f a s := by
  cases h with
  | ends owner' way' result' ends =>
    exact .ends (owner'.trans owner) (way.trans way') (result.trans result') (final ▸ ends)
  | stops owner' way' result' =>
    exact .stops (owner'.trans owner) (final ▸ way.trans way') (result.trans result')

/-- A text without a placeholder is its own substitution. -/
theorem concludes_clean {action : Action String}
    (none : Placeholder.scan (kinds setup) f.text = none)
    (same : action = pure f.text) : Concludes setup fs f action s := by
  subst same
  exact .ends rfl .refl rfl (.clean none)

/-- The substitution of a text takes its course. The number of substitutions that are left and the
number of those that were made add up to the limit. -/
theorem concludes_substitute {count : Nat}
    (enters : Enters setup flat ((f :: fs).filterMap Frame.owner) enter)
    (shape : s.flat.shape = flat.shape) (left : f.count + count = setup.options.limit.toNat) :
    Concludes setup fs f (substitute setup enter f.owner count f.text) s := by
  induction count generalizing f s with
  | zero =>
    unfold substitute
    split
    next none => exact concludes_clean none rfl
    · exact .stops rfl (.single .stop) rfl
  | succ count ih =>
    unfold substitute
    split
    next none => exact concludes_clean none rfl
    next p found =>
      have within : f.count < setup.options.limit.toNat := by omega
      cases replaces : (replacement setup enter f.owner f.text p).result s with
      | error halt =>
        refine .stops rfl ?_ (result_bind_of_error replaces _)
        rw [final_bind_of_error replaces]
        exact replacement_of_error enters shape found within replaces
      | ok new =>
        obtain ⟨t, way, asks⟩ := replacement_of_ok enters shape replaces
        by_cases same : p.splice f.text new = f.text
        · refine .ends rfl way ?_ ?_
          · rw [result_bind_of_ok replaces, result_bind_of_ok (result_note ..), if_pos same]
            rfl
          · rw [final_bind_of_ok replaces, final_bind_of_ok (result_note ..), if_pos same, asks]
            exact .stalled found within same
        · let g : Frame := { f with text := p.splice f.text new, count := f.count + 1 }
          have shape' : (replaced setup t f.text p new).flat.shape = flat.shape := by
            rw [flat_replaced]
            exact way.shape_eq.trans shape
          have rest := ih (f := g) (by exact enters) shape' (by dsimp only [g]; omega)
          refine rest.after rfl (way.tail (.replace found within same)) ?_ ?_
          · rw [result_bind_of_ok replaces, result_bind_of_ok (result_note ..), if_neg same, asks]
            rfl
          · rw [final_bind_of_ok replaces, final_bind_of_ok (result_note ..), if_neg same, asks]
            rfl

end Substitute

/-! ### Entering a key -/

section Key

variable {flat : Flat} {enter : Enter} {key : String}

theorem leads_noteWithheld (key : String) (value : Json) :
    Leads setup ⟨fs, s, false⟩ ⟨fs, (noteWithheld setup key value).final s, false⟩ := by
  have noted (ps : List Placeholder) : Courses setup fs
      (ps.forM fun p => note (.withheld key p.text)) s := by
    induction ps generalizing s with
    | nil => exact .pure _
    | cons p rest ih => exact (Courses.note (by trivial)).bind fun _ _ _ => ih
  have course : Courses setup fs (noteWithheld setup key value) s := by
    unfold noteWithheld
    split
    · split
      · exact .pure _
      · exact noted _
    · exact .pure _
  exact course.ok (result_noteWithheld ..)

/-- To enter a key that holds a string is to substitute that string. -/
theorem courses_enterKey_of_str {text : String} (fresh : key ∉ fs.filterMap Frame.owner)
    (enters : Enters setup flat (key :: fs.filterMap Frame.owner) enter)
    (shape : s.flat.shape = flat.shape) (unresolved : s.mark key ≠ .resolved)
    (present : s.flat.get? key = some (.str text)) :
    Courses setup fs (enterKey setup enter key) s := by
  have entered : (s.entering key).flat.get? key = some (.str text) := present
  have way : Leads setup ⟨fs, s, false⟩ ⟨⟨some key, text, 0⟩ :: fs, s.entering key, false⟩ :=
    .single (.enter fresh unresolved present)
  have concludes : Concludes setup fs ⟨some key, text, 0⟩
      (substituteAll setup enter (some key) text) (s.entering key) :=
    concludes_substitute (f := ⟨some key, text, 0⟩) enters shape (Nat.zero_add _)
  cases concludes with
  | @ends g t owner goesOn done ends =>
    have result : (resolveValue setup enter key).result (s.entering key) = .ok (.str g.text) := by
      rw [result_resolveValue_of_str entered, done]
      rfl
    refine .of_ok (result_enterKey.trans result) ?_
    rw [final_enterKey_of_ok result, final_resolveValue_of_ok entered done]
    obtain ⟨old, held⟩ := goesOn.exists_str ⟨text, entered⟩
    have settles := (way.trans goesOn).tail (.settle owner ends (ends.flat_eq ▸ held))
    exact settles.trans (leads_noteWithheld key _)
  | @stops g halt owner goesOn stopped =>
    have result : (resolveValue setup enter key).result (s.entering key) = .error halt := by
      rw [result_resolveValue_of_str entered, stopped]
      rfl
    refine .of_error (result_enterKey.trans result) ?_
    rw [final_enterKey_of_error result, final_resolveValue_of_error entered stopped]
    exact (way.trans goesOn).tail (.giveUp owner)

theorem courses_enterKey_of_ne_str {value : Json} (fresh : key ∉ fs.filterMap Frame.owner)
    (unresolved : s.mark key ≠ .resolved) (present : s.flat.get? key = some value)
    (other : ∀ text, value ≠ .str text) : Courses setup fs (enterKey setup enter key) s := by
  have entered : (s.entering key).flat.get? key = some value := present
  have result : (resolveValue setup enter key).result (s.entering key) = .ok value :=
    result_resolveValue_of_ne_str entered other
  refine .of_ok (result_enterKey.trans result) ?_
  rw [final_enterKey_of_ok result, final_resolveValue_of_ne_str entered other]
  have taken : Leads setup ⟨fs, s, false⟩ ⟨fs, (s.entering key).settledOn key value, false⟩ :=
    .single (.take fresh unresolved present other)
  exact taken.trans (leads_noteWithheld key _)

/-- A key that the document does not have is given up at once. -/
theorem courses_enterKey_of_none (free : ¬ setup.registry.IsPrompt)
    (fresh : key ∉ fs.filterMap Frame.owner) (unresolved : s.mark key ≠ .resolved)
    (absent : s.flat.get? key = none) : Courses setup fs (enterKey setup enter key) s := by
  have entered : (s.entering key).flat.get? key = none := absent
  have result : (resolveValue setup enter key).result (s.entering key) =
      .error (.mishap (.unknownPath key)) :=
    result_resolveValue_of_none entered
  refine .of_error (result_enterKey.trans result) ?_
  rw [final_enterKey_of_error result, final_resolveValue_of_none entered]
  exact .single (.miss free fresh unresolved absent)

/-- A key that is not being resolved and not resolved yet may be entered. -/
theorem courses_enterKey (admits : Admits setup flat (.resolveKey key))
    (fresh : key ∉ fs.filterMap Frame.owner)
    (enters : Enters setup flat (key :: fs.filterMap Frame.owner) enter)
    (shape : s.flat.shape = flat.shape) (unresolved : s.mark key ≠ .resolved) :
    Courses setup fs (enterKey setup enter key) s := by
  cases present : s.flat.get? key with
  | none =>
    refine courses_enterKey_of_none (fun prompt => ?_) fresh unresolved present
    obtain ⟨_, mem, same⟩ := admits prompt
    cases same
    obtain ⟨value, held⟩ := Flat.exists_get? ((Flat.mem_iff_of_shape shape).2 mem)
    cases present.symm.trans held
  | some value =>
    obtain ⟨text, rfl⟩ | other := value.eq_str_or
    · exact courses_enterKey_of_str fresh enters shape unresolved present
    · exact courses_enterKey_of_ne_str fresh unresolved present other

end Key

/-! ### Calls on a trail -/

section Trail

variable {flat : Flat} {deeper : Trail → Enter} {trail : Trail}

theorem courses_resolveEach {enter : Enter} {keys : List String}
    (enters : Enters setup flat (fs.filterMap Frame.owner) enter)
    (shape : s.flat.shape = flat.shape) (mem : ∀ key ∈ keys, key ∈ flat) :
    Courses setup fs (resolveEach enter keys) s := by
  induction keys generalizing s with
  | nil => exact .pure _
  | cons key rest ih =>
    rw [List.forall_mem_cons] at mem
    refine (enters fs _ s rfl shape (admits_of_mem mem.1)).bind fun _ t same => ?_
    exact ih (same.trans shape) mem.2

theorem courses_resolvePending {enter : Enter}
    (enters : Enters setup flat (fs.filterMap Frame.owner) enter)
    (shape : s.flat.shape = flat.shape) : Courses setup fs (resolvePending setup enter) s := by
  unfold resolvePending
  refine .get_bind ?_
  dsimp only
  split
  · exact .note (by trivial)
  · refine (Courses.note (by trivial)).bind fun _ t same => ?_
    exact courses_resolveEach enters (same.trans shape) fun key listed =>
      (Flat.mem_iff_of_shape shape).1 (mem_of_mem_pending listed)

/-- A text that a handler hands over is the innermost until its substitution ends. -/
theorem courses_substituteAll {enter : Enter} (free : ¬ setup.registry.IsPrompt)
    (enters : Enters setup flat (fs.filterMap Frame.owner) enter)
    (shape : s.flat.shape = flat.shape) (text : String) :
    Courses setup fs (substituteAll setup enter none text) s := by
  have begun : Leads setup ⟨fs, s, false⟩ ⟨⟨none, text, 0⟩ :: fs, s, false⟩ :=
    .single (.begin free)
  have concludes : Concludes setup fs ⟨none, text, 0⟩ (substituteAll setup enter none text) s :=
    concludes_substitute (f := ⟨none, text, 0⟩) enters shape (Nat.zero_add _)
  cases concludes with
  | ends owner way done ends => exact .of_ok done ((begun.trans way).tail (.deliver owner ends))
  | stops owner way stopped => exact .of_error stopped ((begun.trans way).tail (.drop owner))

/-- To resolve a key on a trail takes its course if the calls on longer trails do. -/
theorem courses_resolveStep (deep : ∀ trail, Enters setup flat trail.keys.reverse (deeper trail))
    (owners : fs.filterMap Frame.owner = trail.keys.reverse) (shape : s.flat.shape = flat.shape)
    {key : String} (admits : Admits setup flat (.resolveKey key)) :
    Courses setup fs (resolveStep setup deeper trail key) s := by
  unfold resolveStep
  refine .get_bind ?_
  split
  · split
    · exact .pure _
    · exact .throw _
  next unresolved =>
    split
    · exact (courses_recover (deep trail) owners shape _).bind fun _ _ _ => .pure _
    next longer pushed =>
      have keys : longer.keys.reverse = key :: fs.filterMap Frame.owner := by
        rw [owners, Trail.keys_of_push pushed, List.reverse_append]
        rfl
      have fresh : key ∉ fs.filterMap Frame.owner := by
        rw [owners, List.mem_reverse]
        exact Trail.not_mem_of_push pushed
      exact courses_enterKey admits fresh (keys ▸ deep longer) shape unresolved

/-- Calls on a trail take their course if those on longer trails do. -/
theorem enters_answerStep (deep : ∀ trail, Enters setup flat trail.keys.reverse (deeper trail))
    (trail : Trail) : Enters setup flat trail.keys.reverse (answerStep setup deeper trail) := by
  intro fs call s owners shape admits
  cases call with
  | resolveKey key => exact courses_resolveStep deep owners shape admits
  | lookup expression => exact courses_follow (deep trail) owners shape expression
  | expand text =>
    have free : ¬ setup.registry.IsPrompt := by
      intro prompt
      obtain ⟨_, _, other⟩ := admits prompt
      cases other
    exact (courses_substituteAll free (owners ▸ deep trail) shape text).bind fun _ _ _ => .pure _
  | resolveAll =>
    exact (courses_resolvePending (owners ▸ deep trail) shape).bind fun _ _ _ => .pure _

/-- Calls take their course while the keys of any trail are being resolved. -/
theorem enters_resolveOn (setup : Setup) (flat : Flat) (room : Nat) (trail : Trail) :
    Enters setup flat trail.keys.reverse (resolveOn setup room trail) := by
  induction room generalizing trail with
  | zero => exact enters_answerStep (fun _ => enters_exhausted _ _ _) trail
  | succ room ih => exact enters_answerStep ih trail

theorem enters_atRest (setup : Setup) (flat : Flat) : Enters setup flat [] (atRest setup) :=
  fun fs call s owners shape admits =>
    .get_bind (enters_resolveOn setup flat _ .empty fs call s owners shape admits)

end Trail

/-! ### Calls -/

theorem courses_resolveKey {key : String} (mem : key ∈ s.flat) :
    Courses setup [] (resolveKey setup key) s :=
  enters_atRest setup s.flat [] _ s rfl rfl (admits_of_mem mem)

theorem courses_resolveAll : Courses setup [] (resolveAll setup) s :=
  courses_resolvePending (enters_atRest setup s.flat) rfl

theorem courses_lookup (expression : String) :
    Courses setup [] (lookup setup expression) s :=
  courses_follow (enters_atRest setup s.flat) rfl rfl expression

/-- A text of no key is the only one that is being substituted in the beginning, and none is in the
end. -/
theorem leads_expand (text : String) :
    ∃ stopped, Leads setup ⟨[⟨none, text, 0⟩], s, false⟩
      ⟨[], (expand setup text).final s, stopped⟩ := by
  have concludes : Concludes setup [] ⟨none, text, 0⟩ (expand setup text) s :=
    concludes_substitute (f := ⟨none, text, 0⟩) (enters_atRest setup s.flat) rfl
      (Nat.zero_add _)
  cases concludes with
  | ends owner way done ends => exact ⟨false, way.tail (.deliver owner ends)⟩
  | stops owner way stopped => exact ⟨true, way.tail (.drop owner)⟩

end Moment

namespace Session.Call

open ConfigTemplate.Moment

/-- Whether the key that a call resolves, if it resolves one, is a key of a session. -/
def IsFor (call : Call) (s : Session) : Prop := ∀ key, call = .resolveKey key → key ∈ s.flat

/-- The texts that a call begins with. -/
def frames : Call → List Frame
  | .expand text => [⟨none, text, 0⟩]
  | _ => []

@[simp] theorem filterMap_owner_frames (call : Call) : call.frames.filterMap Frame.owner = [] := by
  cases call <;> rfl

/-- A call goes from moment to moment. -/
theorem leads (setup : Setup) {call : Call} {s : Session} (isFor : call.IsFor s) :
    ∃ stopped, Leads setup ⟨call.frames, s, false⟩ ⟨[], call.final setup s, stopped⟩ := by
  cases call with
  | resolveKey key => exact ⟨_, courses_resolveKey (isFor key rfl)⟩
  | lookup expression => exact ⟨_, courses_lookup expression⟩
  | expand text => exact leads_expand text
  | resolveAll => exact ⟨_, courses_resolveAll⟩

end Session.Call

end ConfigTemplate
