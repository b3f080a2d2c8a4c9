import ConfigTemplate.Proofs.Session.Conduct

/-!
# What comes of what is raised

A failure escapes as it was raised, unless a handler recovers from it or stops in its turn, or the
failure that is being handled takes its place. A mishap escapes as the failure of the innermost
reference in progress, and as it is only where there is none. What is raised in the course of a call
that a handler attempts is for the handler to see to, if the call is stopped.

An account of a result is a list of alarms each of which comes to that result, and which holds
whatever stopped the work as it was raised. All work under watch gives an account. Accounts are put
together as the work is.
-/

namespace ConfigTemplate

/-- Where that is raised which stops some work: in the texts of some owners, or outside of texts.
`deep` says whether it may come of a call too deep inside others there. -/
structure Alarm.IsOf (owns : Option String → Prop) (deep : Prop) (alarm : Alarm) : Prop where
  /-- The outermost text belongs to who it should. -/
  outermost : ∀ f, alarm.frames.getLast? = some f → owns f.owner
  depth : alarm.frames = [] → alarm.site = .depth → deep

theorem Alarm.IsOf.mono {owns owns' : Option String → Prop} {deep : Prop} {alarm : Alarm}
    (h : alarm.IsOf owns deep) (weaken : ∀ owner, owns owner → owns' owner) :
    alarm.IsOf owns' deep :=
  ⟨fun f last => weaken _ (h.outermost f last), h.depth⟩

/-- Outside of texts there is nobody's text. -/
theorem Alarm.isOf_of_frames_eq_nil {owns : Option String → Prop} {deep : Prop} {alarm : Alarm}
    (outside : alarm.frames = []) (shallow : alarm.site ≠ .depth) : alarm.IsOf owns deep :=
  ⟨by simp [outside], fun _ same => absurd same shallow⟩

namespace Watching

open Session (innermost? escaping ownerOr LeadsTo kinds)

/-! ### Accounts -/

/-- Whether some alarms account for a result. `known` is a handler that is at work and the failure
that it is handling, if one is: the failure may stop the work without an alarm of its own. `place`
says where that which stops the work is raised. -/
structure Accounted {α : Type} (setup : Setup) (known : Option (Handler × Failure))
    (place : Alarm → Prop) (result : Except Halt α) (alarms : List Alarm) : Prop where
  /-- Every alarm comes to the result, unless a handler recovers or sees to it. -/
  outcome : ∀ alarm ∈ alarms, ∀ halt, alarm.outcome? setup = some halt → result = .error halt
  /-- What stops the work was raised. -/
  raised : ∀ halt, result = .error halt → known.map (.failure ·.2) = some halt ∨
    ∃ alarm ∈ alarms, place alarm ∧ alarm.outcome? setup = some halt ∧
      escaping setup alarm.frames alarm.halt = halt
  /-- The alarms are as they should be. -/
  fits : ∀ alarm ∈ alarms, alarm.Fits setup
  /-- What takes the place of an alarm is being handled by the handler of join expressions. -/
  original : ∀ alarm ∈ alarms, ∀ failure, alarm.fate = .replaced failure →
    (known = some (.joinElements, failure) ∧ alarm.frames = []) ∨ ∃ first ∈ alarms,
      first.halt = .failure failure ∧ first.frames = alarm.frames ∧
        ∃ answer, first.fate = .offered .joinElements answer

namespace Accounted

variable {α β : Type} {setup : Setup} {known : Option (Handler × Failure)}
variable {place weaker : Alarm → Prop} {result : Except Halt α} {alarms others : List Alarm}
variable {f : Frame}

theorem ok (x : α) : Accounted setup known place (.ok x : Except Halt α) [] where
  outcome := by simp
  raised := by simp
  fits := by simp
  original := by simp

/-- Something that is passed on accounts for what escapes of it. -/
theorem single {site : Site} {halt halt' : Halt} {frames : List Frame}
    (escapes : escaping setup frames halt = halt')
    (fits : (⟨halt, site, .passed, frames, false⟩ : Alarm).Fits setup)
    (placed : place ⟨halt, site, .passed, frames, false⟩) :
    Accounted setup known place (.error halt' : Except Halt α)
      [⟨halt, site, .passed, frames, false⟩] := by
  have outcome : (⟨halt, site, .passed, frames, false⟩ : Alarm).outcome? setup = some halt' := by
    rw [Alarm.outcome?_of_passed rfl rfl, escapes]
  refine ⟨?_, ?_, ?_, ?_⟩
  · intro other mem halt'' same
    rw [List.mem_singleton.1 mem, outcome] at same
    rw [Option.some.inj same]
  · intro halt'' stopped
    obtain rfl := Except.error.inj stopped
    exact .inr ⟨_, List.mem_singleton_self _, placed, outcome, escapes⟩
  · intro other mem
    exact List.mem_singleton.1 mem ▸ fits
  · intro other mem failure same
    rw [List.mem_singleton.1 mem] at same
    cases same

/-- The failure that is being handled stops the work once more. -/
theorem of_known {handler : Handler} {failure : Failure} :
    Accounted setup (some (handler, failure)) place
      (.error (.failure failure) : Except Halt α) [] where
  outcome := by simp
  raised := by
    rintro halt same
    exact .inl (by rw [← Except.error.inj same]; rfl)
  fits := by simp
  original := by simp

theorem mono (h : Accounted setup known place result alarms)
    (weaken : ∀ alarm, place alarm → weaker alarm) : Accounted setup known weaker result alarms :=
  { h with
    raised := fun halt stopped => (h.raised halt stopped).imp id fun ⟨alarm, mem, placed, facts⟩ =>
      ⟨alarm, mem, weaken alarm placed, facts⟩ }

/-- Where no failure is being handled the account holds while one is. -/
theorem handling (h : Accounted setup none place result alarms)
    (known : Option (Handler × Failure)) : Accounted setup known place result alarms where
  outcome := h.outcome
  raised halt stopped := .inr ((h.raised halt stopped).resolve_left (by simp))
  fits := h.fits
  original alarm mem failure same :=
    .inr ((h.original alarm mem failure same).resolve_left (by simp))

/-- An account goes behind that of a result which it agrees with. -/
theorem append {before : Except Halt β} (first : Accounted setup known weaker before alarms)
    (second : Accounted setup known place result others)
    (agrees : ∀ halt, before = .error halt → result = .error halt) :
    Accounted setup known place result (others ++ alarms) := by
  refine ⟨?_, ?_, ?_, ?_⟩
  · intro alarm mem halt same
    obtain late | early := List.mem_append.1 mem
    · exact second.outcome alarm late halt same
    · exact agrees halt (first.outcome alarm early halt same)
  · intro halt stopped
    refine (second.raised halt stopped).imp id ?_
    rintro ⟨alarm, mem, facts⟩
    exact ⟨alarm, List.mem_append_left _ mem, facts⟩
  · intro alarm mem
    obtain late | early := List.mem_append.1 mem
    · exact second.fits alarm late
    · exact first.fits alarm early
  · intro alarm mem failure same
    obtain late | early := List.mem_append.1 mem
    · refine (second.original alarm late failure same).imp id ?_
      rintro ⟨origin, mem', facts⟩
      exact ⟨origin, List.mem_append_left _ mem', facts⟩
    · refine (first.original alarm early failure same).imp id ?_
      rintro ⟨origin, mem', facts⟩
      exact ⟨origin, List.mem_append_right _ mem', facts⟩

/-- What is raised before some work begins came to nothing. -/
theorem prepend {x : β} (first : Accounted setup known place (.ok x : Except Halt β) alarms)
    (second : Accounted setup known place result others) :
    Accounted setup known place result (others ++ alarms) :=
  first.append second fun _ stopped => nomatch stopped

/-- What stops a piece of work stops whatever was to follow. -/
theorem error {halt : Halt}
    (h : Accounted setup known place (.error halt : Except Halt α) alarms) :
    Accounted setup known place (.error halt : Except Halt β) alarms where
  outcome alarm mem halt' same :=
    congrArg Except.error (Except.error.inj (h.outcome alarm mem halt' same))
  raised halt' stopped := h.raised halt' (congrArg Except.error (Except.error.inj stopped))
  fits := h.fits
  original := h.original

/-- What is raised in the course of a call that is answered came to nothing, whatever the answer is
taken for. -/
theorem answered {x : α} (h : Accounted setup none place (.ok x : Except Halt α) alarms) (y : β) :
    Accounted setup known weaker (.ok y : Except Halt β) alarms where
  outcome alarm mem halt same := nomatch h.outcome alarm mem halt same
  raised _ stopped := nomatch stopped
  fits := h.fits
  original := (h.handling known).original

/-- What stops a call that a handler makes is raised by the handler once more. -/
theorem letThrough {halt : Halt}
    (h : Accounted setup none place (.error halt : Except Halt α) alarms)
    (here : weaker ⟨halt, .handler, .passed, [], false⟩) :
    Accounted setup known weaker (.error halt : Except Halt α)
      (⟨halt, .handler, .passed, [], false⟩ :: alarms) :=
  (h.handling known).append
    (.single (Session.escaping_nil halt) (Alarm.fits_passed fun _ _ => .inr (.inl rfl)) here)
    fun _ same => same

/-- What is raised in the course of a call that is stopped comes to nothing where a handler sees to
it. -/
theorem seenTo (h : Accounted setup none place result alarms) (y : β) :
    Accounted setup known weaker (.ok y : Except Halt β) (alarms.map .seenTo) := by
  refine ⟨?_, by simp, ?_, ?_⟩
  · intro alarm mem halt same
    obtain ⟨inner, -, rfl⟩ := List.mem_map.1 mem
    cases same
  · intro alarm mem
    obtain ⟨inner, listed, rfl⟩ := List.mem_map.1 mem
    exact (h.fits inner listed).seenTo
  · intro alarm mem failure same
    obtain ⟨inner, listed, rfl⟩ := List.mem_map.1 mem
    obtain ⟨origin, mem', facts⟩ :=
      (h.original inner listed failure same).resolve_left (by simp)
    exact .inr ⟨_, List.mem_map_of_mem mem', facts⟩

/-- What is raised on the way to the value of a reference, seen from the text that waits for it. -/
theorem under {deep : Prop} (h : Accounted setup none place result alarms)
    (waits : (f.reference? setup).isSome = true) :
    Accounted setup none (Alarm.IsOf (· = f.owner) deep) (result.mapError (escaping setup [f]))
      (alarms.map (·.under [f])) := by
  refine ⟨?_, ?_, ?_, ?_⟩
  · intro alarm mem halt same
    obtain ⟨inner, listed, rfl⟩ := List.mem_map.1 mem
    rw [Alarm.outcome?_under, Option.map_eq_some_iff] at same
    obtain ⟨halt', same, rfl⟩ := same
    rw [h.outcome inner listed halt' same]
    rfl
  · intro halt stopped
    cases result with
    | ok x => cases stopped
    | error halt' =>
      obtain rfl := Except.error.inj stopped
      obtain ⟨inner, mem, -, comes, same⟩ := (h.raised halt' rfl).resolve_left (by simp)
      refine .inr ⟨_, List.mem_map_of_mem mem, ⟨?_, ?_⟩, ?_, ?_⟩
      · intro g last
        obtain rfl : f = g := by simpa [Alarm.under] using last
        rfl
      · intro outside
        simp [Alarm.under] at outside
      · rw [Alarm.outcome?_under, comes, Option.map_some]
      · rw [Alarm.under, Session.escaping_append, same]
  · intro alarm mem
    obtain ⟨inner, listed, rfl⟩ := List.mem_map.1 mem
    exact (h.fits inner listed).under waits
  · intro alarm mem failure same
    obtain ⟨inner, listed, rfl⟩ := List.mem_map.1 mem
    obtain ⟨origin, mem', handled, within, fate⟩ :=
      (h.original inner listed failure same).resolve_left (by simp)
    exact .inr ⟨_, List.mem_map_of_mem mem', handled, congrArg (· ++ [f]) within, fate⟩

/-- What a handler is offered stands before what is raised at its work. -/
theorem offered {failure : Failure} {handler : Handler} {site : Site} {answer : Except Halt String}
    (h : Accounted setup (some (handler, failure)) place answer alarms)
    (here : place ⟨.failure failure, site, .offered handler answer, [], false⟩)
    (registered : setup.registry.get? failure.kind = some handler)
    (reports : handler = .reportLoop → answer = .error (.failure failure))
    (replies : ∀ respond, handler = .reply respond →
      (∀ text, respond failure = .answer text → answer = .ok text) ∧
        ∀ halt, respond failure = .stop halt → answer = .error halt) :
    Accounted setup none place answer
      (⟨.failure failure, site, .offered handler answer, [], false⟩ :: alarms) := by
  refine ⟨?_, ?_, ?_, ?_⟩
  · intro alarm mem halt same
    obtain rfl | mem := List.mem_cons.1 mem
    · cases answer with
      | ok text => cases same
      | error halt' =>
        simp only [Alarm.outcome?, Session.escaping_nil, Bool.false_eq_true, if_false,
          Option.some.injEq] at same
        rw [same]
    · exact h.outcome alarm mem halt same
  · intro halt stopped
    subst stopped
    obtain known | ⟨alarm, mem, facts⟩ := h.raised halt rfl
    · obtain rfl := Option.some.inj known
      exact .inr ⟨_, List.mem_cons_self, here, by simp [Alarm.outcome?], rfl⟩
    · exact .inr ⟨alarm, List.mem_cons_of_mem _ mem, facts⟩
  · intro alarm mem
    obtain rfl | mem := List.mem_cons.1 mem
    · exact {
        waiting := by simp
        outside := by simp
        inside := by simp
        offered := by
          rintro _ _ ⟨⟩
          exact ⟨failure, rfl, registered, reports, replies⟩
        replaced := by simp }
    · exact h.fits alarm mem
  · intro alarm mem other same
    obtain rfl | mem := List.mem_cons.1 mem
    · cases same
    · obtain ⟨known, outside⟩ | ⟨origin, mem', facts⟩ := h.original alarm mem other same
      · cases known
        exact .inr ⟨_, List.mem_cons_self, rfl, outside.symm, answer, rfl⟩
      · exact .inr ⟨origin, List.mem_cons_of_mem _ mem', facts⟩

end Accounted

/-! ### Work that gives an account -/

/-- Whether work under watch, begun on behalf of some texts, comes back to its stack and rings
alarms that account for what it gives. -/
structure Accounts {α : Type} (setup : Setup) (known : Option (Handler × Failure))
    (place : Alarm → Prop) (fs : List Frame) (work : Watching α) (e : Watched) : Prop where
  stack : (work.final fs e).stack = e.stack
  told : ∃ alarms, (work.final fs e).alarms = alarms.map (·.under fs) ++ e.alarms ∧
    Accounted setup known place ((work.result fs e).mapError Stop.halt) alarms

variable {α β : Type} {setup : Setup} {known : Option (Handler × Failure)}
variable {place weaker : Alarm → Prop} {fs : List Frame} {e : Watched} {f : Frame} {p : Placeholder}

namespace Accounts

theorem pure (x : α) : Accounts setup known place fs (pure x : Watching α) e :=
  ⟨rfl, [], rfl, .ok x⟩

theorem of_known {handler : Handler} {failure : Failure} :
    Accounts setup (some (handler, failure)) place fs (stop (.failure failure) : Watching α) e :=
  ⟨rfl, [], rfl, .of_known⟩

theorem raise {site : Site} {halt : Halt}
    (outside : ∀ mishap, halt = .mishap mishap → site = .path ∨ site = .handler ∨ site = .depth)
    (placed : place ⟨halt, site, .passed, [], false⟩) :
    Accounts setup known place fs (raise site halt : Watching α) e :=
  ⟨rfl, [⟨halt, site, .passed, [], false⟩], rfl,
    .single (Session.escaping_nil halt) (Alarm.fits_passed outside) placed⟩

theorem mono {work : Watching α} (h : Accounts setup known place fs work e)
    (weaken : ∀ alarm, place alarm → weaker alarm) : Accounts setup known weaker fs work e :=
  ⟨h.stack, h.told.imp fun _ told => ⟨told.1, told.2.mono weaken⟩⟩

theorem handling {work : Watching α} (h : Accounts setup none place fs work e)
    (known : Option (Handler × Failure)) : Accounts setup known place fs work e :=
  ⟨h.stack, h.told.imp fun _ told => ⟨told.1, told.2.handling known⟩⟩

/-- Two pieces of work one after the other. -/
theorem bind_of_ok {work : Watching α} {next : α → Watching β}
    (first : Accounts setup known place fs work e)
    (rest : ∀ x, work.result fs e = .ok x → ∀ e', e'.stack = e.stack →
      Accounts setup known place fs (next x) e') :
    Accounts setup known place fs (work >>= next) e := by
  obtain ⟨stack, alarms, told, account⟩ := first
  cases result : work.result fs e with
  | error stop =>
    rw [result] at account
    refine ⟨?_, alarms, ?_, ?_⟩
    · rwa [final_bind_of_error result]
    · rwa [final_bind_of_error result]
    · rw [result_bind_of_error result]
      exact account.error
  | ok x =>
    rw [result] at account
    obtain ⟨stack', others, told', account'⟩ := rest x result _ stack
    refine ⟨?_, others ++ alarms, ?_, ?_⟩
    · rw [final_bind_of_ok result]
      exact stack'.trans stack
    · rw [final_bind_of_ok result, told', told, List.map_append, List.append_assoc]
    · rw [result_bind_of_ok result]
      exact account.prepend account'

theorem bind {work : Watching α} {next : α → Watching β}
    (first : Accounts setup known place fs work e)
    (rest : ∀ x e', e'.stack = e.stack → Accounts setup known place fs (next x) e') :
    Accounts setup known place fs (work >>= next) e :=
  first.bind_of_ok fun x _ => rest x

theorem get_bind {next : Watched → Watching α} (h : Accounts setup known place fs (next e) e) :
    Accounts setup known place fs (get >>= next) e :=
  ⟨h.stack, h.told⟩

/-- What rings no alarm and leaves the stack alone may come first. -/
theorem quiet_bind {work : Watching Unit} {next : Unit → Watching α}
    (result : work.result fs e = .ok ()) (stack : (work.final fs e).stack = e.stack)
    (alarms : (work.final fs e).alarms = e.alarms)
    (h : Accounts setup known place fs (next ()) (work.final fs e)) :
    Accounts setup known place fs (work >>= next) e := by
  obtain ⟨stack', others, told, account⟩ := h
  refine ⟨?_, others, ?_, ?_⟩
  · rw [final_bind_of_ok result]
    exact stack'.trans stack
  · rw [final_bind_of_ok result, told, alarms]
  · rwa [result_bind_of_ok result]

/-- What stops a call stops the handler that makes it. -/
theorem letThrough {work : Watching α} (h : Accounts setup none place fs work e)
    (here : ∀ halt, weaker ⟨halt, .handler, .passed, [], false⟩) :
    Accounts setup known weaker fs (letThrough work) e := by
  obtain ⟨stack, alarms, told, account⟩ := h
  cases result : work.result fs e with
  | ok x =>
    rw [result] at account
    refine ⟨?_, alarms, ?_, ?_⟩
    · rwa [final_letThrough_of_ok result]
    · rwa [final_letThrough_of_ok result]
    · rw [result_letThrough, result]
      exact account.answered x
  | error stop =>
    rw [result] at account
    refine ⟨?_, ⟨stop.halt, .handler, .passed, [], false⟩ :: alarms, ?_, ?_⟩
    · rw [final_letThrough_of_error result]
      exact stack
    · rw [final_letThrough_of_error result]
      exact congrArg (_ :: ·) told
    · rw [result_letThrough, result]
      exact account.letThrough (here _)

/-- What comes of a call that is attempted is for the handler to see. -/
theorem overhear {work : Watching α} (h : Accounts setup none place fs work (e.alarmed [])) :
    Accounts setup known weaker fs (overhear work) e := by
  obtain ⟨stack, alarms, told, account⟩ := h
  have told : (work.final fs (e.alarmed [])).alarms = alarms.map (·.under fs) :=
    told.trans (List.append_nil _)
  have final := final_overhear fs e work
  cases result : work.result fs (e.alarmed []) with
  | ok x =>
    rw [result] at account final
    refine ⟨stack, alarms, ?_, ?_⟩
    · rw [final, ← told]
      rfl
    · exact account.answered _
  | error stop =>
    rw [result] at account final
    refine ⟨stack, alarms.map .seenTo, ?_, ?_⟩
    · rw [final, List.map_map]
      change (List.map _ (work.final fs (e.alarmed [])).alarms) ++ _ = _
      rw [told, List.map_map]
      rfl
    · exact account.seenTo _

/-- What was made of a failure is told in the end. -/
theorem answered {work : Watching String} {site : Site} {handler : Handler} {failure : Failure}
    (h : Accounts setup (some (handler, failure)) place fs work e)
    (here : ∀ answer, place ⟨.failure failure, site, .offered handler answer, [], false⟩)
    (registered : setup.registry.get? failure.kind = some handler)
    (reports : handler = .reportLoop →
      (work.result fs e).mapError Stop.halt = .error (.failure failure))
    (replies : ∀ respond, handler = .reply respond →
      (∀ text, respond failure = .answer text →
        (work.result fs e).mapError Stop.halt = .ok text) ∧
      ∀ halt, respond failure = .stop halt →
        (work.result fs e).mapError Stop.halt = .error halt) :
    Accounts setup none place fs (attempt work >>= Watching.answered site handler failure) e := by
  obtain ⟨stack, alarms, told, account⟩ := h
  have offered := account.offered (here _) registered reports replies
  have tried := result_attempt fs e work
  cases result : work.result fs e with
  | ok text =>
    rw [result] at tried offered
    refine ⟨?_, ⟨.failure failure, site, .offered handler (.ok text), [], false⟩ :: alarms, ?_, ?_⟩
    · rw [final_bind_of_ok tried]
      exact stack
    · rw [final_bind_of_ok tried]
      exact congrArg (_ :: ·) told
    · rw [result_bind_of_ok tried]
      exact offered
  | error stop =>
    rw [result] at tried offered
    refine ⟨?_, ⟨.failure failure, site, .offered handler (.error stop.halt), [], false⟩ :: alarms,
      ?_, ?_⟩
    · rw [final_bind_of_ok tried]
      exact stack
    · rw [final_bind_of_ok tried]
      exact congrArg (_ :: ·) told
    · rw [result_bind_of_ok tried]
      exact offered

/-- What a reference leads to stands in its place in the text that waits for it. -/
theorem referred {work : Watching Json} (h : Accounts setup none place (f :: fs) work e)
    (waits : f.reference? setup = some p) :
    Accounts setup none (Alarm.IsOf (· = f.owner) False) fs
      (within f (attempt work >>= fun
        | .ok value => Pure.pure value.spliced
        | .error stop => passOn f.owner p stop)) e := by
  obtain ⟨stack, alarms, told, account⟩ := h
  have waiting : Accounted setup none (Alarm.IsOf (· = f.owner) False) _ _ :=
    account.under (Option.isSome_of_eq_some waits)
  have told : (work.final (f :: fs) e).alarms =
      (alarms.map (·.under [f])).map (·.under fs) ++ e.alarms := by
    rw [told, List.map_map]
    simp [Function.comp_def]
  have tried := result_attempt (f :: fs) e work
  cases result : work.result (f :: fs) e with
  | ok value =>
    rw [result] at tried waiting
    refine ⟨?_, alarms.map (·.under [f]), ?_, ?_⟩
    · rw [final_within, final_bind_of_ok tried]
      exact stack
    · rw [final_within, final_bind_of_ok tried]
      exact told
    · rw [result_within, result_bind_of_ok tried]
      exact waiting.answered value.spliced
  | error stop =>
    obtain ⟨halt, keys, frames⟩ := stop
    rw [result] at tried waiting
    cases halt with
    | failure failure =>
      refine ⟨?_, alarms.map (·.under [f]), ?_, ?_⟩
      · rw [final_within, final_bind_of_ok tried]
        exact stack
      · rw [final_within, final_bind_of_ok tried]
        exact told
      · rw [result_within, result_bind_of_ok tried]
        exact waiting.error
    | mishap mishap =>
      let nested : Failure := .nested (ownerOr "<value>" f.owner) p.text (some mishap.message)
      have wrapped : escaping setup [f] (.mishap mishap) = .failure nested :=
        Session.escaping_of_some waits mishap
      have raised : Accounted setup none (Alarm.IsOf (· = f.owner) False)
          (.error (.failure nested) : Except Halt String)
          [⟨.failure nested, .reference, .passed, [f], false⟩] :=
        .single rfl (Alarm.fits_passed_within (by simp)) ⟨by simp, by simp⟩
      refine ⟨?_, ⟨.failure nested, .reference, .passed, [f], false⟩ :: alarms.map (·.under [f]),
        ?_, ?_⟩
      · rw [final_within, final_bind_of_ok tried]
        exact stack
      · rw [final_within, final_bind_of_ok tried]
        exact congrArg (_ :: ·) told
      · rw [result_within, result_bind_of_ok tried]
        change Accounted setup none _ (.error (escaping setup [f] (.mishap mishap))) _ at waiting
        rw [wrapped] at waiting
        exact waiting.error.append raised fun _ => id

end Accounts

/-! ### The work -/

/-- What the array of a join expression raises gives way if the array is missing. -/
theorem accounts_orMissing {original : Failure} {found : Except Failure α}
    (outside : ∀ alarm, alarm.frames = [] → alarm.site ≠ .depth → place alarm) :
    Accounts setup (some (.joinElements, original)) place fs (orMissing original found) e := by
  cases found with
  | ok x => exact .pure x
  | error failure =>
    cases failure with
    | keyNotFound key why =>
      refine ⟨rfl, [⟨.failure (.keyNotFound key why), .array, .replaced original, [], false⟩], rfl,
        ?_, ?_, ?_, ?_⟩
      · intro alarm mem halt same
        rw [List.mem_singleton.1 mem] at same
        rw [← Option.some.inj same]
        rfl
      · intro halt stopped
        exact .inl (congrArg some (Except.error.inj stopped))
      · intro alarm mem
        rw [List.mem_singleton.1 mem]
        exact {
          waiting := by simp
          outside := by simp
          inside := by simp
          offered := by simp
          replaced := fun _ _ => ⟨rfl, key, why, rfl⟩ }
      · intro alarm mem other same
        rw [List.mem_singleton.1 mem] at same ⊢
        exact .inl ⟨by rw [Fate.replaced.inj same], rfl⟩
    | _ => exact .raise (by simp) (outside _ rfl (by simp))

/-- Where that is raised which stops a call: the texts are the key's that it resolves, if it
resolves one. -/
def CallPlace (deep : Prop) : Session.Call → Alarm → Prop
  | .resolveKey key => Alarm.IsOf (· = some key) deep
  | _ => fun _ => True

/-- Whether calls give accounts while the keys of a trail are being resolved. -/
def Rings (setup : Setup) (deep : Prop) (trail : Trail) (enter : Enter) : Prop :=
  ∀ call fs e, e.stack = trail.stack →
    Accounts setup none (CallPlace deep call) fs (enter.answer call) e

/-- Whether what stops an element of an array may stop the work on a failure, if this is a missing
key that is a join expression for the array. -/
def Covers (setup : Setup) (flat : Flat) (deep : Prop) (place : Alarm → Prop) (failure : Failure) :
    Prop :=
  ∀ missing why join found paths, failure = .keyNotFound missing why →
    Join.ofExpression? missing = some join →
    flat.pickArray setup.options.uniqueMatch join.path = .ok found →
    flat.elementPaths join.path found.chosen = .ok paths →
    ∀ key ∈ paths, ∀ alarm : Alarm, alarm.IsOf (· = some key) deep → place alarm

section Rings

variable {deep : Prop} {trail : Trail} {enter : Enter} (rings : Rings setup deep trail enter)

include rings

/-- Keys that are resolved one after the other. -/
theorem accounts_elementTexts {keys : List String} (stack : e.stack = trail.stack)
    (each : ∀ key ∈ keys, ∀ alarm : Alarm, alarm.IsOf (· = some key) deep → place alarm) :
    Accounts setup known place fs (elementTexts enter keys) e := by
  induction keys generalizing e with
  | nil => exact .pure _
  | cons key rest ih =>
    rw [List.forall_mem_cons] at each
    have first := (rings (.resolveKey key) fs e stack).mono each.1
    refine (first.handling known).bind fun value e' stack' => ?_
    exact (ih (stack'.trans stack) each.2).bind fun others _ _ => .pure _

/-- The elements of an array are joined while a missing key is being handled. -/
theorem accounts_joinElements {missing : Failure} {join : Join} (stack : e.stack = trail.stack)
    (outside : ∀ alarm, alarm.frames = [] → alarm.site ≠ .depth → place alarm)
    (each : ∀ found paths,
      e.session.flat.pickArray setup.options.uniqueMatch join.path = .ok found →
      e.session.flat.elementPaths join.path found.chosen = .ok paths →
      ∀ key ∈ paths, ∀ alarm : Alarm, alarm.IsOf (· = some key) deep → place alarm) :
    Accounts setup (some (.joinElements, missing)) place fs
      (joinElements setup enter missing join) e := by
  unfold joinElements
  refine .get_bind ((accounts_orMissing outside).bind_of_ok fun found array e₁ stack₁ => ?_)
  refine .quiet_bind rfl rfl rfl ((accounts_orMissing outside).bind_of_ok
    fun paths listed e₂ stack₂ => ?_)
  refine (accounts_elementTexts rings (stack₂.trans (stack₁.trans stack))
    (each found paths (ok_of_orMissing array) (ok_of_orMissing listed))).bind fun texts e₃ _ => ?_
  split
  · exact Accounts.of_known.bind fun _ _ _ => .quiet_bind rfl rfl rfl (.pure _)
  · exact .quiet_bind rfl rfl rfl (.pure _)

/-- A reply is carried out. -/
theorem accounts_consult {reply : Reply} (stack : e.stack = trail.stack)
    (outside : ∀ alarm, alarm.frames = [] → alarm.site ≠ .depth → place alarm) :
    Accounts setup known place fs (consult enter reply) e := by
  induction reply generalizing e with
  | answer text => exact .pure _
  | stop halt => exact .raise (fun _ _ => .inr (.inl rfl)) (outside _ rfl (by simp))
  | look next ih => exact .get_bind (ih e.session stack)
  | ask call next ih =>
    have called : Accounts setup none (CallPlace deep call) fs (enter.answer call)
        (e.acted (.call call)) := rings call fs _ stack
    refine .quiet_bind rfl rfl rfl
      ((called.letThrough fun _ => outside _ rfl (by simp)).bind fun value e' stack' => ?_)
    exact ih value (stack'.trans stack)
  | attempt call next ih =>
    have called : Accounts setup none (CallPlace deep call) fs (enter.answer call)
        ((e.acted (.call call)).alarmed []) := rings call fs _ stack
    refine .quiet_bind rfl rfl rfl (called.overhear.bind fun outcome e' stack' => ?_)
    exact ih outcome (stack'.trans stack)

/-- A handler is at work on a failure. -/
theorem accounts_applyHandler {handler : Handler} {failure : Failure}
    (stack : e.stack = trail.stack)
    (outside : ∀ alarm, alarm.frames = [] → alarm.site ≠ .depth → place alarm)
    (covers : Covers setup e.session.flat deep place failure) :
    Accounts setup (some (handler, failure)) place fs
      (applyHandler setup enter handler failure) e := by
  cases handler with
  | joinElements =>
    cases failure with
    | keyNotFound missing why =>
      unfold applyHandler
      dsimp only
      cases parsed : Join.ofExpression? missing with
      | none => exact .of_known
      | some join =>
        exact accounts_joinElements rings stack outside fun found paths =>
          covers missing why join found paths rfl parsed
    | _ => exact .of_known
  | reportLoop =>
    cases failure with
    | circular key trail => exact .quiet_bind rfl rfl rfl .of_known
    | _ => exact .of_known
  | reply respond => exact accounts_consult rings stack outside

omit rings in
/-- A report passes the failure on. -/
theorem result_applyHandler_reportLoop (failure : Failure) :
    ((applyHandler setup enter .reportLoop failure).result fs e).mapError Stop.halt =
      .error (.failure failure) := by
  cases failure <;> rfl

omit rings in
/-- A prompt reply is the answer. -/
theorem result_applyHandler_reply (respond : Failure → Reply) (failure : Failure) :
    let answer :=
      ((applyHandler setup enter (.reply respond) failure).result fs e).mapError Stop.halt
    (∀ text, respond failure = .answer text → answer = .ok text) ∧
      ∀ halt, respond failure = .stop halt → answer = .error halt := by
  constructor <;> intro given prompt <;> simp only [applyHandler, prompt, consult] <;> rfl

/-- A failure is raised and offered to the handler of its kind. -/
theorem accounts_recover {site : Site} {failure : Failure} (stack : e.stack = trail.stack)
    (shallow : site ≠ .depth)
    (outside : ∀ alarm, alarm.frames = [] → alarm.site ≠ .depth → place alarm)
    (covers : Covers setup e.session.flat deep place failure) :
    Accounts setup none place fs (recover setup enter site failure) e := by
  unfold recover
  cases registered : setup.registry.get? failure.kind with
  | none => exact .raise (by simp) (outside _ rfl shallow)
  | some handler =>
    refine .quiet_bind rfl rfl rfl ?_
    have applied : Accounts setup (some (handler, failure)) place fs
        (applyHandler setup enter handler failure) (e.acted (.handle failure)) :=
      accounts_applyHandler rings stack outside covers
    refine applied.answered (fun _ => outside _ rfl shallow) registered ?_ ?_
    · rintro rfl
      exact result_applyHandler_reportLoop failure
    · rintro respond rfl
      exact result_applyHandler_reply respond failure

/-- An expression is looked up. -/
theorem accounts_follow {expression : String} (stack : e.stack = trail.stack) :
    Accounts setup none (Alarm.IsOf (fun owner => ∃ key, owner = some key ∧
      LeadsTo setup e.session.flat expression key) deep) fs (follow setup enter expression) e := by
  unfold follow
  refine .quiet_bind rfl rfl rfl (.get_bind ?_)
  rw [final_act]
  cases leads : (e.acted (.lookUp expression)).session.flat.resolve setup.options.uniqueMatch
      expression with
  | ok found =>
    have entered {e' : Watched} (same : e'.stack = trail.stack) :
        Accounts setup none (Alarm.IsOf (· = some found.chosen) deep) fs (enter found.chosen) e' :=
      rings (.resolveKey found.chosen) fs e' same
    refine .quiet_bind rfl rfl rfl ((entered (by exact stack)).mono fun alarm of => ?_)
    exact of.mono fun owner same => ⟨_, same, .direct leads rfl⟩
  | error failure =>
    cases failure with
    | keyNotFound key why =>
      refine (accounts_recover rings (by exact stack) (by simp)
        (fun _ => Alarm.isOf_of_frames_eq_nil) ?_).bind fun _ _ _ => .pure _
      rintro missing why' join found paths ⟨⟩ parsed array listed other mem alarm of
      exact of.mono fun owner same => ⟨other, same, .element leads parsed array listed mem⟩
    | _ => exact .raise (by simp) (Alarm.isOf_of_frames_eq_nil rfl (by simp))

omit rings in
/-- What stands in place of a command or a variable of a text. -/
theorem accounts_plain {site : Site} {action : Action α} (waits : f.reference? setup = none)
    (command : ∀ s mishap, action.result s = .error (.mishap mishap) → site = .command) :
    Accounts setup none (Alarm.IsOf (· = f.owner) False) fs (within f (plain site action)) e := by
  cases result : action.result e.session with
  | ok x =>
    have done := result_plain (f :: fs) e site action
    rw [result] at done
    refine ⟨?_, [], ?_, ?_⟩
    · rw [final_within, final_plain_of_ok result]
    · rw [final_within, final_plain_of_ok result]
      rfl
    · rw [result_within, done]
      exact .ok x
  | error halt =>
    have stopped := result_plain (f :: fs) e site action
    rw [result] at stopped
    refine ⟨?_, [⟨halt, site, .passed, [f], false⟩], ?_, ?_⟩
    · rw [final_within, final_plain_of_error result]
      rfl
    · rw [final_within, final_plain_of_error result]
      rfl
    · rw [result_within, stopped]
      refine .single (Session.escaping_of_none waits halt) (Alarm.fits_passed_within ?_)
        ⟨by simp, by simp⟩
      rintro mishap rfl
      exact command _ mishap result

/-- A placeholder of a text is replaced. -/
theorem accounts_replacement {source : String} (stack : e.stack = trail.stack)
    (found : Placeholder.scan (kinds setup) f.text = some p) :
    Accounts setup none (Alarm.IsOf (· = f.owner) False) fs
      (within f (replacement setup enter f.owner source p)) e := by
  have waits := Session.reference?_of_scan found
  unfold replacement
  cases kind : p.kind with
  | reference =>
    rw [if_pos kind] at waits
    exact (accounts_follow rings stack).referred waits
  | command =>
    rw [if_neg (by simp [kind])] at waits
    have ran : Accounts setup none (Alarm.IsOf (· = f.owner) False) fs
        (within f (plain .command (Session.runCommand setup source p.payload)))
        (e.acted (.run p.payload)) :=
      accounts_plain waits fun _ _ _ => rfl
    exact ⟨ran.stack, ran.told⟩
  | envVar =>
    rw [if_neg (by simp [kind])] at waits
    have read : Accounts setup none (Alarm.IsOf (· = f.owner) False) fs
        (within f (plain .variable (Session.orFail (Session.readVariable setup.host p.payload))))
        ((e.acted (.read p.payload)).noted (.read p.payload)) := by
      refine accounts_plain waits fun s mishap stopped => ?_
      cases value : Session.readVariable setup.host p.payload with
      | ok text =>
        rw [value] at stopped
        cases stopped
      | error failure =>
        rw [value] at stopped
        cases stopped
    exact ⟨read.stack, read.told⟩

/-- The placeholders of a text are substituted. -/
theorem accounts_substitute {owner : Option String} {count : Nat} {text : String}
    (stack : e.stack = trail.stack) :
    Accounts setup none (Alarm.IsOf (· = owner) False) fs
      (substitute setup enter owner count text) e := by
  induction count generalizing text e with
  | zero =>
    unfold substitute
    split
    · exact .pure _
    · exact .raise (by simp) (Alarm.isOf_of_frames_eq_nil rfl (by simp))
  | succ count ih =>
    unfold substitute
    split
    · exact .pure _
    next p found =>
      let frame : Frame := ⟨owner, text, setup.options.limit.toNat - (count + 1)⟩
      have replaced : Accounts setup none (Alarm.IsOf (· = owner) False) fs
          (within frame (replacement setup enter owner text p)) e :=
        accounts_replacement (f := frame) rings stack found
      refine replaced.bind fun new e' stack' => .quiet_bind rfl rfl rfl ?_
      dsimp only
      split
      · exact .quiet_bind rfl rfl rfl (.pure _)
      · exact ih (stack'.trans stack)

/-- The value of a key is resolved. -/
theorem accounts_resolveValue {key : String} (stack : e.stack = trail.stack) :
    Accounts setup none (Alarm.IsOf (· = some key) False) fs (resolveValue setup enter key) e := by
  unfold resolveValue
  apply Accounts.get_bind
  split
  · exact .raise (fun _ _ => .inl rfl) (Alarm.isOf_of_frames_eq_nil rfl (by simp))
  · exact (accounts_substitute rings stack).bind fun new _ _ => .quiet_bind rfl rfl rfl (.pure _)
  · exact .pure _

/-- Keys are resolved one after the other. -/
theorem accounts_resolveEach {keys : List String} (stack : e.stack = trail.stack)
    (each : ∀ key ∈ keys, ∀ alarm : Alarm, alarm.IsOf (· = some key) deep → place alarm) :
    Accounts setup none place fs (resolveEach enter keys) e := by
  induction keys generalizing e with
  | nil => exact .pure _
  | cons key rest ih =>
    rw [List.forall_mem_cons] at each
    have first := (rings (.resolveKey key) fs e stack).mono each.1
    exact first.bind fun value e' stack' => ih (stack'.trans stack) each.2

theorem accounts_resolvePending (stack : e.stack = trail.stack)
    (each : ∀ key ∈ Session.pending setup e.session, ∀ alarm : Alarm,
      alarm.IsOf (· = some key) deep → place alarm) :
    Accounts setup none place fs (resolvePending setup enter) e := by
  unfold resolvePending
  apply Accounts.get_bind
  dsimp only
  split
  · exact ⟨rfl, [], rfl, .ok ()⟩
  · exact .quiet_bind rfl rfl rfl (accounts_resolveEach rings stack each)

end Rings

/-! ### Calls -/

/-- A key that was pushed is resolved, and popped in the end. -/
theorem accounts_push {deep : Prop} {trail longer : Trail} {enter : Enter} {key : String}
    (rings : Rings setup deep longer enter) (pushed : trail.push key = .ok longer)
    (stack : e.stack = trail.stack) :
    Accounts setup none (Alarm.IsOf (· = some key) False) fs (do
      push key longer.stack
      enterKey setup enter key) e := by
  obtain ⟨stack', alarms, told, account⟩ : Accounts setup none _ fs (resolveValue setup enter key)
      (e.entering key longer) := accounts_resolveValue rings rfl
  cases found : (resolveValue setup enter key).result fs (e.entering key longer) with
  | error stop =>
    rw [found] at account
    obtain ⟨result, final⟩ := push_enterKey found rfl
    obtain ⟨given, left⟩ : (leaveKey setup key (.error stop)).result fs _ = _ ∧ _ :=
      leaveKey_of_error pushed stack'
    refine ⟨?_, alarms, ?_, ?_⟩
    · rw [final, left]
      exact stack.symm
    · rw [final, left]
      exact told
    · rw [result, given]
      exact account
  | ok value =>
    rw [found] at account
    obtain ⟨result, final⟩ := push_enterKey found rfl
    obtain ⟨given, left⟩ : (leaveKey setup key (.ok value)).result fs _ = _ ∧ _ :=
      leaveKey_of_ok pushed stack'
    refine ⟨?_, alarms, ?_, ?_⟩
    · rw [final, left]
      exact stack.symm
    · rw [final, left]
      exact told
    · rw [result, given]
      exact account

section Deeper

variable {deep : Prop} {deeper : Enter} (rings : ∀ trail, Rings setup deep trail deeper)

include rings

/-- A key is resolved while the keys of a trail are. -/
theorem accounts_resolveStep {trail : Trail} {key : String} (stack : e.stack = trail.stack) :
    Accounts setup none (Alarm.IsOf (· = some key) False) fs (resolveStep setup deeper key) e := by
  unfold resolveStep
  refine .quiet_bind rfl rfl rfl (.get_bind ?_)
  rw [final_act]
  have stack : (e.acted (.resolve key)).stack = trail.stack := stack
  generalize e.acted (.resolve key) = e at stack ⊢
  split
  · split
    · exact .pure _
    · exact .raise (fun _ _ => .inl rfl) (Alarm.isOf_of_frames_eq_nil rfl (by simp))
  · rw [stack, Trail.push_stack]
    cases pushed : trail.push key with
    | ok longer => exact accounts_push (rings longer) pushed stack
    | error failure =>
      obtain ⟨-, rfl⟩ := Trail.mem_of_push_eq_error pushed
      refine .quiet_bind rfl rfl rfl ?_
      refine (accounts_recover (rings trail) (by exact stack) (by simp)
        (fun _ => Alarm.isOf_of_frames_eq_nil) ?_).bind fun _ _ _ => .pure _
      rintro _ _ _ _ _ ⟨⟩

/-- Calls give accounts, if those with more on the stack do. A key is resolved without a call too
deep inside others but in its texts. -/
theorem rings_answerStep (trail : Trail) : Rings setup False trail (answerStep setup deeper) := by
  intro call fs e stack
  cases call with
  | resolveKey key => exact accounts_resolveStep rings stack
  | lookup expression =>
    exact (accounts_follow (rings trail) stack).mono fun _ _ => trivial
  | expand text =>
    have expanded : Accounts setup none (Alarm.IsOf (· = none) False) fs
        (substituteAll setup deeper none text) e := accounts_substitute (rings trail) stack
    exact (expanded.mono fun _ _ => trivial).bind fun _ _ _ => .pure _
  | resolveAll =>
    exact (accounts_resolvePending (rings trail) stack fun _ _ _ _ => trivial).bind
      fun _ _ _ => .pure _

end Deeper

theorem rings_resolveOn (setup : Setup) (room : Nat) (trail : Trail) :
    Rings setup False trail (resolveOn setup room) := by
  induction room generalizing trail with
  | zero =>
    have exhausts (trail : Trail) : Rings setup True trail exhausted := by
      intro call fs e _
      cases call with
      | resolveKey key => exact .raise (fun _ _ => .inr (.inr rfl)) ⟨by simp, fun _ _ => trivial⟩
      | _ => exact .raise (fun _ _ => .inr (.inr rfl)) trivial
    exact rings_answerStep exhausts trail
  | succ room ih => exact rings_answerStep ih trail

theorem rings_atRest (setup : Setup) : Rings setup False .empty (atRest setup) :=
  fun call fs e stack => .get_bind (rings_resolveOn setup _ .empty call fs e stack)

end Watching

namespace Session.Call

open Watching

/-- What is raised while a call is at work, the latest first. -/
def alarms (setup : Setup) (s : Session) (call : Call) : List Alarm :=
  ((call.watching setup).final [] (.begun s)).alarms

/-- Whether a call evaluates a text of an owner by itself: the text that it is given, or the value
of a key that it asks for. -/
def Evaluates (setup : Setup) (s : Session) : Call → Option String → Prop
  | .expand _, owner => owner = none
  | call, owner => ∃ key, owner = some key ∧ call.Asks setup s key

/-- A call under watch gives an account. -/
theorem accounts_watching (setup : Setup) (s : Session) (call : Call) :
    Accounts setup none (Alarm.IsOf (call.Evaluates setup s) False) [] (call.watching setup)
      (.begun s) := by
  have rings := rings_atRest setup
  have stack : (Watched.begun s).stack = Trail.empty.stack := Trail.stack_empty.symm
  cases call with
  | resolveKey key =>
    have resolved : Accounts setup none (Alarm.IsOf (· = some key) False) []
        (Watching.atRest setup key) (.begun s) := rings (.resolveKey key) [] _ stack
    refine Accounts.bind (resolved.mono fun alarm of => ?_) fun _ _ _ => .pure _
    exact of.mono fun owner same => ⟨key, same, rfl⟩
  | lookup expression => exact (accounts_follow rings stack).bind fun _ _ _ => .pure _
  | expand text => exact (accounts_substitute rings stack).bind fun _ _ _ => .pure _
  | resolveAll =>
    refine accounts_resolvePending rings stack fun key mem alarm of => ?_
    exact of.mono fun owner same => ⟨key, same, mem⟩

/-- What is raised while a call is at work accounts for its result. -/
theorem accounted (setup : Setup) (s : Session) (call : Call) :
    Accounted setup none (Alarm.IsOf (call.Evaluates setup s) False)
      ((call.action setup).result s) (call.alarms setup s) := by
  obtain ⟨-, alarms, told, account⟩ := accounts_watching setup s call
  have mirrors := mirrors_call setup call [] (.begun s) Trail.stack_empty.symm
  have same : call.alarms setup s = alarms := by
    refine told.trans ?_
    simp [Watched.begun]
  rw [mirrors.result] at account
  rw [same]
  exact account

/-- A mishap escapes as it is only where it was raised with no reference in progress: by a command
of a text that the call evaluates by itself, for a key that is not there, or by a handler. -/
theorem exists_of_mishap (setup : Setup) (call : Call) (s : Session) {mishap : Mishap}
    (stopped : (call.action setup).result s = .error (.mishap mishap)) :
    ∃ alarm ∈ call.alarms setup s, alarm.caught = false ∧ alarm.halt = .mishap mishap ∧
      ((∃ f, alarm.site = .command ∧ alarm.frames = [f] ∧ f.reference? setup = none ∧
          call.Evaluates setup s f.owner) ∨
        ((alarm.site = .path ∨ alarm.site = .handler) ∧ alarm.frames = [])) := by
  have account := accounted setup s call
  obtain ⟨alarm, mem, placed, outcome, escapes⟩ := (account.raised _ stopped).resolve_left (by simp)
  have fits := account.fits alarm mem
  have uncaught : alarm.caught = false := by
    cases caught : alarm.caught with
    | false => rfl
    | true => simp [Alarm.outcome?, caught] at outcome
  have halt : alarm.halt = .mishap mishap := by
    cases raised : alarm.halt with
    | failure failure => rw [raised] at escapes; cases escapes
    | mishap other =>
      rw [raised, escaping] at escapes
      split at escapes
      · cases escapes
      · exact escapes
  have unreferenced : innermost? setup alarm.frames = none := by
    rw [halt, escaping] at escapes
    split at escapes
    · cases escapes
    · assumption
  refine ⟨alarm, mem, uncaught, halt, ?_⟩
  obtain frames | ⟨f, frames, idle⟩ := fits.frames_of_none unreferenced
  · obtain path | handler | depth := fits.outside mishap halt frames
    · exact .inr ⟨.inl path, frames⟩
    · exact .inr ⟨.inr handler, frames⟩
    · exact (placed.depth frames depth).elim
  · exact .inl ⟨f, fits.inside mishap f [] halt frames idle, frames, idle,
      placed.outermost f (by rw [frames]; rfl)⟩

/-- A mishap that is raised while a reference is in progress escapes as the failure of the innermost
one. -/
theorem result_of_mishap (setup : Setup) (call : Call) (s : Session) {alarm : Alarm}
    {mishap : Mishap} {owner : Option String} {p : Placeholder}
    (raised : alarm ∈ call.alarms setup s) (uncaught : alarm.caught = false)
    (halt : alarm.halt = .mishap mishap)
    (innermost : innermost? setup alarm.frames = some (owner, p)) :
    (call.action setup).result s =
      .error (.failure (.nested (ownerOr "<value>" owner) p.text (some mishap.message))) := by
  have account := accounted setup s call
  refine account.outcome alarm raised _ ?_
  rw [Alarm.outcome?_of_passed ((account.fits alarm raised).fate_eq halt) uncaught, halt]
  simp only [escaping, innermost]

/-- A failure escapes as it was raised, unless the handler of its kind recovers or stops in its
turn, or the handler of join expressions drops it for the failure that it is handling. -/
theorem result_of_failure (setup : Setup) (call : Call) (s : Session) {alarm : Alarm}
    {failure : Failure} (raised : alarm ∈ call.alarms setup s) (uncaught : alarm.caught = false)
    (halt : alarm.halt = .failure failure) :
    (call.action setup).result s = .error (.failure failure) ∨
      (∃ handler answer, alarm.fate = .offered handler answer ∧
        setup.registry.get? failure.kind = some handler ∧ handler ≠ .reportLoop ∧
        (∀ respond, handler = .reply respond →
          (∀ text, respond failure = .answer text → answer = .ok text) ∧
            ∀ halt', respond failure = .stop halt' → answer = .error halt') ∧
        ∀ halt', answer = .error halt' →
          (call.action setup).result s = .error (escaping setup alarm.frames halt')) ∨
      (alarm.site = .array ∧ ∃ first ∈ call.alarms setup s, ∃ original,
        first.halt = .failure original ∧ first.frames = alarm.frames ∧
        (∃ answer, first.fate = .offered .joinElements answer) ∧
        (call.action setup).result s = .error (.failure original)) := by
  have account := accounted setup s call
  have fits := account.fits alarm raised
  have comes := account.outcome alarm raised
  cases fate : alarm.fate with
  | passed => exact .inl (comes _ (by simp [Alarm.outcome?, fate, halt, uncaught]))
  | offered handler answer =>
    obtain ⟨other, same, registered, reports, replies⟩ := fits.offered handler answer fate
    obtain rfl : failure = other := by
      rw [halt] at same
      exact Halt.failure.inj same
    have stops : ∀ halt', answer = .error halt' →
        (call.action setup).result s = .error (escaping setup alarm.frames halt') := by
      rintro halt' rfl
      exact comes _ (by simp [Alarm.outcome?, fate, uncaught])
    by_cases report : handler = .reportLoop
    · exact .inl (stops _ (reports report))
    · exact .inr (.inl ⟨handler, answer, rfl, registered, report, replies, stops⟩)
  | replaced original =>
    obtain ⟨first, mem, handled, place, answer⟩ :=
      (account.original alarm raised original fate).resolve_left (by simp)
    exact .inr (.inr ⟨(fits.replaced original fate).1, first, mem, original, handled, place, answer,
      comes _ (by simp [Alarm.outcome?, fate, uncaught])⟩)

/-- What comes of whatever is raised while a call is at work, unless it is raised in the course of a
call that a handler attempts and that is stopped: a mishap escapes as it is only from outside of
references, from within it is the failure of the innermost reference in progress, and a failure
escapes as it was raised unless a handler has a part in it. -/
theorem escapes (setup : Setup) (call : Call) (s : Session) :
    (∀ mishap, (call.action setup).result s = .error (.mishap mishap) →
      ∃ alarm ∈ call.alarms setup s, alarm.caught = false ∧ alarm.halt = .mishap mishap ∧
        ((∃ f, alarm.site = .command ∧ alarm.frames = [f] ∧ f.reference? setup = none ∧
            call.Evaluates setup s f.owner) ∨
          ((alarm.site = .path ∨ alarm.site = .handler) ∧ alarm.frames = []))) ∧
    (∀ alarm ∈ call.alarms setup s, alarm.caught = false →
      ∀ mishap, alarm.halt = .mishap mishap →
        ∀ owner p, innermost? setup alarm.frames = some (owner, p) →
          (call.action setup).result s =
            .error (.failure (.nested (ownerOr "<value>" owner) p.text (some mishap.message)))) ∧
    (∀ alarm ∈ call.alarms setup s, alarm.caught = false →
      ∀ failure, alarm.halt = .failure failure →
        (call.action setup).result s = .error (.failure failure) ∨
          (∃ handler answer, alarm.fate = .offered handler answer ∧
            setup.registry.get? failure.kind = some handler ∧ handler ≠ .reportLoop ∧
            (∀ respond, handler = .reply respond →
              (∀ text, respond failure = .answer text → answer = .ok text) ∧
                ∀ halt, respond failure = .stop halt → answer = .error halt) ∧
            ∀ halt, answer = .error halt →
              (call.action setup).result s = .error (escaping setup alarm.frames halt)) ∨
          (alarm.site = .array ∧ ∃ first ∈ call.alarms setup s, ∃ original,
            first.halt = .failure original ∧ first.frames = alarm.frames ∧
            (∃ answer, first.fate = .offered .joinElements answer) ∧
            (call.action setup).result s = .error (.failure original))) :=
  ⟨fun _ stopped => exists_of_mishap setup call s stopped,
    fun _ raised uncaught _ halt _ _ innermost =>
      result_of_mishap setup call s raised uncaught halt innermost,
    fun _ raised uncaught _ halt => result_of_failure setup call s raised uncaught halt⟩

set_option maxRecDepth 4000 in
/-- A runner that breaks down two references deep: the innermost reference is named, not the key
that was asked for. With no reference in progress the runner's own mishap escapes, and a missing
variable, for which no handler is consulted, escapes as a failure. -/
theorem escapes_runner :
    let flat : Flat :=
      ⟨[("a", .str "1${b}"), ("b", .str "${c}"), ("c", .str "$(x)")], by simp⟩
    let setup : Setup :=
      ⟨.standard, ⟨fun _ _ => .broken (.runner "boom"), fun _ => none, false⟩, .standard⟩
    (∃ alarm ∈ Call.alarms setup (start flat) (.resolveKey "c"),
        alarm.halt = .mishap (.runner "boom")) ∧
      (Call.action setup .resolveAll).result (start flat) =
        .error (.failure (.nested "b" "${c}" (some "boom"))) ∧
      (Call.action setup (.expand "$X")).result (start flat) =
        .error (.failure (.variableMissing "X")) := by
  intro flat setup
  refine ⟨?_, ?_, ?_⟩
  · have stopped : (Call.action setup (.resolveKey "c")).result (start flat) =
        .error (.mishap (.runner "boom")) := by
      dsimp only [flat, setup]
      cbv
    obtain ⟨alarm, raised, -, halt, -⟩ := (escapes setup _ (start flat)).1 _ stopped
    exact ⟨alarm, raised, halt⟩
  · let inner : Frame := ⟨some "c", "$(x)", 0⟩
    let middle : Frame := ⟨some "b", "${c}", 0⟩
    let outer : Frame := ⟨some "a", "1${b}", 0⟩
    let alarm : Alarm :=
      ⟨.mishap (.runner "boom"), .command, .passed, [inner, middle, outer], false⟩
    let wrapped : Alarm :=
      ⟨.failure (.nested "b" "${c}" (some "boom")), .reference, .passed, [middle, outer], false⟩
    have alarms : Call.alarms setup (start flat) .resolveAll = [wrapped, alarm] := by
      dsimp only [flat, setup, alarm, wrapped, inner, middle, outer]
      cbv
    have raised : alarm ∈ Call.alarms setup (start flat) .resolveAll := by
      rw [alarms]
      exact List.mem_cons_of_mem _ List.mem_cons_self
    have innermost : innermost? setup alarm.frames = some (some "b", ⟨.reference, "c", 0⟩) := by
      cbv
    exact (escapes setup .resolveAll (start flat)).2.1 alarm raised rfl _ rfl _ _ innermost
  · let alarm : Alarm :=
      ⟨.failure (.variableMissing "X"), .variable, .passed, [⟨none, "$X", 0⟩], false⟩
    have alarms : Call.alarms setup (start flat) (.expand "$X") = [alarm] := by
      dsimp only [flat, setup, alarm]
      cbv
    have raised : alarm ∈ Call.alarms setup (start flat) (.expand "$X") := by
      rw [alarms]
      exact List.mem_cons_self
    obtain escaped | ⟨handler, answer, offered, -⟩ | ⟨array, -⟩ :=
      (escapes setup (.expand "$X") (start flat)).2.2 alarm raised rfl _ rfl
    · exact escaped
    · cases offered
    · cases array

set_option maxRecDepth 4000 in
/-- A failure that was offered to a handler need neither be recovered from nor escape: a variable
that is missing for an element escapes, and the missing expression does not. A key without a name is
not named, a handler's own mishap escapes as it is, and a handler that resolves a key may go on
where that fails. -/
theorem not_escapes :
    let silent : Host := ⟨fun _ _ => .output "", fun _ => none, false⟩
    let broken : Host := ⟨fun _ _ => .broken (.runner "boom"), fun _ => none, false⟩
    let joining : Setup := ⟨.standard, silent, .standard⟩
    let unnamed : Setup := ⟨.standard, broken, .standard⟩
    let refusing : Setup := ⟨.standard, silent,
      .register .empty .keyNotFound (.reply fun _ => .stop (.mishap (.runner "boom")))⟩
    let trying : Setup := ⟨.standard, silent, .register .empty .keyNotFound
      (.reply fun _ => .attempt (.resolveKey "x") fun _ => .answer "1")⟩
    let list : Flat := ⟨[("l[0]", .str "$X")], by simp⟩
    let nameless : Flat := ⟨[("", .str "${a}"), ("a", .str "$(x)")], by simp⟩
    let unset : Flat := ⟨[("x", .str "$X")], by simp⟩
    (∃ alarm ∈ Call.alarms joining (start list) (.lookup "l.join(,)"),
      alarm.halt = .failure (.keyNotFound "l.join(,)" .unmatched) ∧
        alarm.fate = .offered .joinElements (.error (.failure (.variableMissing "X")))) ∧
      (Call.action joining (.lookup "l.join(,)")).result (start list) =
        .error (.failure (.variableMissing "X")) ∧
      (Call.action unnamed (.resolveKey "")).result (start nameless) =
        .error (.failure (.nested "<value>" "${a}" (some "boom"))) ∧
      (Call.action refusing (.lookup "x")).result (start .empty) =
        .error (.mishap (.runner "boom")) ∧
      (∃ alarm ∈ Call.alarms trying (start unset) (.expand "${y}"),
        alarm.halt = .failure (.variableMissing "X") ∧ alarm.fate = .passed) ∧
      (Call.action trying (.expand "${y}")).result (start unset) = .ok () := by
  intro silent broken joining unnamed refusing trying list nameless unset
  have joined : Call.alarms joining (start list) (.lookup "l.join(,)") =
      [⟨.failure (.keyNotFound "l.join(,)" .unmatched), .lookup,
          .offered .joinElements (.error (.failure (.variableMissing "X"))), [], false⟩,
        ⟨.failure (.variableMissing "X"), .variable, .passed, [⟨some "l[0]", "$X", 0⟩],
          false⟩] := by
    dsimp only [joining, silent, list]
    cbv
  have tried : (Call.alarms trying (start unset) (.expand "${y}"))[1]? =
      some ⟨.failure (.variableMissing "X"), .variable, .passed,
        [⟨some "x", "$X", 0⟩, ⟨none, "${y}", 0⟩], true⟩ := by
    dsimp only [trying, silent, unset]
    cbv
  refine ⟨?_, ?_, ?_, ?_, ?_, ?_⟩
  · rw [joined]
    exact ⟨_, List.mem_cons_self, rfl, rfl⟩
  · dsimp only [joining, silent, list]
    cbv
  · dsimp only [unnamed, broken, nameless]
    cbv
  · dsimp only [refusing, silent]
    cbv
  · exact ⟨_, List.mem_of_getElem? tried, rfl, rfl⟩
  · dsimp only [trying, silent, unset]
    cbv

end Session.Call

end ConfigTemplate
