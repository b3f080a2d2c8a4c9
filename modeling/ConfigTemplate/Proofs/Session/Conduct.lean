import ConfigTemplate.Proofs.Flat.Lookup
import ConfigTemplate.Proofs.Session.Cost
import ConfigTemplate.Proofs.Session.Mirror

/-!
# What is seen of the work

Work under watch goes from sight to sight. A sight shows the texts that are being substituted, one
on behalf of the other, the session under watch, and what stopped the work once it was stopped. A
key comes into sight on behalf of the innermost text, whose first placeholder leads to it, or
because it was asked for. The last key on the stack goes out of sight when it is settled or given
up. Handlers that are not prompt may ask for any key and have texts of their own substituted, and
those that attempt calls may go on after a stop.

All work takes these steps, and comes back to the texts and the stack that it began with. What is
shown step by step therefore holds of all work, with any handlers and for any keys.
-/

namespace ConfigTemplate

/-- Whether a halt is the failure of a loop. -/
def Halt.IsLoop : Halt → Prop
  | .failure (.circular ..) => True
  | _ => False

/-- Whether an expression leads to a key: as a path or a shorthand of it, or as a join expression
whose array it is an element of. -/
inductive Session.LeadsTo (setup : Setup) (flat : Flat) (expression key : String) : Prop where
  | direct {found : Flat.Pick}
    (resolved : flat.resolve setup.options.uniqueMatch expression = .ok found)
    (chosen : found.chosen = key)
  | element {missing : String} {why : Failure.Missing} {join : Join} {found : Flat.Pick}
    {paths : List String}
    (missed : flat.resolve setup.options.uniqueMatch expression =
      .error (.keyNotFound missing why))
    (joined : Join.ofExpression? missing = some join)
    (array : flat.pickArray setup.options.uniqueMatch join.path = .ok found)
    (listed : flat.elementPaths join.path found.chosen = .ok paths) (mem : key ∈ paths)

namespace Watched

/-- Where a key begins to be resolved. -/
def entering (e : Watched) (key : String) (longer : Trail) : Watched :=
  ((e.stacked (.push key) longer.stack).marked key .inProgress).noted (.entered key)

/-- After the resolution of the last key on the stack has failed. -/
def gaveUpOn (e : Watched) (key : String) (trail : Trail) : Watched :=
  ((e.marked key .failed).stacked .pop trail.stack).noted (.failed key)

/-- After the last key on the stack was resolved. -/
def settledOn (e : Watched) (key : String) (value : Json) (trail : Trail) : Watched :=
  ((e.stacked .pop trail.stack).marked key .resolved).noted (.settled key value)

end Watched

/-- What is seen of a session's work: the texts that are being substituted, the innermost first, the
session under watch, and what stopped the work. -/
structure Sight where
  frames : List Frame
  watched : Watched
  stop : Option Stop

namespace Sight

/-- Whether a key may come into sight: a reference in front of the innermost text leads to it, or,
where no text is being substituted, it is asked for. -/
def Wanted (setup : Setup) (flat : Flat) (asked : String → Prop) : List Frame → String → Prop
  | [], key => asked key
  | f :: _, key => ∃ p, Placeholder.scan (Session.kinds setup) f.text = some p ∧
      p.kind = .reference ∧ Session.LeadsTo setup flat (Text.trimmed p.payload) key

/-- Whether a call may be made. Prompt handlers make none, so nothing but wanted keys is asked for
then. -/
def Admits (setup : Setup) (flat : Flat) (asked : String → Prop) (fs : List Frame)
    (call : Session.Call) : Prop :=
  setup.registry.IsPrompt → ∃ key, call = .resolveKey key ∧ Wanted setup flat asked fs key

/-- The steps of a session's work. -/
inductive Step (setup : Setup) (flat : Flat) (asked : String → Prop) : Sight → Sight → Prop where
  /-- Something is told of, and no key begins or ends being resolved with it. -/
  | note {fs : List Frame} {e : Watched} {event : Event} (quiet : event.IsQuiet) :
    Step setup flat asked ⟨fs, e, none⟩ ⟨fs, e.noted event, none⟩
  /-- Something is begun. -/
  | act {fs : List Frame} {e : Watched} {act : Act} (begins : act.Begins) :
    Step setup flat asked ⟨fs, e, none⟩ ⟨fs, e.acted act, none⟩
  /-- Something is told of what was raised. -/
  | ring {fs : List Frame} {e : Watched} {stop : Option Stop} {alarms : List Alarm} :
    Step setup flat asked ⟨fs, e, stop⟩ ⟨fs, e.alarmed alarms, stop⟩
  /-- A key is not pushed. -/
  | reject {fs : List Frame} {e : Watched} {trail : Trail} {key : String}
    (stack : e.stack = trail.stack) (closes : key ∈ trail.keys) :
    Step setup flat asked ⟨fs, e, none⟩ ⟨fs, e.acted (.push key), none⟩
  /-- The string of a key begins to be substituted. -/
  | enter {fs : List Frame} {e : Watched} {trail longer : Trail} {key text : String}
    (stack : e.stack = trail.stack) (pushed : trail.push key = .ok longer)
    (unresolved : e.session.mark key ≠ .resolved)
    (present : e.session.flat.get? key = some (.str text))
    (wanted : setup.registry.IsPrompt → Wanted setup flat asked fs key) :
    Step setup flat asked ⟨fs, e, none⟩ ⟨⟨some key, text, 0⟩ :: fs, e.entering key longer, none⟩
  /-- A key that holds no string is resolved at once. -/
  | take {fs : List Frame} {e : Watched} {trail longer : Trail} {key : String} {value : Json}
    (stack : e.stack = trail.stack) (pushed : trail.push key = .ok longer)
    (unresolved : e.session.mark key ≠ .resolved)
    (present : e.session.flat.get? key = some value) (other : ∀ text, value ≠ .str text) :
    Step setup flat asked ⟨fs, e, none⟩
      ⟨fs, (e.entering key longer).settledOn key value trail, none⟩
  /-- A key that is no key of the document is given up at once. -/
  | miss {fs : List Frame} {e : Watched} {trail longer : Trail} {key : String}
    (stack : e.stack = trail.stack) (pushed : trail.push key = .ok longer)
    (unresolved : e.session.mark key ≠ .resolved) (absent : e.session.flat.get? key = none) :
    Step setup flat asked ⟨fs, e, none⟩
      ⟨fs, (e.entering key longer).gaveUpOn key trail,
        some ⟨.mishap (.unknownPath key), longer.keys, fs⟩⟩
  /-- A text of a handler begins to be substituted. -/
  | begin {fs : List Frame} {e : Watched} {text : String} (free : ¬ setup.registry.IsPrompt) :
    Step setup flat asked ⟨fs, e, none⟩ ⟨⟨none, text, 0⟩ :: fs, e, none⟩
  /-- A placeholder is replaced. -/
  | replace {f : Frame} {fs : List Frame} {e : Watched} {p : Placeholder} {new : String}
    (found : Placeholder.scan (Session.kinds setup) f.text = some p) :
    Step setup flat asked ⟨f :: fs, e, none⟩
      ⟨{ f with text := p.splice f.text new, count := f.count + 1 } :: fs,
        e.noted (.replaced f.text p new), none⟩
  /-- The substitution of a key's string ends, and the key is resolved. -/
  | settle {f : Frame} {fs : List Frame} {e : Watched} {trail longer : Trail} {key old : String}
    (owner : f.owner = some key) (stack : e.stack = longer.stack)
    (pushed : trail.push key = .ok longer) (present : e.session.flat.get? key = some (.str old)) :
    Step setup flat asked ⟨f :: fs, e, none⟩
      ⟨fs, (e.stored key (.str f.text)).settledOn key (.str f.text) trail, none⟩
  /-- The substitution of a text that belongs to no key ends. -/
  | deliver {f : Frame} {fs : List Frame} {e : Watched} (owner : f.owner = none) :
    Step setup flat asked ⟨f :: fs, e, none⟩ ⟨fs, e, none⟩
  /-- The work is stopped by something other than a loop. -/
  | stop {fs gs : List Frame} {e : Watched} {halt : Halt} (other : ¬ halt.IsLoop) :
    Step setup flat asked ⟨fs, e, none⟩ ⟨fs, e, some ⟨halt, e.stack.order, gs⟩⟩
  /-- The work is stopped by a handler's own answer. -/
  | refuse {fs : List Frame} {e : Watched} {halt : Halt} {kind : Failure.Kind}
    {respond : Failure → Reply} (registered : setup.registry.get? kind = some (.reply respond)) :
    Step setup flat asked ⟨fs, e, none⟩ ⟨fs, e, some ⟨halt, e.stack.order, fs⟩⟩
  /-- A key that is being resolved is wanted again. -/
  | loop {fs : List Frame} {e : Watched} {trail : Trail} {key : String}
    (stack : e.stack = trail.stack) (closes : key ∈ trail.keys)
    (unresolved : e.session.mark key ≠ .resolved)
    (wanted : setup.registry.IsPrompt → Wanted setup flat asked fs key) :
    Step setup flat asked ⟨fs, e, none⟩
      ⟨fs, e, some ⟨.failure (.circular key trail.keys), trail.keys, fs⟩⟩
  /-- A stop is passed on to the text that holds the reference. -/
  | nest {f : Frame} {fs : List Frame} {e : Watched} {stop : Stop} {p : Placeholder} :
    Step setup flat asked ⟨f :: fs, e, some stop⟩ ⟨f :: fs, e, some (stop.nested f.owner p)⟩
  /-- After a stop the innermost key is given up. -/
  | giveUp {f : Frame} {fs : List Frame} {e : Watched} {trail longer : Trail} {key : String}
    {stop : Stop} (owner : f.owner = some key) (stack : e.stack = longer.stack)
    (pushed : trail.push key = .ok longer) :
    Step setup flat asked ⟨f :: fs, e, some stop⟩ ⟨fs, e.gaveUpOn key trail, some stop⟩
  /-- After a stop a text that belongs to no key is dropped. -/
  | drop {f : Frame} {fs : List Frame} {e : Watched} {stop : Stop} (owner : f.owner = none) :
    Step setup flat asked ⟨f :: fs, e, some stop⟩ ⟨fs, e, some stop⟩
  /-- A handler goes on after a stop. -/
  | resume {fs : List Frame} {e : Watched} {stop : Stop}
    (guarded : ¬ setup.registry.IsUnguarded) :
    Step setup flat asked ⟨fs, e, some stop⟩ ⟨fs, e, none⟩

/-- Whether some steps lead from a sight to another. -/
abbrev Leads (setup : Setup) (flat : Flat) (asked : String → Prop) : Sight → Sight → Prop :=
  Relation.ReflTransGen (Step setup flat asked)

variable {setup : Setup} {flat : Flat} {asked : String → Prop} {v w : Sight}

/-- What every step keeps is kept all the way. -/
theorem Leads.keeps {I : Sight → Prop} (step : ∀ {v w}, Step setup flat asked v w → I v → I w)
    (h : Leads setup flat asked v w) (holds : I v) : I w := by
  induction h with
  | refl => exact holds
  | tail _ last ih => exact step last ih

/-- What every step keeps beside an invariant is kept all the way. -/
theorem Leads.keeps_of {J I : Sight → Prop}
    (always : ∀ {v w}, Step setup flat asked v w → J v → J w)
    (step : ∀ {v w}, Step setup flat asked v w → J v → I v → I w)
    (h : Leads setup flat asked v w) (orderly : J v) (holds : I v) : I w := by
  have both := h.keeps (I := fun v => J v ∧ I v)
    (fun next both => ⟨always next both.1, step next both.1 both.2⟩) ⟨orderly, holds⟩
  exact both.2

/-- The shape of the document stays the same. -/
theorem Step.shape_eq (h : Step setup flat asked v w) :
    w.watched.session.flat.shape = v.watched.session.flat.shape := by
  cases h with
  | settle owner stack pushed present => exact Flat.shape_put present rfl
  | _ => rfl

/-- A key that holds a string goes on holding one. -/
theorem Step.exists_str (h : Step setup flat asked v w) {key : String}
    (present : ∃ text, v.watched.session.flat.get? key = some (.str text)) :
    ∃ text, w.watched.session.flat.get? key = some (.str text) := by
  cases h with
  | @settle f fs e trail longer other old owner stack pushed held =>
    by_cases same : other = key
    · subst same
      exact ⟨f.text, Flat.get?_put_self ..⟩
    · obtain ⟨text, found⟩ := present
      exact ⟨text, (Flat.get?_put_of_ne _ same _).trans found⟩
  | _ => exact present

theorem Leads.exists_str (h : Leads setup flat asked v w) {key : String}
    (present : ∃ text, v.watched.session.flat.get? key = some (.str text)) :
    ∃ text, w.watched.session.flat.get? key = some (.str text) :=
  h.keeps (fun step => step.exists_str) present

theorem Leads.shape_eq (h : Leads setup flat asked v w) :
    w.watched.session.flat.shape = v.watched.session.flat.shape :=
  h.keeps (I := fun w => w.watched.session.flat.shape = v.watched.session.flat.shape)
    (fun step same => step.shape_eq.trans same) rfl

end Sight

/-! ### What only tells of something -/

/-- Whether an action only adds events to the journal with which no key begins or ends being
resolved, and is stopped by no loop. -/
structure Action.OnlyTells {α : Type} (action : Action α) : Prop where
  tells : ∀ s, Relation.ReflTransGen (fun s t => ∃ event : Event, event.IsQuiet ∧ t = s.noted event)
    s (action.final s)
  halts : ∀ s halt, action.result s = .error halt → ¬ halt.IsLoop

namespace Action.OnlyTells

open ConfigTemplate.Action

variable {α β : Type}

theorem pure (x : α) : OnlyTells (pure x : Action α) :=
  ⟨fun _ => .refl, fun _ _ stopped => by cases stopped⟩

theorem throw {halt : Halt} (other : ¬ halt.IsLoop) : OnlyTells (throw halt : Action α) := by
  refine ⟨fun _ => .refl, fun s halt' stopped => ?_⟩
  cases stopped
  exact other

theorem note {event : Event} (quiet : event.IsQuiet) : OnlyTells (note event) :=
  ⟨fun _ => .single ⟨event, quiet, rfl⟩, fun _ _ stopped => by cases stopped⟩

theorem bind {action : Action α} {next : α → Action β} (first : OnlyTells action)
    (rest : ∀ x, OnlyTells (next x)) : OnlyTells (action >>= next) := by
  constructor
  · intro s
    cases result : action.result s with
    | error halt =>
      rw [final_bind_of_error result]
      exact first.tells s
    | ok x =>
      rw [final_bind_of_ok result]
      exact (first.tells s).trans ((rest x).tells _)
  · intro s halt stopped
    cases result : action.result s with
    | error halt' =>
      rw [result_bind_of_error result] at stopped
      cases stopped
      exact first.halts s halt result
    | ok x =>
      rw [result_bind_of_ok result] at stopped
      exact (rest x).halts _ halt stopped

theorem get_bind {next : Session → Action α} (h : ∀ s, OnlyTells (next s)) :
    OnlyTells (get >>= next) :=
  ⟨fun s => (h s).tells s, fun s => (h s).halts s⟩

theorem notePick (key : String) (found : Flat.Pick) : OnlyTells (notePick key found) := by
  unfold Action.notePick
  split
  · exact .note (by trivial)
  · exact .pure _

theorem runCommand (setup : Setup) (source command : String) :
    OnlyTells (Session.runCommand setup source command) := by
  refine .get_bind fun s => (OnlyTells.note (by trivial)).bind fun _ => ?_
  split
  · exact .pure _
  · exact .throw id
  · exact .throw id

theorem readVariable (host : Host) (name : String) :
    OnlyTells (Session.orFail (Session.readVariable host name)) := by
  unfold Session.readVariable
  split
  · split
    · exact .throw id
    · exact .pure _
  · exact .throw id

theorem noteWithheld (setup : Setup) (key : String) (value : Json) :
    OnlyTells (Session.noteWithheld setup key value) := by
  have noted (ps : List Placeholder) :
      OnlyTells (ps.forM fun p => Action.note (.withheld key p.text)) := by
    induction ps with
    | nil => exact .pure _
    | cons p rest ih => exact (OnlyTells.note (by trivial)).bind fun _ => ih
  unfold Session.noteWithheld
  split
  · split
    · exact .pure _
    · exact noted _
  · exact .pure _

end Action.OnlyTells

/-! ### Work takes the steps -/

namespace Watching

open Sight

variable {α β : Type} {setup : Setup} {flat : Flat} {asked : String → Prop} {fs : List Frame}
variable {e : Watched}

/-- What stopped a piece of work. -/
def stop? : Except Stop α → Option Stop
  | .ok _ => none
  | .error stop => some stop

/-- Whether work under watch, begun while some texts are being substituted, goes from sight to sight
and comes back to these texts and to the stack. -/
structure Conducts (setup : Setup) (flat : Flat) (asked : String → Prop) (fs : List Frame)
    (work : Watching α) (e : Watched) : Prop where
  leads : Leads setup flat asked ⟨fs, e, none⟩ ⟨fs, work.final fs e, stop? (work.result fs e)⟩
  stack : (work.final fs e).stack = e.stack

namespace Conducts

theorem of_ok {work : Watching α} {x : α} (result : work.result fs e = .ok x)
    (leads : Leads setup flat asked ⟨fs, e, none⟩ ⟨fs, work.final fs e, none⟩)
    (stack : (work.final fs e).stack = e.stack) : Conducts setup flat asked fs work e := by
  refine ⟨?_, stack⟩
  rwa [result]

theorem of_error {work : Watching α} {stop : Stop} (result : work.result fs e = .error stop)
    (leads : Leads setup flat asked ⟨fs, e, none⟩ ⟨fs, work.final fs e, some stop⟩)
    (stack : (work.final fs e).stack = e.stack) : Conducts setup flat asked fs work e := by
  refine ⟨?_, stack⟩
  rwa [result]

theorem ok {work : Watching α} {x : α} (h : Conducts setup flat asked fs work e)
    (result : work.result fs e = .ok x) :
    Leads setup flat asked ⟨fs, e, none⟩ ⟨fs, work.final fs e, none⟩ := by
  have leads := h.leads
  rwa [result] at leads

theorem error {work : Watching α} {stop : Stop} (h : Conducts setup flat asked fs work e)
    (result : work.result fs e = .error stop) :
    Leads setup flat asked ⟨fs, e, none⟩ ⟨fs, work.final fs e, some stop⟩ := by
  have leads := h.leads
  rwa [result] at leads

theorem pure (x : α) : Conducts setup flat asked fs (pure x : Watching α) e := ⟨.refl, rfl⟩

theorem note {event : Event} (quiet : event.IsQuiet) :
    Conducts setup flat asked fs (note event) e :=
  ⟨.single (.note quiet), rfl⟩

theorem stop {halt : Halt} (other : ¬ halt.IsLoop) :
    Conducts setup flat asked fs (stop halt : Watching α) e :=
  ⟨.single (.stop other), rfl⟩

theorem ring_bind {site : Site} {fate : Fate} {halt : Halt} {next : Unit → Watching α}
    (h : Conducts setup flat asked fs (next ())
      (e.alarmed (⟨halt, site, fate, fs, false⟩ :: e.alarms))) :
    Conducts setup flat asked fs (Watching.ring site fate halt >>= next) e :=
  ⟨.head .ring h.leads, h.stack⟩

theorem raise {site : Site} {halt : Halt} (other : ¬ halt.IsLoop) :
    Conducts setup flat asked fs (raise site halt : Watching α) e :=
  .ring_bind (.stop other)

/-- Two pieces of work one after the other. The document has the same shape in between, and the
stack is the same. -/
theorem bind_of_ok {work : Watching α} {next : α → Watching β}
    (first : Conducts setup flat asked fs work e)
    (rest : ∀ x, work.result fs e = .ok x → ∀ e', e'.stack = e.stack →
      e'.session.flat.shape = e.session.flat.shape → Conducts setup flat asked fs (next x) e') :
    Conducts setup flat asked fs (work >>= next) e := by
  cases result : work.result fs e with
  | error stop =>
    apply of_error (result_bind_of_error result next)
    · rw [final_bind_of_error result]
      exact first.error result
    · rw [final_bind_of_error result]
      exact first.stack
  | ok x =>
    have begun := first.ok result
    have goesOn := rest x result _ first.stack begun.shape_eq
    constructor
    · rw [final_bind_of_ok result, result_bind_of_ok result]
      exact begun.trans goesOn.leads
    · rw [final_bind_of_ok result]
      exact goesOn.stack.trans first.stack

theorem bind {work : Watching α} {next : α → Watching β}
    (first : Conducts setup flat asked fs work e)
    (rest : ∀ x e', e'.stack = e.stack → e'.session.flat.shape = e.session.flat.shape →
      Conducts setup flat asked fs (next x) e') :
    Conducts setup flat asked fs (work >>= next) e :=
  first.bind_of_ok fun x _ => rest x

theorem get_bind {next : Watched → Watching α} (h : Conducts setup flat asked fs (next e) e) :
    Conducts setup flat asked fs (get >>= next) e :=
  ⟨h.leads, h.stack⟩

theorem note_bind {event : Event} {next : Unit → Watching α} (quiet : event.IsQuiet)
    (h : Conducts setup flat asked fs (next ()) (e.noted event)) :
    Conducts setup flat asked fs (Watching.note event >>= next) e :=
  ⟨.head (.note quiet) h.leads, h.stack⟩

theorem act_bind {act : Act} {next : Unit → Watching α} (begins : act.Begins)
    (h : Conducts setup flat asked fs (next ()) (e.acted act)) :
    Conducts setup flat asked fs (Watching.act act >>= next) e :=
  ⟨.head (.act begins) h.leads, h.stack⟩

/-- What only tells of something is told step by step. -/
theorem leads_of_onlyTells {action : Action α} (h : action.OnlyTells) :
    Leads setup flat asked ⟨fs, e, none⟩
      ⟨fs, { e with session := action.final e.session }, none⟩ := by
  let sight (s : Session) : Sight := ⟨fs, { e with session := s }, none⟩
  refine (h.tells e.session).lift sight ?_
  rintro s _ ⟨event, quiet, rfl⟩
  exact .note quiet

theorem tell {action : Action Unit} (h : action.OnlyTells) :
    Conducts setup flat asked fs (tell action) e :=
  ⟨leads_of_onlyTells h, rfl⟩

theorem plain {site : Site} {action : Action α} (h : action.OnlyTells) :
    Conducts setup flat asked fs (plain site action) e := by
  cases result : action.result e.session with
  | ok x =>
    apply of_ok (x := x)
    · rw [result_plain, result]
      rfl
    · rw [final_plain_of_ok result]
      exact leads_of_onlyTells h
    · rw [final_plain_of_ok result]
  | error halt =>
    have stopped : (Watching.plain site action).result fs e = .error ⟨halt, e.stack.order, fs⟩ := by
      rw [result_plain, result]
      rfl
    apply of_error stopped
    · rw [final_plain_of_error result]
      exact ((leads_of_onlyTells h).tail .ring).tail (.stop (h.halts _ _ result))
    · rw [final_plain_of_error result]
      rfl

/-- What was made of a failure is told in the end. -/
theorem answered {work : Watching String} (h : Conducts setup flat asked fs work e) (site : Site)
    (handler : Handler) (failure : Failure) :
    Conducts setup flat asked fs (attempt work >>= Watching.answered site handler failure) e := by
  have tried := result_attempt fs e work
  cases result : work.result fs e with
  | ok text =>
    rw [result] at tried
    refine .of_ok (result_bind_of_ok tried _) ?_ ?_
    · rw [final_bind_of_ok tried]
      exact (h.ok result).tail .ring
    · rw [final_bind_of_ok tried]
      exact h.stack
  | error stop =>
    rw [result] at tried
    refine .of_error (result_bind_of_ok tried _) ?_ ?_
    · rw [final_bind_of_ok tried]
      exact (h.error result).tail .ring
    · rw [final_bind_of_ok tried]
      exact h.stack

/-- What stops a call is passed on by the handler that makes it. -/
theorem letThrough {work : Watching α} (h : Conducts setup flat asked fs work e) :
    Conducts setup flat asked fs (letThrough work) e := by
  cases result : work.result fs e with
  | ok x =>
    refine .of_ok ((result_letThrough ..).trans result) ?_ ?_
    · rw [final_letThrough_of_ok result]
      exact h.ok result
    · rw [final_letThrough_of_ok result]
      exact h.stack
  | error stop =>
    refine .of_error ((result_letThrough ..).trans result) ?_ ?_
    · rw [final_letThrough_of_error result]
      exact (h.error result).tail .ring
    · rw [final_letThrough_of_error result]
      exact h.stack

/-- What comes of a call that a handler attempts is for the handler to see. -/
theorem overhear (guarded : ¬ setup.registry.IsUnguarded) {work : Watching α}
    (h : Conducts setup flat asked fs work (e.alarmed [])) :
    Conducts setup flat asked fs (overhear work) e := by
  refine .of_ok (result_overhear ..) ?_ ?_
  · rw [final_overhear]
    have begun : Leads setup flat asked ⟨fs, e, none⟩ ⟨fs, e.alarmed [], none⟩ := .single .ring
    cases result : work.result fs (e.alarmed []) with
    | ok x => exact (begun.trans (h.ok result)).tail .ring
    | error stop => exact ((begun.trans (h.error result)).tail (.resume guarded)).tail .ring
  · rw [final_overhear]
    exact h.stack

end Conducts

/-- Whether calls take the steps while the keys of a trail are being resolved. -/
def Enters (setup : Setup) (flat : Flat) (asked : String → Prop) (trail : Trail) (enter : Enter) :
    Prop :=
  ∀ fs call e, e.stack = trail.stack → e.session.flat.shape = flat.shape →
    Admits setup flat asked fs call → Conducts setup flat asked fs (enter.answer call) e

theorem admits_of_wanted {key : String}
    (wanted : setup.registry.IsPrompt → Wanted setup flat asked fs key) :
    Admits setup flat asked fs (.resolveKey key) :=
  fun prompt => ⟨key, rfl, wanted prompt⟩

/-- How the substitution of a text comes out: with the text that it leaves, or with a stop. -/
inductive Concludes (setup : Setup) (flat : Flat) (asked : String → Prop) (fs : List Frame)
    (f : Frame) (work : Watching String) (e : Watched) : Prop where
  | ends {g : Frame} (owner : g.owner = f.owner) (result : work.result fs e = .ok g.text)
    (leads : Leads setup flat asked ⟨f :: fs, e, none⟩ ⟨g :: fs, work.final fs e, none⟩)
    (stack : (work.final fs e).stack = e.stack)
  | stops {g : Frame} {stop : Stop} (owner : g.owner = f.owner)
    (result : work.result fs e = .error stop)
    (leads : Leads setup flat asked ⟨f :: fs, e, none⟩ ⟨g :: fs, work.final fs e, some stop⟩)
    (stack : (work.final fs e).stack = e.stack)

namespace Concludes

variable {f g : Frame} {work rest : Watching String} {e' : Watched}

/-- What comes out after some steps comes out before them. -/
theorem after (h : Concludes setup flat asked fs g rest e') (owner : g.owner = f.owner)
    (leads : Leads setup flat asked ⟨f :: fs, e, none⟩ ⟨g :: fs, e', none⟩)
    (stack : e'.stack = e.stack) (result : work.result fs e = rest.result fs e')
    (final : work.final fs e = rest.final fs e') : Concludes setup flat asked fs f work e := by
  cases h with
  | ends owner' result' leads' stack' =>
    exact .ends (owner'.trans owner) (result.trans result') (final ▸ leads.trans leads')
      (final ▸ stack'.trans stack)
  | stops owner' result' leads' stack' =>
    exact .stops (owner'.trans owner) (result.trans result') (final ▸ leads.trans leads')
      (final ▸ stack'.trans stack)

theorem pure : Concludes setup flat asked fs f (pure f.text) e := .ends rfl rfl .refl rfl

theorem raise {site : Site} {halt : Halt} (other : ¬ halt.IsLoop) :
    Concludes setup flat asked fs f (raise site halt) e :=
  .stops rfl rfl (.head .ring (.single (.stop other))) rfl

theorem note_bind {event : Event} {next : Unit → Watching String} (quiet : event.IsQuiet)
    (h : Concludes setup flat asked fs f (next ()) (e.noted event)) :
    Concludes setup flat asked fs f (note event >>= next) e :=
  h.after rfl (.single (.note quiet)) rfl rfl rfl

/-- A placeholder is replaced. -/
theorem replaced_bind {p : Placeholder} {new : String} {next : Unit → Watching String}
    (found : Placeholder.scan (Session.kinds setup) f.text = some p)
    (h : Concludes setup flat asked fs
      { f with text := p.splice f.text new, count := f.count + 1 } (next ())
      (e.noted (.replaced f.text p new))) :
    Concludes setup flat asked fs f (note (.replaced f.text p new) >>= next) e :=
  h.after rfl (.single (.replace found)) rfl rfl rfl

/-- Work on behalf of the text comes first. -/
theorem within_bind {work : Watching α} {next : α → Watching String}
    (first : Conducts setup flat asked (f :: fs) work e)
    (rest : ∀ x e', e'.stack = e.stack → e'.session.flat.shape = e.session.flat.shape →
      Concludes setup flat asked fs f (next x) e') :
    Concludes setup flat asked fs f (within f work >>= next) e := by
  cases result : work.result (f :: fs) e with
  | error stop =>
    have stopped : (within f work).result fs e = .error stop := result
    refine .stops rfl (result_bind_of_error stopped next) ?_ ?_
    · rw [final_bind_of_error stopped]
      exact first.error result
    · rw [final_bind_of_error stopped]
      exact first.stack
  | ok x =>
    have done : (within f work).result fs e = .ok x := result
    have way := first.ok result
    exact (rest x _ first.stack way.shape_eq).after rfl way first.stack
      (result_bind_of_ok done next) (final_bind_of_ok done next)

end Concludes

/-! ### On the way to a value -/

theorem not_isLoop_of_pick {unique : Bool} {key : String} {paths : List String} {failure : Failure}
    (h : Flat.pick unique key paths = .error failure) : ¬ (Halt.failure failure).IsLoop := by
  unfold Flat.pick at h
  split at h
  · cases h
    exact id
  · cases h
  · split at h
    · cases h
      exact id
    · cases h

theorem not_isLoop_of_resolve {unique : Bool} {key : String} {failure : Failure}
    (h : flat.resolve unique key = .error failure) : ¬ (Halt.failure failure).IsLoop := by
  unfold Flat.resolve at h
  split at h
  · cases h
  · exact not_isLoop_of_pick h

theorem not_isLoop_of_pickArray {unique : Bool} {key : String} {failure : Failure}
    (h : flat.pickArray unique key = .error failure) : ¬ (Halt.failure failure).IsLoop := by
  unfold Flat.pickArray at h
  dsimp only at h
  split at h
  · cases h
  · exact not_isLoop_of_pick h

theorem not_isLoop_of_elementPaths {key array : String} {failure : Failure}
    (h : flat.elementPaths key array = .error failure) : ¬ (Halt.failure failure).IsLoop := by
  unfold Flat.elementPaths at h
  dsimp only at h
  split at h
  · cases h
    exact id
  · cases h

theorem conducts_orMissing {missing : Failure} {found : Except Failure α}
    (none : ¬ (Halt.failure missing).IsLoop)
    (other : ∀ failure, found = .error failure → ¬ (Halt.failure failure).IsLoop) :
    Conducts setup flat asked fs (orMissing missing found) e := by
  unfold orMissing
  split
  · exact .pure _
  · exact .ring_bind (.stop none)
  · exact .raise (other _ rfl)

/-- Only a result is taken. -/
theorem ok_of_orMissing {missing : Failure} {found : Except Failure α} {x : α}
    (h : (orMissing missing found).result fs e = .ok x) : found = .ok x := by
  unfold orMissing at h
  split at h
  · cases h
    rfl
  · cases h
  · cases h

section Enters

variable {trail : Trail} {enter : Enter} (enters : Enters setup flat asked trail enter)

include enters

theorem conducts_elementTexts {paths : List String} (stack : e.stack = trail.stack)
    (shape : e.session.flat.shape = flat.shape)
    (wanted : ∀ path ∈ paths, setup.registry.IsPrompt → Wanted setup flat asked fs path) :
    Conducts setup flat asked fs (elementTexts enter paths) e := by
  induction paths generalizing e with
  | nil => exact .pure _
  | cons path rest ih =>
    rw [List.forall_mem_cons] at wanted
    refine (enters fs _ e stack shape (admits_of_wanted wanted.1)).bind
      fun value e' stack' shape' => ?_
    refine (ih (stack'.trans stack) (shape'.trans shape) wanted.2).bind fun others _ _ _ => ?_
    exact .pure _

theorem conducts_joinElements {missing : Failure} {join : Join} (stack : e.stack = trail.stack)
    (shape : e.session.flat.shape = flat.shape) (none : ¬ (Halt.failure missing).IsLoop)
    (wanted : ∀ found paths, flat.pickArray setup.options.uniqueMatch join.path = .ok found →
      flat.elementPaths join.path found.chosen = .ok paths →
      ∀ path ∈ paths, setup.registry.IsPrompt → Wanted setup flat asked fs path) :
    Conducts setup flat asked fs (joinElements setup enter missing join) e := by
  unfold joinElements
  apply Conducts.get_bind
  dsimp only
  rw [Flat.pickArray_eq_of_shape shape]
  refine (conducts_orMissing none fun _ => not_isLoop_of_pickArray).bind_of_ok
    fun found array e₁ stack₁ shape₁ => ?_
  rw [Flat.elementPaths_eq_of_shape shape]
  refine (Conducts.tell (.notePick _ _)).bind fun _ e₂ stack₂ shape₂ => ?_
  refine (conducts_orMissing none fun _ => not_isLoop_of_elementPaths).bind_of_ok
    fun paths listed e₃ stack₃ shape₃ => ?_
  have mem := wanted found paths (ok_of_orMissing array) (ok_of_orMissing listed)
  refine (conducts_elementTexts enters (stack₃.trans (stack₂.trans (stack₁.trans stack)))
    (shape₃.trans (shape₂.trans (shape₁.trans shape))) mem).bind fun texts _ _ _ => ?_
  split
  · exact (Conducts.stop none).bind fun _ _ _ _ => .note_bind (by trivial) (.pure _)
  · exact .note_bind (by trivial) (.pure _)

/-- The answer of a handler may be a stop of its own. A reply that is not prompt makes calls, and
goes on after those that it attempts. -/
theorem conducts_consult {kind : Failure.Kind} {respond : Failure → Reply} {reply : Reply}
    (registered : setup.registry.get? kind = some (.reply respond))
    (prompt : setup.registry.IsPrompt → reply.IsPrompt)
    (unguarded : setup.registry.IsUnguarded → reply.IsUnguarded) (stack : e.stack = trail.stack)
    (shape : e.session.flat.shape = flat.shape) :
    Conducts setup flat asked fs (consult enter reply) e := by
  have refuse (halt : Halt) (e : Watched) :
      Conducts setup flat asked fs (raise .handler halt : Watching String) e :=
    .ring_bind ⟨.single (.refuse registered), rfl⟩
  by_cases calm : setup.registry.IsPrompt
  · obtain ⟨text, rfl⟩ | ⟨halt, rfl⟩ := (prompt calm).eq_answer_or
    · exact .pure _
    · exact refuse halt e
  clear prompt
  have called (call : Session.Call) {e : Watched} (stack : e.stack = trail.stack)
      (shape : e.session.flat.shape = flat.shape) :
      Conducts setup flat asked fs (enter.answer call) e :=
    enters fs call e stack shape fun prompt => absurd prompt calm
  induction reply generalizing e with
  | answer text => exact .pure _
  | stop halt => exact refuse halt e
  | look next ih =>
    exact .get_bind (ih e.session (fun calls => unguarded calls e.session) stack shape)
  | ask call next ih =>
    have answered := (called call (e := e.acted (.call call)) stack shape).letThrough
    refine .act_bind (by trivial) (answered.bind fun value e' stack' shape' => ?_)
    exact ih value (fun calls => unguarded calls value) (stack'.trans stack) (shape'.trans shape)
  | attempt call next ih =>
    have guarded : ¬ setup.registry.IsUnguarded := unguarded
    have attempted := (called call (e := (e.acted (.call call)).alarmed []) stack shape).overhear
      guarded
    refine .act_bind (by trivial) (attempted.bind fun outcome e' stack' shape' => ?_)
    exact ih outcome (fun calls => absurd calls guarded) (stack'.trans stack) (shape'.trans shape)

/-- A missing key may be made up for by the elements of an array, which the expression leads to. -/
theorem conducts_recover_of_missing {expression key : String} {why : Failure.Missing}
    (stack : e.stack = trail.stack) (shape : e.session.flat.shape = flat.shape)
    (missed : flat.resolve setup.options.uniqueMatch expression = .error (.keyNotFound key why))
    (wanted : ∀ other, Session.LeadsTo setup flat expression other →
      setup.registry.IsPrompt → Wanted setup flat asked fs other) (site : Site) :
    Conducts setup flat asked fs (recover setup enter site (.keyNotFound key why)) e := by
  unfold recover
  cases registered : setup.registry.get? (Failure.keyNotFound key why).kind with
  | none => exact .raise id
  | some handler =>
    refine .act_bind (by trivial) (.answered ?_ ..)
    cases handler with
    | reportLoop => exact .stop id
    | reply respond =>
      exact conducts_consult enters registered (fun prompt => prompt _ _ registered _)
        (fun unguarded => unguarded _ _ registered _) stack shape
    | joinElements =>
      unfold applyHandler
      dsimp only
      cases joined : Join.ofExpression? key with
      | none => exact .stop id
      | some join =>
        exact conducts_joinElements enters stack shape id
          fun found paths array listed path mem =>
            wanted path (.element missed joined array listed mem)

theorem conducts_follow {expression : String} (stack : e.stack = trail.stack)
    (shape : e.session.flat.shape = flat.shape)
    (wanted : ∀ other, Session.LeadsTo setup flat expression other →
      setup.registry.IsPrompt → Wanted setup flat asked fs other) :
    Conducts setup flat asked fs (follow setup enter expression) e := by
  unfold follow
  refine .act_bind (by trivial) (.get_bind ?_)
  have stack : (e.acted (.lookUp expression)).stack = trail.stack := stack
  have shape : (e.acted (.lookUp expression)).session.flat.shape = flat.shape := shape
  generalize e.acted (.lookUp expression) = e at stack shape ⊢
  rw [Flat.resolve_eq_of_shape shape]
  cases looked : flat.resolve setup.options.uniqueMatch expression with
  | ok found =>
    refine (Conducts.tell (.notePick _ _)).bind fun _ e' stack' shape' => ?_
    exact enters fs _ e' (stack'.trans stack) (shape'.trans shape)
      (admits_of_wanted (wanted _ (.direct looked rfl)))
  | error failure =>
    cases failure with
    | keyNotFound key why =>
      exact (conducts_recover_of_missing enters stack shape looked wanted _).bind
        fun _ _ _ _ => .pure _
    | _ => exact .raise (not_isLoop_of_resolve looked)

/-- What takes the place of a placeholder in front of a text is found on behalf of this text. -/
theorem conducts_replacement {f : Frame} {p : Placeholder} (stack : e.stack = trail.stack)
    (shape : e.session.flat.shape = flat.shape)
    (found : Placeholder.scan (Session.kinds setup) f.text = some p) :
    Conducts setup flat asked (f :: fs) (replacement setup enter f.owner f.text p) e := by
  unfold replacement
  cases kind : p.kind with
  | command => exact .act_bind (by trivial) (.plain (.runCommand ..))
  | envVar => exact .act_bind (by trivial) (.note_bind (by trivial) (.plain (.readVariable ..)))
  | reference =>
    have followed : Conducts setup flat asked (f :: fs)
        (follow setup enter (Text.trimmed p.payload)) e :=
      conducts_follow enters stack shape fun other leads _ => ⟨p, found, kind, leads⟩
    have tried := result_attempt (f :: fs) e (follow setup enter (Text.trimmed p.payload))
    cases result : (follow setup enter (Text.trimmed p.payload)).result (f :: fs) e with
    | ok value =>
      rw [result] at tried
      refine .of_ok (result_bind_of_ok tried _) ?_ ?_
      · rw [final_bind_of_ok tried]
        exact followed.ok result
      · rw [final_bind_of_ok tried]
        exact followed.stack
    -- The failure may get a new text on its way, but it comes from where it was raised.
    | error stop =>
      rw [result] at tried
      obtain ⟨halt, keys, frames⟩ := stop
      have nested := (followed.error result).tail (.nest (f := f) (p := p))
      cases halt with
      | failure failure =>
        refine .of_error (result_bind_of_ok tried _) ?_ ?_
        · rw [final_bind_of_ok tried]
          exact nested
        · rw [final_bind_of_ok tried]
          exact followed.stack
      | mishap mishap =>
        refine .of_error (result_bind_of_ok tried _) ?_ ?_
        · rw [final_bind_of_ok tried]
          exact nested.tail .ring
        · rw [final_bind_of_ok tried]
          exact followed.stack

/-- The substitution of a text takes the steps. The number of substitutions that are left and the
number of those that were made add up to the limit. -/
theorem concludes_substitute {f : Frame} {count : Nat} (stack : e.stack = trail.stack)
    (shape : e.session.flat.shape = flat.shape)
    (left : f.count + count = setup.options.limit.toNat) :
    Concludes setup flat asked fs f (substitute setup enter f.owner count f.text) e := by
  induction count generalizing f e with
  | zero =>
    unfold substitute
    split
    · exact .pure
    · exact .raise id
  | succ count ih =>
    unfold substitute
    split
    · exact .pure
    next p found =>
      have here : (⟨f.owner, f.text, setup.options.limit.toNat - (count + 1)⟩ : Frame) = f := by
        rw [← left, Nat.add_sub_cancel_right]
      have replaces : Conducts setup flat asked (f :: fs)
          (replacement setup enter f.owner f.text p) e :=
        conducts_replacement enters stack shape found
      dsimp only
      rw [here]
      refine .within_bind replaces fun new e' stack' shape' => ?_
      by_cases same : p.splice f.text new = f.text
      · apply Concludes.note_bind (by trivial)
        rw [if_pos same]
        exact .note_bind (by trivial) .pure
      · let g : Frame := { f with text := p.splice f.text new, count := f.count + 1 }
        have fewer : g.count + count = setup.options.limit.toNat := by
          dsimp only [g]
          omega
        apply Concludes.replaced_bind found
        rw [if_neg same]
        exact ih (f := g) (stack'.trans stack) (shape'.trans shape) fewer

end Enters

/-! ### Entering a key -/

section Key

variable {enter : Enter} {trail longer : Trail} {key : String}

theorem resolveValue_of_none (absent : e.session.flat.get? key = none) :
    (resolveValue setup enter key).result fs e =
        .error ⟨.mishap (.unknownPath key), e.stack.order, fs⟩ ∧
      (resolveValue setup enter key).final fs e = e.alarmed
        (⟨.mishap (.unknownPath key), .path, .passed, fs, false⟩ :: e.alarms) := by
  rw [resolveValue, result_bind_of_ok (result_get ..), final_bind_of_ok (result_get ..), final_get]
  simp only [absent]
  exact ⟨rfl, rfl⟩

theorem resolveValue_of_ne_str {value : Json} (present : e.session.flat.get? key = some value)
    (other : ∀ text, value ≠ .str text) :
    (resolveValue setup enter key).result fs e = .ok value ∧
      (resolveValue setup enter key).final fs e = e := by
  rw [resolveValue, result_bind_of_ok (result_get ..), final_bind_of_ok (result_get ..), final_get]
  cases value with
  | str text => exact absurd rfl (other text)
  | _ =>
    simp only [present]
    exact ⟨rfl, rfl⟩

theorem resolveValue_of_ok {text new : String}
    (present : e.session.flat.get? key = some (.str text))
    (done : (substituteAll setup enter (some key) text).result fs e = .ok new) :
    (resolveValue setup enter key).result fs e = .ok (.str new) ∧
      (resolveValue setup enter key).final fs e =
        ((substituteAll setup enter (some key) text).final fs e).stored key (.str new) := by
  rw [resolveValue, result_bind_of_ok (result_get ..), final_bind_of_ok (result_get ..), final_get]
  simp only [present]
  exact ⟨result_bind_of_ok done _, final_bind_of_ok done _⟩

theorem resolveValue_of_error {text : String} {stop : Stop}
    (present : e.session.flat.get? key = some (.str text))
    (stopped : (substituteAll setup enter (some key) text).result fs e = .error stop) :
    (resolveValue setup enter key).result fs e = .error stop ∧
      (resolveValue setup enter key).final fs e =
        (substituteAll setup enter (some key) text).final fs e := by
  rw [resolveValue, result_bind_of_ok (result_get ..), final_bind_of_ok (result_get ..), final_get]
  simp only [present]
  exact ⟨result_bind_of_error stopped _, final_bind_of_error stopped _⟩

/-- A key whose value was not found is given up. -/
theorem leaveKey_of_error {stop : Stop} (pushed : trail.push key = .ok longer)
    (stack : e.stack = longer.stack) :
    (leaveKey setup key (.error stop)).result fs e = .error stop ∧
      (leaveKey setup key (.error stop)).final fs e = e.gaveUpOn key trail := by
  have popped : (e.marked key .failed).stack.pop = .ok trail.stack :=
    stack ▸ Trail.pop_stack_of_push pushed
  unfold leaveKey
  rw [result_bind_of_ok (result_mark ..), final_bind_of_ok (result_mark ..), final_mark,
    result_bind_of_ok (result_pop popped), final_bind_of_ok (result_pop popped),
    final_pop popped]
  exact ⟨rfl, rfl⟩

/-- A key whose value was found is settled on it. -/
theorem leaveKey_of_ok {value : Json} (pushed : trail.push key = .ok longer)
    (stack : e.stack = longer.stack) :
    (leaveKey setup key (.ok value)).result fs e = .ok value ∧
      (leaveKey setup key (.ok value)).final fs e =
        (tell (Session.noteWithheld setup key value)).final fs (e.settledOn key value trail) := by
  have popped : e.stack.pop = .ok trail.stack := stack ▸ Trail.pop_stack_of_push pushed
  unfold leaveKey
  rw [result_bind_of_ok (result_pop popped), result_bind_of_ok (result_mark ..),
    result_bind_of_ok (result_note ..), final_bind_of_ok (result_pop popped),
    final_bind_of_ok (result_mark ..), final_bind_of_ok (result_note ..), final_pop popped,
    final_mark, final_note]
  exact ⟨rfl, rfl⟩

/-- A key that is pushed and entered is left with what came of its value. -/
theorem push_enterKey {found : Except Stop Json} {t : Watched}
    (result : (resolveValue setup enter key).result fs (e.entering key longer) = found)
    (final : (resolveValue setup enter key).final fs (e.entering key longer) = t) :
    let work := do
      push key longer.stack
      enterKey setup enter key
    work.result fs e = (leaveKey setup key found).result fs t ∧
      work.final fs e = (leaveKey setup key found).final fs t := by
  subst result final
  exact ⟨rfl, rfl⟩

/-- A key that is left without a value goes out of sight when it is given up. -/
theorem Conducts.of_gaveUp {work : Watching Json} {stop : Stop} {t : Watched}
    (left : work.result fs e = (leaveKey setup key (.error stop)).result fs t ∧
      work.final fs e = (leaveKey setup key (.error stop)).final fs t)
    (pushed : trail.push key = .ok longer) (stack : t.stack = longer.stack)
    (leads : Leads setup flat asked ⟨fs, e, none⟩ ⟨fs, t.gaveUpOn key trail, some stop⟩)
    (before : e.stack = trail.stack) : Conducts setup flat asked fs work e := by
  obtain ⟨result, final⟩ : (leaveKey setup key (.error stop)).result fs t = _ ∧ _ :=
    leaveKey_of_error pushed stack
  apply of_error (left.1.trans result)
  · rw [left.2, final]
    exact leads
  · rw [left.2, final]
    exact before.symm

/-- A key that is left with a value goes out of sight when it is settled; what is told of the value
afterwards changes nothing. -/
theorem Conducts.of_settled {work : Watching Json} {value : Json} {t : Watched}
    (left : work.result fs e = (leaveKey setup key (.ok value)).result fs t ∧
      work.final fs e = (leaveKey setup key (.ok value)).final fs t)
    (pushed : trail.push key = .ok longer) (stack : t.stack = longer.stack)
    (leads : Leads setup flat asked ⟨fs, e, none⟩ ⟨fs, t.settledOn key value trail, none⟩)
    (before : e.stack = trail.stack) : Conducts setup flat asked fs work e := by
  obtain ⟨result, final⟩ : (leaveKey setup key (.ok value)).result fs t = _ ∧ _ :=
    leaveKey_of_ok pushed stack
  have told : Conducts setup flat asked fs
      (Watching.tell (Session.noteWithheld setup key value)) (t.settledOn key value trail) :=
    .tell (.noteWithheld ..)
  apply of_ok (left.1.trans result)
  · rw [left.2, final]
    exact leads.trans told.leads
  · rw [left.2, final]
    exact told.stack.trans before.symm

/-- A key that is not resolved may be pushed and entered. -/
theorem conducts_push {enter : Enter} (enters : Enters setup flat asked longer enter)
    (stack : e.stack = trail.stack) (pushed : trail.push key = .ok longer)
    (shape : e.session.flat.shape = flat.shape) (unresolved : e.session.mark key ≠ .resolved)
    (wanted : setup.registry.IsPrompt → Wanted setup flat asked fs key) :
    Conducts setup flat asked fs (do
      push key longer.stack
      enterKey setup enter key) e := by
  cases held : e.session.flat.get? key with
  | none =>
    obtain ⟨result, final⟩ : (resolveValue setup enter key).result fs (e.entering key longer) =
      _ ∧ _ := resolveValue_of_none held
    refine .of_gaveUp (push_enterKey result final) pushed rfl ?_ stack
    exact .tail (.single (.miss stack pushed unresolved held)) .ring
  | some value =>
    obtain ⟨text, rfl⟩ | other := value.eq_str_or
    · have entered : (e.entering key longer).session.flat.get? key = some (.str text) := held
      have begun : Leads setup flat asked ⟨fs, e, none⟩
          ⟨⟨some key, text, 0⟩ :: fs, e.entering key longer, none⟩ :=
        .single (.enter stack pushed unresolved held wanted)
      have concludes : Concludes setup flat asked fs ⟨some key, text, 0⟩
          (substituteAll setup enter (some key) text) (e.entering key longer) :=
        concludes_substitute enters (f := ⟨some key, text, 0⟩) rfl shape (Nat.zero_add _)
      cases concludes with
      | @ends g owner done goesOn stack' =>
        obtain ⟨result, final⟩ := resolveValue_of_ok entered done
        obtain ⟨old, present⟩ := goesOn.exists_str ⟨text, entered⟩
        refine .of_settled (push_enterKey result final) pushed stack' ?_ stack
        exact (begun.trans goesOn).tail (.settle owner stack' pushed present)
      | stops owner stopped goesOn stack' =>
        obtain ⟨result, final⟩ := resolveValue_of_error entered stopped
        refine .of_gaveUp (push_enterKey result final) pushed stack' ?_ stack
        exact (begun.trans goesOn).tail (.giveUp owner stack' pushed)
    · obtain ⟨result, final⟩ : (resolveValue setup enter key).result fs (e.entering key longer) =
        _ ∧ _ := resolveValue_of_ne_str held other
      refine .of_settled (push_enterKey result final) pushed rfl ?_ stack
      exact .single (.take stack pushed unresolved held other)

/-- What is made of a loop is made on behalf of the text that closes it. -/
theorem conducts_recover_of_loop {enter : Enter} (enters : Enters setup flat asked trail enter)
    (stack : e.stack = trail.stack) (shape : e.session.flat.shape = flat.shape)
    (closes : key ∈ trail.keys) (unresolved : e.session.mark key ≠ .resolved)
    (wanted : setup.registry.IsPrompt → Wanted setup flat asked fs key) :
    Conducts setup flat asked fs (recover setup enter .loop (.circular key trail.keys)) e := by
  have looped {e' : Watched} (same : e'.stack = e.stack)
      (marks : e'.session.mark = e.session.mark) :
      Conducts setup flat asked fs (stop (.failure (.circular key trail.keys)) : Watching String)
        e' := by
    have stack := same.trans stack
    have order : e'.stack.order = trail.keys := by rw [stack, Trail.order_stack]
    have stopped : (stop (.failure (.circular key trail.keys)) : Watching String).result fs e' =
        .error ⟨.failure (.circular key trail.keys), e'.stack.order, fs⟩ :=
      rfl
    refine .of_error stopped ?_ rfl
    rw [order]
    exact .single (.loop stack closes (marks ▸ unresolved) wanted)
  unfold recover
  cases registered : setup.registry.get? (Failure.circular key trail.keys).kind with
  | none => exact .ring_bind (looped rfl rfl)
  | some handler =>
    refine .act_bind (by trivial) (.answered ?_ ..)
    -- Elements of an array make up for missing keys only.
    cases handler with
    | joinElements => exact looped rfl rfl
    | reportLoop => exact .note_bind (by trivial) (looped rfl rfl)
    | reply respond =>
      exact conducts_consult enters registered (fun prompt => prompt _ _ registered _)
        (fun unguarded => unguarded _ _ registered _) stack shape

end Key

/-! ### Calls on a stack -/

section Calls

theorem conducts_resolveEach {trail : Trail} {enter : Enter}
    (enters : Enters setup flat asked trail enter) {keys : List String}
    (stack : e.stack = trail.stack) (shape : e.session.flat.shape = flat.shape)
    (wanted : ∀ key ∈ keys, setup.registry.IsPrompt → Wanted setup flat asked fs key) :
    Conducts setup flat asked fs (resolveEach enter keys) e := by
  induction keys generalizing e with
  | nil => exact .pure _
  | cons key rest ih =>
    rw [List.forall_mem_cons] at wanted
    have first : Conducts setup flat asked fs (enter key) e :=
      enters fs _ e stack shape (admits_of_wanted wanted.1)
    exact first.bind fun _ e' stack' shape' =>
      ih (stack'.trans stack) (shape'.trans shape) wanted.2

theorem conducts_resolvePending {trail : Trail} {enter : Enter}
    (enters : Enters setup flat asked trail enter) (stack : e.stack = trail.stack)
    (shape : e.session.flat.shape = flat.shape)
    (wanted : ∀ key ∈ Session.pending setup e.session,
      setup.registry.IsPrompt → Wanted setup flat asked fs key) :
    Conducts setup flat asked fs (resolvePending setup enter) e := by
  unfold resolvePending
  apply Conducts.get_bind
  dsimp only
  split
  · exact .note (by trivial)
  · exact .note_bind (by trivial) (conducts_resolveEach enters stack shape wanted)

/-- A text that a handler hands over is the innermost until its substitution ends. -/
theorem conducts_substituteAll {trail : Trail} {enter : Enter} (free : ¬ setup.registry.IsPrompt)
    (enters : Enters setup flat asked trail enter) (stack : e.stack = trail.stack)
    (shape : e.session.flat.shape = flat.shape) (text : String) :
    Conducts setup flat asked fs (substituteAll setup enter none text) e := by
  have begun : Leads setup flat asked ⟨fs, e, none⟩ ⟨⟨none, text, 0⟩ :: fs, e, none⟩ :=
    .single (.begin free)
  have concludes : Concludes setup flat asked fs ⟨none, text, 0⟩
      (substituteAll setup enter none text) e :=
    concludes_substitute enters (f := ⟨none, text, 0⟩) stack shape (Nat.zero_add _)
  cases concludes with
  | ends owner done goesOn stack' =>
    exact .of_ok done ((begun.trans goesOn).tail (.deliver owner)) stack'
  | stops owner stopped goesOn stack' =>
    exact .of_error stopped ((begun.trans goesOn).tail (.drop owner)) stack'

section Deeper

variable {deeper : Enter} (enters : ∀ longer, Enters setup flat asked longer deeper)

include enters

/-- To resolve a key takes the steps, if calls with more on the stack do. -/
theorem conducts_resolveStep {trail : Trail} {key : String} (stack : e.stack = trail.stack)
    (shape : e.session.flat.shape = flat.shape)
    (wanted : setup.registry.IsPrompt → Wanted setup flat asked fs key) :
    Conducts setup flat asked fs (resolveStep setup deeper key) e := by
  unfold resolveStep
  apply Conducts.act_bind (by trivial)
  apply Conducts.get_bind
  have stack : (e.acted (.resolve key)).stack = trail.stack := stack
  have shape : (e.acted (.resolve key)).session.flat.shape = flat.shape := shape
  generalize e.acted (.resolve key) = e at stack shape ⊢
  split
  · split
    · exact .pure _
    · exact .raise id
  next unresolved =>
    rw [stack, Trail.push_stack]
    cases pushed : trail.push key with
    | ok longer => exact conducts_push (enters longer) stack pushed shape unresolved wanted
    | error failure =>
      obtain ⟨closes, rfl⟩ := Trail.mem_of_push_eq_error pushed
      have rejected : Conducts setup flat asked fs
          (recover setup deeper .loop (.circular key trail.keys)) (e.acted (.push key)) :=
        conducts_recover_of_loop (enters trail) stack shape closes unresolved wanted
      have answered : Conducts setup flat asked fs (do
          return Json.str (← recover setup deeper .loop (.circular key trail.keys)))
          (e.acted (.push key)) :=
        rejected.bind fun _ _ _ _ => .pure _
      exact ⟨.head (.reject stack closes) answered.leads, answered.stack⟩

/-- Calls take the steps, if those with more on the stack do. -/
theorem enters_answerStep (trail : Trail) :
    Enters setup flat asked trail (answerStep setup deeper) := by
  intro fs call e stack shape admits
  cases call with
  | resolveKey key =>
    refine conducts_resolveStep enters stack shape fun prompt => ?_
    obtain ⟨_, same, wanted⟩ := admits prompt
    cases same
    exact wanted
  | lookup expression =>
    have free : ¬ setup.registry.IsPrompt := fun prompt => nomatch admits prompt
    exact conducts_follow (enters trail) stack shape fun _ _ prompt => absurd prompt free
  | expand text =>
    have free : ¬ setup.registry.IsPrompt := fun prompt => nomatch admits prompt
    exact (conducts_substituteAll free (enters trail) stack shape text).bind
      fun _ _ _ _ => .pure _
  | resolveAll =>
    have free : ¬ setup.registry.IsPrompt := fun prompt => nomatch admits prompt
    exact (conducts_resolvePending (enters trail) stack shape fun _ _ prompt =>
      absurd prompt free).bind fun _ _ _ _ => .pure _

end Deeper

theorem enters_resolveOn (setup : Setup) (flat : Flat) (asked : String → Prop) (room : Nat)
    (trail : Trail) : Enters setup flat asked trail (resolveOn setup room) := by
  induction room generalizing trail with
  | zero => exact enters_answerStep (fun _ _ _ _ _ _ _ => .raise id) trail
  | succ room ih => exact enters_answerStep ih trail

theorem enters_atRest (setup : Setup) (flat : Flat) (asked : String → Prop) :
    Enters setup flat asked .empty (atRest setup) :=
  fun fs call e stack shape admits =>
    .get_bind (enters_resolveOn setup flat asked _ .empty fs call e stack shape admits)

end Calls

end Watching

namespace Session.Call

open Sight Watching

/-- Whether a call asks for a key. -/
def Asks (setup : Setup) (s : Session) : Call → String → Prop
  | .resolveKey key, other => other = key
  | .lookup expression, other => LeadsTo setup s.flat expression other
  | .expand _, _ => False
  | .resolveAll, other => other ∈ pending setup s

/-- A call under watch goes from sight to sight. -/
theorem leads_watching (setup : Setup) (call : Call) {e : Watched} (stack : e.stack = .empty) :
    Leads setup e.session.flat (call.Asks setup e.session) ⟨call.frames, e, none⟩
      ⟨[], (call.watching setup).final [] e, stop? ((call.watching setup).result [] e)⟩ := by
  have stack : e.stack = Trail.empty.stack := stack.trans Trail.stack_empty.symm
  have enters := enters_atRest setup e.session.flat (call.Asks setup e.session)
  cases call with
  | resolveKey key =>
    have admits : Admits setup e.session.flat (Call.Asks setup e.session (.resolveKey key)) []
        (.resolveKey key) := admits_of_wanted fun _ => rfl
    exact ((enters [] _ e stack rfl admits).bind fun _ _ _ _ => .pure _).leads
  | lookup expression =>
    have followed : Conducts setup e.session.flat (Call.Asks setup e.session (.lookup expression))
        [] (Watching.follow setup (Watching.atRest setup) expression) e :=
      conducts_follow enters stack rfl fun other leads _ => leads
    exact (followed.bind fun _ _ _ _ => .pure _).leads
  | resolveAll =>
    have resolved : Conducts setup e.session.flat (Call.Asks setup e.session .resolveAll) []
        (Watching.resolvePending setup (Watching.atRest setup)) e :=
      conducts_resolvePending enters stack rfl fun _ listed _ => listed
    exact resolved.leads
  | expand text =>
    have concludes : Concludes setup e.session.flat (Call.Asks setup e.session (.expand text)) []
        ⟨none, text, 0⟩ (Watching.substituteAll setup (Watching.atRest setup) none text) e :=
      concludes_substitute enters (f := ⟨none, text, 0⟩) stack rfl (Nat.zero_add _)
    change Leads setup _ _ ⟨[⟨none, text, 0⟩], e, none⟩ _
    unfold watching
    cases concludes with
    | ends owner result goesOn =>
      rw [result_bind_of_ok result, final_bind_of_ok result]
      exact goesOn.tail (.deliver owner)
    | stops owner result goesOn =>
      rw [result_bind_of_error result, final_bind_of_error result]
      exact goesOn.tail (.drop owner)

end Session.Call

end ConfigTemplate
