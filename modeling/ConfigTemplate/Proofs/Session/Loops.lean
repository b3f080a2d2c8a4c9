import ConfigTemplate.Proofs.Session.Aftermath

/-!
# Reported loops

With the usual handlers a loop is reported only where there is one. Each key on the trail was
reached from the one before it: a text that came of its value by replacements has a reference in
front that leads to the next key. The key that closes the loop was reached from the last one, and is
being resolved still.
-/

namespace ConfigTemplate

open Session (LeadsTo)

/-- Whether a text came of another one by so many replacements, of which a journal tells. -/
inductive Journal.Rewrites (setup : Setup) (journal : Journal) (original : String) :
    Nat → String → Prop where
  | start : Rewrites setup journal original 0 original
  | replaced {count : Nat} {text new : String} {p : Placeholder}
    (earlier : Rewrites setup journal original count text)
    (found : Placeholder.scan (Session.kinds setup) text = some p)
    (told : .replaced text p new ∈ journal) :
    Rewrites setup journal original (count + 1) (p.splice text new)

theorem Journal.Rewrites.mono {setup : Setup} {journal later : Journal} {original text : String}
    {count : Nat} (h : journal.Rewrites setup original count text) (more : journal ⊆ later) :
    later.Rewrites setup original count text := by
  induction h with
  | start => exact .start
  | replaced _ found told ih => exact .replaced ih found (more told)

namespace Frame

/-- Whether a text that is being substituted is that of a key: it came of the key's value in a
session by replacements that a journal tells of. -/
structure StandsFor (setup : Setup) (s : Session) (told : Journal) (f : Frame) (key : String) :
    Prop where
  owner : f.owner = some key
  origin : ∃ original, s.flat.get? key = some (.str original) ∧
    told.Rewrites setup original f.count f.text

/-- Whether a text is that of a key and the reference in front of it leads to another key. -/
structure Refers (setup : Setup) (s : Session) (told : Journal) (f : Frame)
    (key target : String) : Prop extends StandsFor setup s told f key where
  leads : ∃ p, Placeholder.scan (Session.kinds setup) f.text = some p ∧ p.kind = .reference ∧
    LeadsTo setup s.flat (Text.trimmed p.payload) target

variable {setup : Setup} {s : Session} {told later : Journal} {f : Frame} {key target : String}

theorem StandsFor.mono (h : f.StandsFor setup s told key) (more : told ⊆ later) :
    f.StandsFor setup s later key := by
  obtain ⟨original, value, rewrites⟩ := h.origin
  exact ⟨h.owner, original, value, rewrites.mono more⟩

theorem Refers.mono (h : f.Refers setup s told key target) (more : told ⊆ later) :
    f.Refers setup s later key target :=
  ⟨h.toStandsFor.mono more, h.leads⟩

end Frame

/-- Whether some texts, the innermost first, lead to a key: the innermost refers to it, each other
one to the key whose text is next to it, and the key of the last one was asked for. -/
inductive Session.Reaches (setup : Setup) (asked : String → Prop) (s : Session) (told : Journal) :
    List Frame → String → Prop where
  | asked {key : String} (asks : asked key) : Reaches setup asked s told [] key
  | refers {f : Frame} {fs : List Frame} {key target : String}
    (refers : f.Refers setup s told key target) (rest : Reaches setup asked s told fs key) :
    Reaches setup asked s told (f :: fs) target

/-- Whether some texts are those of keys each of which was reached from the next one. -/
inductive Session.Founded (setup : Setup) (asked : String → Prop) (s : Session) (told : Journal) :
    List Frame → Prop where
  | nil : Founded setup asked s told []
  | cons {f : Frame} {fs : List Frame} {key : String} (text : f.StandsFor setup s told key)
    (reached : Reaches setup asked s told fs key) : Founded setup asked s told (f :: fs)

namespace Session

variable {setup : Setup} {asked : String → Prop} {s : Session} {told later : Journal}
variable {f : Frame} {fs : List Frame} {key : String}

theorem Reaches.mono (h : Reaches setup asked s told fs key) (more : told ⊆ later) :
    Reaches setup asked s later fs key := by
  induction h with
  | asked asks => exact .asked asks
  | refers refers _ ih => exact .refers (refers.mono more) ih

theorem Founded.mono (h : Founded setup asked s told fs) (more : told ⊆ later) :
    Founded setup asked s later fs := by
  cases h with
  | nil => exact .nil
  | cons text reached => exact .cons (text.mono more) (reached.mono more)

/-- Behind the innermost text there are texts that lead to its key. -/
theorem Reaches.founded (h : Reaches setup asked s told fs key) :
    Founded setup asked s told fs := by
  cases h with
  | asked => exact .nil
  | refers refers rest => exact .cons refers.toStandsFor rest

theorem Founded.tail (h : Founded setup asked s told (f :: fs)) :
    Founded setup asked s told fs := by
  cases h with
  | cons text reached => exact reached.founded

/-- A key that is wanted is reached. -/
theorem Founded.reaches (h : Founded setup asked s told fs)
    (wanted : Sight.Wanted setup s.flat asked fs key) : Reaches setup asked s told fs key := by
  cases h with
  | nil => exact .asked wanted
  | cons text reached => exact .refers ⟨text, wanted⟩ reached

/-- The keys of texts that lead to a key refer to each other, from the one that was asked for up to
the key. -/
theorem Reaches.isChain (h : Reaches setup asked s told fs key) {trail : List String}
    (owners : fs.filterMap Frame.owner = trail.reverse) :
    (trail ++ [key]).IsChain (fun a b => ∃ f ∈ fs, f.Refers setup s told a b) ∧
      ∀ first ∈ (trail ++ [key]).head?, asked first := by
  -- The innermost text comes first and belongs to the last key of the trail, so each text that is
  -- added lengthens the chain at its end.
  induction h generalizing trail with
  | asked asks =>
    obtain rfl := List.reverse_eq_nil_iff.1 owners.symm
    refine ⟨.singleton _, fun first head => ?_⟩
    obtain rfl := Option.mem_some.1 head
    exact asks
  | @refers f fs key target refers rest ih =>
    rw [List.filterMap_cons_some refers.owner] at owners
    obtain rfl : trail = (fs.filterMap Frame.owner).reverse ++ [key] := by
      rw [← trail.reverse_reverse, ← owners, List.reverse_cons]
    obtain ⟨chain, first⟩ := ih (List.reverse_reverse _).symm
    constructor
    · refine List.isChain_append.2 ⟨?_, .singleton _, fun a last b head => ?_⟩
      · refine chain.imp fun a b => ?_
        rintro ⟨g, mem, refers⟩
        exact ⟨g, List.mem_cons_of_mem _ mem, refers⟩
      · obtain rfl : key = a := by simpa using last
        obtain rfl := Option.mem_some.1 head
        exact ⟨f, List.mem_cons_self, refers⟩
    · intro k head
      refine first k ?_
      rwa [List.head?_append_of_ne_nil _ (by simp)] at head

/-- Every text on the way to a key is that of a key of the document. -/
theorem Reaches.mem_of_owner (h : Reaches setup asked s told fs key) {owner : String}
    (mem : owner ∈ fs.filterMap Frame.owner) : owner ∈ s.flat := by
  induction h with
  | asked => cases mem
  | @refers f fs key target refers rest ih =>
    rw [List.filterMap_cons_some refers.owner, List.mem_cons] at mem
    obtain rfl | further := mem
    · obtain ⟨original, value, _⟩ := refers.origin
      exact Flat.mem_of_get? value
    · exact ih further

end Session

namespace Sight

open Session (Reaches Founded)

variable {setup : Setup} {asked : String → Prop} {v w : Sight} {s : Session}

/-- A key that is pushed is the owner of the innermost text. -/
theorem owners_of_push {trail longer : Trail} {key : String}
    (pushed : trail.push key = .ok longer) :
    longer.keys.reverse = key :: trail.keys.reverse := by
  rw [Trail.keys_of_push pushed, List.reverse_append]
  rfl

/-- Whether the texts that are being substituted are those of the keys on the stack. -/
def Owned (v : Sight) : Prop :=
  v.frames.filterMap Frame.owner = v.watched.stack.order.reverse

/-- When the innermost text goes out of sight, its owner goes off the stack. -/
theorem owners_of_pop {f : Frame} {fs : List Frame} {e : Watched} {trail longer : Trail}
    {key : String} {stop : Option Stop} (owned : (⟨f :: fs, e, stop⟩ : Sight).Owned)
    (owner : f.owner = some key) (stack : e.stack = longer.stack)
    (pushed : trail.push key = .ok longer) :
    fs.filterMap Frame.owner = trail.keys.reverse := by
  unfold Owned at owned
  rw [List.filterMap_cons_some owner, stack, Trail.order_stack, owners_of_push pushed] at owned
  exact (List.cons.inj owned).2

theorem Step.owned {flat : Flat} (h : Step setup flat asked v w) (owned : v.Owned) : w.Owned := by
  cases h with
  | note | act | ring | reject | stop | refuse | loop | nest | replace | resume => exact owned
  | begin => exact (List.filterMap_cons_none rfl).trans owned
  | deliver owner | drop owner => exact (List.filterMap_cons_none owner).symm.trans owned
  | @enter fs e trail longer key text stack pushed =>
    change key :: fs.filterMap Frame.owner = longer.keys.reverse
    rw [owners_of_push pushed, owned, stack, Trail.order_stack]
  | take stack | miss stack =>
    refine owned.trans ?_
    rw [stack]
    rfl
  | settle owner stack pushed | giveUp owner stack pushed =>
    exact owners_of_pop owned owner stack pushed

/-- A step only adds to the journal. -/
theorem Step.journal_subset {flat : Flat} (h : Step setup flat asked v w) :
    v.watched.session.journal ⊆ w.watched.session.journal := by
  cases h with
  | note | enter | replace | settle | giveUp => exact List.subset_cons_self ..
  | take | miss => exact List.Subset.trans (List.subset_cons_self ..) (List.subset_cons_self ..)
  | act | ring | reject | begin | deliver | stop | refuse | loop | nest | drop | resume =>
    exact List.Subset.refl _

/-- With prompt handlers each text that comes into sight is founded on the one behind it. -/
theorem Step.founded (prompt : setup.registry.IsPrompt) (h : Step setup s.flat asked v w)
    (accounts : v.Accounts setup s)
    (founded : Founded setup asked s v.watched.session.journal v.frames) :
    Founded setup asked s w.watched.session.journal w.frames := by
  have kept := founded.mono h.journal_subset
  cases h with
  | note | act | ring | reject | stop | refuse | loop | nest | take | miss => exact kept
  | begin free => exact absurd prompt free
  | resume guarded => exact absurd prompt.isUnguarded guarded
  | deliver | drop | settle | giveUp => exact kept.tail
  | @enter fs e trail longer key text stack pushed unresolved present wanted =>
    obtain ⟨now, tally, _⟩ := accounts
    obtain rfl := Trail.eq_of_stack (tally.stack.symm.trans stack)
    have original := (tally.fresh pushed unresolved).2.symm.trans present
    exact .cons ⟨rfl, text, original, .start⟩ (kept.reaches (wanted prompt))
  | @replace f fs e p new found =>
    cases kept with
    | cons text reached =>
      obtain ⟨original, value, rewrites⟩ := text.origin
      exact .cons ⟨text.owner, original, value, .replaced rewrites found List.mem_cons_self⟩ reached

/-- What is to be shown of a stop that reports a loop: the texts that were being substituted lead to
the key that closes it, and are those of the keys on its trail. -/
structure Reports (setup : Setup) (asked : String → Prop) (s : Session) (told : Journal)
    (stop : Stop) (key : String) (trail : List String) : Prop where
  keys : stop.keys = trail
  distinct : trail.Nodup
  closes : key ∈ trail
  owners : stop.frames.filterMap Frame.owner = trail.reverse
  reached : Reaches setup asked s told stop.frames key

/-- Whether a stop that reports a loop reports it rightly. -/
def Right (setup : Setup) (asked : String → Prop) (s : Session) (v : Sight) : Prop :=
  ∀ stop key trail, v.stop = some stop → stop.halt = .failure (.circular key trail) →
    Reports setup asked s v.watched.session.journal stop key trail

/-- With the usual handlers a loop is reported rightly where it is found, and remains so. -/
theorem Step.right (usual : setup.registry = .standard) (h : Step setup s.flat asked v w)
    (owned : v.Owned) (founded : Founded setup asked s v.watched.session.journal v.frames)
    (right : v.Right setup asked s) : w.Right setup asked s := by
  have grown := h.journal_subset
  intro stop key trail stopped looped
  have before (same : v.stop = some stop) :
      Reports setup asked s w.watched.session.journal stop key trail :=
    have reports := right stop key trail same looped
    { reports with reached := reports.reached.mono grown }
  cases h with
  | note | act | reject | enter | take | begin | replace | settle | deliver | resume =>
    cases stopped
  | ring | giveUp | drop => exact before stopped
  | stop other =>
    cases stopped
    cases looped
    exact (other trivial).elim
  | miss =>
    cases stopped
    cases looped
  | refuse registered =>
    rw [usual] at registered
    exact absurd registered (Registry.get?_standard_ne_reply _ _)
  | @loop fs e on other stack closes unresolved wanted =>
    cases stopped
    cases looped
    have prompt : setup.registry.IsPrompt := usual ▸ Registry.isPrompt_standard
    refine ⟨rfl, on.distinct, closes, ?_, founded.reaches (wanted prompt)⟩
    rw [← Trail.order_stack, ← stack]
    exact owned
  | @nest f fs e inner p =>
    cases stopped
    obtain ⟨halt, keys, frames⟩ := inner
    cases halt with
    | mishap mishap => cases looped
    | failure failure => exact right ⟨.failure failure, keys, frames⟩ key trail rfl looped

end Sight

/-- The loop that a key on a trail closes is the rest of the trail from the key on, and the key. -/
theorem Failure.exists_cycle {key : String} {trail : List String} (mem : key ∈ trail) :
    ∃ before loop, trail = before ++ key :: loop ∧
      cycle key trail = key :: (loop ++ [key]) := by
  obtain ⟨before, loop, rfl, first⟩ := List.eq_append_cons_of_mem mem
  have passed : (before ++ key :: loop).dropWhile (· != key) = key :: loop := by
    rw [List.dropWhile_append_of_pos, List.dropWhile_cons_of_neg (by simp)]
    rintro other listed
    simpa using fun same : other = key => first (same ▸ listed)
  refine ⟨before, loop, rfl, ?_⟩
  rw [cycle, passed]
  rfl

namespace Session

open Watched Watching Sight

variable {setup : Setup} {s : Session} {call : Call} {key : String} {trail : List String}

/-- A loop that stops a call, other than the expansion of a text of no key, is reported rightly. -/
theorem Call.exists_reports (usual : setup.registry = .standard)
    (keyed : ∀ text, call ≠ .expand text)
    (stopped : (call.action setup).result s = .error (.failure (.circular key trail))) :
    ∃ stop, (call.watching setup).result [] (.begun s) = .error stop ∧
      Reports setup (call.Asks setup s) s (call.final setup s).journal stop key trail ∧
      ∀ k ∈ stop.keys, (call.final setup s).mark k = .failed := by
  obtain ⟨stop, e, result, rfl, same, session, _, _, fails⟩ := call.exists_tally setup s stopped
  have prompt : setup.registry.IsPrompt := usual ▸ Registry.isPrompt_standard
  have frames : call.frames = [] := by
    cases call with
    | expand text => exact absurd rfl (keyed text)
    | _ => rfl
  have way := call.leads_watching setup (e := .begun s) rfl
  rw [result, frames] at way
  have rightly := way.keeps (I := fun v => v.Accounts setup s ∧ v.Owned ∧
      Founded setup (call.Asks setup s) s v.watched.session.journal v.frames ∧
      v.Right setup (call.Asks setup s) s)
    (fun step ⟨accounts, owned, founded, right⟩ => ⟨step.accounts accounts, step.owned owned,
      step.founded prompt accounts founded, step.right usual owned founded right⟩)
    ⟨⟨.empty, .begun s, fun _ => rfl⟩, rfl, .nil, fun _ _ _ running => by cases running⟩
  refine ⟨stop, result, ?_, fun k mem => ?_⟩
  · rw [← session]
    exact rightly.2.2.2 stop key trail rfl same
  · rw [← session]
    exact ((fails.givenUp k mem).resolve_left List.not_mem_nil).mark

/-- With the usual handlers a loop that stops a call has a trail of distinct keys of the document,
which begins with a key that the call asked for and on which the reported key is. They are the keys
that were being resolved when the loop was found, and none of them was resolved. Each key on the
trail refers to the next one, and the last one to the reported key: while a text that came of its
value was being substituted, a reference in front of it led there. The reported loop is the rest of
the trail from the reported key on, closed by that key. -/
theorem refers_of_circular (setup : Setup) (usual : setup.registry = .standard) (s : Session)
    (call : Call) (keyed : ∀ text, call ≠ .expand text) {key : String} {trail : List String}
    (stopped : (call.action setup).result s = .error (.failure (.circular key trail))) :
    ∃ stop, (call.watching setup).result [] (.begun s) = .error stop ∧ stop.keys = trail ∧
      (∃ first, trail.head? = some first ∧ call.Asks setup s first) ∧ trail.Nodup ∧
      (∀ k ∈ trail, k ∈ s.flat ∧ (call.final setup s).mark k = .failed) ∧ key ∈ trail ∧
      (trail ++ [key]).IsChain (fun a b =>
        ∃ f ∈ stop.frames, f.Refers setup s (call.final setup s).journal a b) ∧
      ∃ before loop, trail = before ++ key :: loop ∧
        Failure.cycle key trail = key :: (loop ++ [key]) ∧ (key :: loop).Nodup := by
  obtain ⟨stop, result, reports, failed⟩ := Call.exists_reports usual keyed stopped
  obtain ⟨chain, first⟩ := reports.reached.isChain reports.owners
  obtain ⟨before, loop, split, cycle⟩ := Failure.exists_cycle reports.closes
  refine ⟨stop, result, reports.keys, ?_, reports.distinct, fun k mem => ?_, reports.closes, chain,
    before, loop, split, cycle, ?_⟩
  · cases trail with
    | nil => cases reports.closes
    | cons k rest => exact ⟨k, rfl, first k rfl⟩
  · refine ⟨reports.reached.mem_of_owner ?_, failed k (reports.keys ▸ mem)⟩
    rw [reports.owners, List.mem_reverse]
    exact mem
  · have distinct := reports.distinct
    rw [split] at distinct
    exact (List.nodup_append.1 distinct).2.1

/-- A loop through an element of an array that does not lead back to the key that was asked for. -/
theorem refers_of_circular_element :
    let setup : Setup :=
      ⟨.standard, ⟨fun _ _ => .output "", fun _ => none, false⟩, .standard⟩
    let s := start (Flat.ofList [("a", .str "1$\x7bb\x7d"), ("b", .str "$\x7bl.join(,)\x7d"),
      ("l[0]", .str "$\x7bb\x7d")])
    let call : Call := .resolveKey "a"
    setup.registry = .standard ∧ (∀ text, call ≠ .expand text) ∧
      (call.action setup).result s = .error (.failure (.circular "b" ["a", "b", "l[0]"])) ∧
      ∃ stop, (call.watching setup).result [] (.begun s) = .error stop ∧
        stop.keys = ["a", "b", "l[0]"] ∧
        ["a", "b", "l[0]", "b"].IsChain fun a b =>
          ∃ f ∈ stop.frames, f.Refers setup s (call.final setup s).journal a b := by
  intro setup s call
  have keyed : ∀ text, call ≠ .expand text := by simp [call]
  have stopped : (call.action setup).result s =
      .error (.failure (.circular "b" ["a", "b", "l[0]"])) := by cbv
  obtain ⟨stop, result, keys, _, _, _, _, chain, _⟩ :=
    refers_of_circular setup rfl s call keyed stopped
  exact ⟨rfl, keyed, stopped, stop, result, keys, chain⟩

end Session

end ConfigTemplate
