import ConfigTemplate.Proofs.Placeholder.Template
import ConfigTemplate.Proofs.Session.Invariant
import Mathlib

/-!
# Substitutions one by one

The substitution of a text is a run of single ones, each of which replaces the first placeholder of
the text as it is by then, and changes the text. The run comes to its end when no placeholder is
left, when a replacement changes nothing, when there is no replacement, or when as many
substitutions were made as are allowed and a placeholder is left. No more than one of these can be,
so each tells what becomes of the text.

Replacements without a dollar sign take dollar signs away. A text is then done after as many
substitutions as it has dollar signs.
-/

namespace ConfigTemplate.Session

open ConfigTemplate.Action

variable {setup : Setup} {enter : Enter} {owner : Option String} {count made : Nat}
variable {text last now new : String} {s t u : Session} {p : Placeholder} {halt : Halt}

/-- Whether a number of substitutions, each of which changed its text, lead from a text in a session
to another text in another session. -/
inductive Substituted (setup : Setup) (enter : Enter) (owner : Option String) :
    Nat → String → Session → String → Session → Prop where
  | start (text : String) (s : Session) : Substituted setup enter owner 0 text s text s
  | step {made : Nat} {text new last : String} {s t : Session} {p : Placeholder}
    (found : Placeholder.scan (kinds setup) text = some p)
    (obtained : (replacement setup enter owner text p).result s = .ok new)
    (progress : p.splice text new ≠ text)
    (rest : Substituted setup enter owner made (p.splice text new)
      (((replacement setup enter owner text p).final s).noted (.replaced text p new)) last t) :
    Substituted setup enter owner (made + 1) text s last t

/-- How the substitution of a text comes out that may make a number of substitutions: its result and
the session that it leaves behind. -/
inductive ComesOut (setup : Setup) (enter : Enter) (owner : Option String) (count : Nat)
    (text : String) (s : Session) : Except Halt String → Session → Prop where
  /-- No placeholder is left. -/
  | clean {made : Nat} {last : String} {t : Session} (within : made ≤ count)
    (run : Substituted setup enter owner made text s last t)
    (none : Placeholder.scan (kinds setup) last = none) :
    ComesOut setup enter owner count text s (.ok last) t
  /-- A replacement leaves the text as it was. -/
  | stalled {made : Nat} {last new : String} {t : Session} {p : Placeholder} (within : made < count)
    (run : Substituted setup enter owner made text s last t)
    (found : Placeholder.scan (kinds setup) last = some p)
    (obtained : (replacement setup enter owner last p).result t = .ok new)
    (same : p.splice last new = last) :
    ComesOut setup enter owner count text s (.ok last)
      ((((replacement setup enter owner last p).final t).noted (.replaced last p new)).noted
        (.stalled (ownerOr last owner) p.text))
  /-- A placeholder gets no replacement. -/
  | refused {made : Nat} {last : String} {t : Session} {p : Placeholder} {halt : Halt}
    (within : made < count) (run : Substituted setup enter owner made text s last t)
    (found : Placeholder.scan (kinds setup) last = some p)
    (refused : (replacement setup enter owner last p).result t = .error halt) :
    ComesOut setup enter owner count text s (.error halt)
      ((replacement setup enter owner last p).final t)
  /-- All substitutions were made, and a placeholder is left. -/
  | exhausted {last : String} {t : Session} {p : Placeholder}
    (run : Substituted setup enter owner count text s last t)
    (found : Placeholder.scan (kinds setup) last = some p) :
    ComesOut setup enter owner count text s
      (.error (.failure (.substitutionLimit (ownerOr last owner) setup.options.limit p.text))) t

/-! ### Single substitutions -/

/-- A substitution that changes the text leaves the rest to the others. -/
theorem substitute_of_progress (found : Placeholder.scan (kinds setup) text = some p)
    (obtained : (replacement setup enter owner text p).result s = .ok new)
    (progress : p.splice text new ≠ text) (count : Nat) :
    (substitute setup enter owner (count + 1) text).result s =
        (substitute setup enter owner count (p.splice text new)).result
          (((replacement setup enter owner text p).final s).noted (.replaced text p new)) ∧
      (substitute setup enter owner (count + 1) text).final s =
        (substitute setup enter owner count (p.splice text new)).final
          (((replacement setup enter owner text p).final s).noted (.replaced text p new)) := by
  simp only [substitute, found]
  rw [result_bind_of_ok obtained, final_bind_of_ok obtained, result_bind_of_ok (result_note ..),
    final_bind_of_ok (result_note ..), if_neg progress]
  exact ⟨rfl, rfl⟩

theorem substitute_of_stall (found : Placeholder.scan (kinds setup) text = some p)
    (obtained : (replacement setup enter owner text p).result s = .ok new)
    (same : p.splice text new = text) (count : Nat) :
    (substitute setup enter owner (count + 1) text).result s = .ok text ∧
      (substitute setup enter owner (count + 1) text).final s =
        (((replacement setup enter owner text p).final s).noted (.replaced text p new)).noted
          (.stalled (ownerOr text owner) p.text) := by
  simp only [substitute, found]
  rw [result_bind_of_ok obtained, final_bind_of_ok obtained, result_bind_of_ok (result_note ..),
    final_bind_of_ok (result_note ..), if_pos same]
  exact ⟨rfl, rfl⟩

theorem substitute_of_refusal (found : Placeholder.scan (kinds setup) text = some p)
    (refused : (replacement setup enter owner text p).result s = .error halt) (count : Nat) :
    (substitute setup enter owner (count + 1) text).result s = .error halt ∧
      (substitute setup enter owner (count + 1) text).final s =
        (replacement setup enter owner text p).final s := by
  simp only [substitute, found]
  exact ⟨result_bind_of_error refused _, final_bind_of_error refused _⟩

/-! ### Runs of substitutions -/

/-- After some substitutions the others are left to be made. -/
theorem Substituted.substitute_eq (run : Substituted setup enter owner made text s last t)
    (count : Nat) :
    (substitute setup enter owner (made + count) text).result s =
        (substitute setup enter owner count last).result t ∧
      (substitute setup enter owner (made + count) text).final s =
        (substitute setup enter owner count last).final t := by
  induction run with
  | start =>
    rw [Nat.zero_add]
    exact ⟨rfl, rfl⟩
  | step found obtained progress _ ih =>
    obtain ⟨result, final⟩ := substitute_of_progress found obtained progress _
    rw [Nat.add_right_comm]
    exact ⟨result.trans ih.1, final.trans ih.2⟩

/-- On the way of some substitutions there is a replacement for each placeholder. -/
theorem Substituted.exists_obtained (run : Substituted setup enter owner made text s last t)
    {earlier : Nat} (before : Substituted setup enter owner earlier text s now u)
    (fewer : earlier < made) (found : Placeholder.scan (kinds setup) now = some p) :
    ∃ new, (replacement setup enter owner now p).result u = .ok new := by
  induction before generalizing made with
  | start =>
    cases run with
    | start => cases fewer
    | step first obtained =>
      obtain rfl := Option.some.inj (first.symm.trans found)
      exact ⟨_, obtained⟩
  | step first obtained _ _ ih =>
    cases run with
    | start => cases fewer
    | step first' obtained' _ rest =>
      obtain rfl := Option.some.inj (first.symm.trans first')
      obtain rfl := Except.ok.inj (obtained.symm.trans obtained')
      exact ih rest (Nat.lt_of_succ_lt_succ fewer) found

/-- What comes out after a substitution that changes the text comes out before it. -/
theorem ComesOut.step {result : Except Halt String}
    (found : Placeholder.scan (kinds setup) text = some p)
    (obtained : (replacement setup enter owner text p).result s = .ok new)
    (progress : p.splice text new ≠ text)
    (h : ComesOut setup enter owner count (p.splice text new)
      (((replacement setup enter owner text p).final s).noted (.replaced text p new)) result t) :
    ComesOut setup enter owner (count + 1) text s result t := by
  cases h with
  | clean within run none =>
    exact .clean (Nat.succ_le_succ within) (run.step found obtained progress) none
  | stalled within run found' obtained' same =>
    exact .stalled (Nat.succ_lt_succ within) (run.step found obtained progress) found' obtained'
      same
  | refused within run found' refused =>
    exact .refused (Nat.succ_lt_succ within) (run.step found obtained progress) found' refused
  | exhausted run found' => exact .exhausted (run.step found obtained progress) found'

/-- The substitution of a text comes out in one of the four ways. -/
theorem comesOut_substitute (setup : Setup) (enter : Enter) (owner : Option String) (count : Nat)
    (text : String) (s : Session) :
    ComesOut setup enter owner count text s ((substitute setup enter owner count text).result s)
      ((substitute setup enter owner count text).final s) := by
  induction count generalizing text s with
  | zero =>
    cases found : Placeholder.scan (kinds setup) text with
    | none =>
      rw [substitute_of_scan found]
      exact .clean (Nat.zero_le _) (.start text s) found
    | some p =>
      rw [substitute_zero found]
      exact .exhausted (.start text s) found
  | succ count ih =>
    cases found : Placeholder.scan (kinds setup) text with
    | none =>
      rw [substitute_of_scan found]
      exact .clean (Nat.zero_le _) (.start text s) found
    | some p =>
      cases obtained : (replacement setup enter owner text p).result s with
      | error halt =>
        obtain ⟨result, final⟩ := substitute_of_refusal found obtained count
        rw [result, final]
        exact .refused (Nat.succ_pos _) (.start text s) found obtained
      | ok new =>
        by_cases same : p.splice text new = text
        · obtain ⟨result, final⟩ := substitute_of_stall found obtained same count
          rw [result, final]
          exact .stalled (Nat.succ_pos _) (.start text s) found obtained same
        · obtain ⟨result, final⟩ := substitute_of_progress found obtained same count
          rw [result, final]
          exact .step found obtained same (ih _ _)

theorem comesOut_substituteAll {result : Except Halt String}
    (h : (substituteAll setup enter owner text).result s = result) :
    ∃ t, ComesOut setup enter owner setup.options.limit.toNat text s result t := by
  rw [← h]
  exact ⟨_, comesOut_substitute ..⟩

/-- The way in which the substitution of a text comes out tells its result. -/
theorem ComesOut.result_eq {result : Except Halt String}
    (h : ComesOut setup enter owner count text s result t) :
    (substitute setup enter owner count text).result s = result := by
  cases h with
  | clean within run none =>
    obtain ⟨left, rfl⟩ := Nat.exists_eq_add_of_le within
    rw [(run.substitute_eq left).1, substitute_of_scan none, result_pure]
  | stalled within run found obtained same =>
    obtain ⟨left, rfl⟩ := Nat.exists_eq_add_of_lt within
    rw [Nat.add_assoc, (run.substitute_eq _).1, (substitute_of_stall found obtained same _).1]
  | refused within run found refused =>
    obtain ⟨left, rfl⟩ := Nat.exists_eq_add_of_lt within
    rw [Nat.add_assoc, (run.substitute_eq _).1, (substitute_of_refusal found refused _).1]
  | exhausted run found =>
    rw [← Nat.add_zero count, (run.substitute_eq 0).1, substitute_zero found, result_fail]

/-! ### The limit -/

/-- Whether a substitution that may replace a number of placeholders comes upon one of them: it is
the first of the text as it is by then. -/
def Meets (setup : Setup) (enter : Enter) (owner : Option String) (count : Nat) (text : String)
    (s : Session) (now : String) (t : Session) (p : Placeholder) : Prop :=
  ∃ made < count, Substituted setup enter owner made text s now t ∧
    Placeholder.scan (kinds setup) now = some p

/-- Whether the substitution of a text is stopped of itself: there is a replacement for every
placeholder that it comes upon, and it is stopped all the same. -/
structure StopsItself (setup : Setup) (enter : Enter) (owner : Option String) (text : String)
    (s : Session) (halt : Halt) : Prop where
  stopped : (substituteAll setup enter owner text).result s = .error halt
  obtained : ∀ now t p, Meets setup enter owner setup.options.limit.toNat text s now t p →
    ∃ new, (replacement setup enter owner now p).result t = .ok new

/-- The substitution of a text is stopped of itself exactly if all substitutions that are allowed
were made and a placeholder is left, which the failure names. -/
theorem stopsItself_iff : StopsItself setup enter owner text s halt ↔
    ∃ last t p, Substituted setup enter owner setup.options.limit.toNat text s last t ∧
      Placeholder.scan (kinds setup) last = some p ∧
      halt = .failure (.substitutionLimit (ownerOr last owner) setup.options.limit p.text) := by
  constructor
  · rintro ⟨stopped, obtained⟩
    obtain ⟨u, comes⟩ := comesOut_substituteAll stopped
    cases comes with
    | refused within run found refused =>
      obtain ⟨new, replaced⟩ := obtained _ _ _ ⟨_, within, run, found⟩
      cases replaced.symm.trans refused
    | exhausted run found => exact ⟨_, _, _, run, found, rfl⟩
  · rintro ⟨last, t, p, run, found, rfl⟩
    refine ⟨(ComesOut.exhausted run found).result_eq, ?_⟩
    rintro now u q ⟨earlier, fewer, before, met⟩
    exact run.exists_obtained before fewer met

/-- What stops a substitution but not of itself stops a replacement. -/
theorem stopsItself_or_refused
    (stopped : (substituteAll setup enter owner text).result s = .error halt) :
    StopsItself setup enter owner text s halt ∨
      ∃ now t p, Meets setup enter owner setup.options.limit.toNat text s now t p ∧
        (replacement setup enter owner now p).result t = .error halt := by
  obtain ⟨u, comes⟩ := comesOut_substituteAll stopped
  cases comes with
  | refused within run found refused => exact .inr ⟨_, _, _, ⟨_, within, run, found⟩, refused⟩
  | exhausted run found => exact .inl (stopsItself_iff.2 ⟨_, _, _, run, found, rfl⟩)

/-! ### Replacements without a dollar sign -/

/-- What is come upon after a substitution that changes the text is come upon before it. -/
theorem Meets.step {q : Placeholder} (found : Placeholder.scan (kinds setup) text = some p)
    (obtained : (replacement setup enter owner text p).result s = .ok new)
    (progress : p.splice text new ≠ text)
    (h : Meets setup enter owner count (p.splice text new)
      (((replacement setup enter owner text p).final s).noted (.replaced text p new)) now u q) :
    Meets setup enter owner (count + 1) text s now u q := by
  obtain ⟨made, fewer, run, met⟩ := h
  exact ⟨made + 1, Nat.succ_lt_succ fewer, run.step found obtained progress, met⟩

theorem Meets.mono {more : Nat} (within : count ≤ more)
    (h : Meets setup enter owner count text s now t p) :
    Meets setup enter owner more text s now t p := by
  obtain ⟨made, fewer, run, met⟩ := h
  exact ⟨made, Nat.lt_of_lt_of_le fewer within, run, met⟩

/-- Whether no replacement that is obtained in the substitution of a text has a dollar sign, if a
number of placeholders may be replaced. -/
def ReplacesPlainly (setup : Setup) (enter : Enter) (owner : Option String) (count : Nat)
    (text : String) (s : Session) : Prop :=
  ∀ now t p new, Meets setup enter owner count text s now t p →
    (replacement setup enter owner now p).result t = .ok new → '$' ∉ new.toList

theorem replacesPlainly_of_scan (none : Placeholder.scan (kinds setup) text = none) (count : Nat)
    (s : Session) : ReplacesPlainly setup enter owner count text s := by
  rintro now t p new ⟨made, -, run, found⟩ -
  cases run with
  | start => cases none.symm.trans found
  | step first => cases none.symm.trans first

/-- A replacement without a dollar sign leaves the rest to the others. -/
theorem ReplacesPlainly.step (found : Placeholder.scan (kinds setup) text = some p)
    (obtained : (replacement setup enter owner text p).result s = .ok new)
    (plain : '$' ∉ new.toList)
    (rest : ReplacesPlainly setup enter owner count (p.splice text new)
      (((replacement setup enter owner text p).final s).noted (.replaced text p new))) :
    ReplacesPlainly setup enter owner (count + 1) text s := by
  rintro now t q new' ⟨made, fewer, run, met⟩ obtained'
  cases run with
  | start =>
    obtain rfl := Option.some.inj (found.symm.trans met)
    exact Except.ok.inj (obtained.symm.trans obtained') ▸ plain
  | step first replaced _ run =>
    obtain rfl := Option.some.inj (found.symm.trans first)
    obtain rfl := Except.ok.inj (obtained.symm.trans replaced)
    exact rest _ _ _ _ ⟨_, Nat.lt_of_succ_lt_succ fewer, run, met⟩ obtained'

/-- Each substitution by a replacement without a dollar sign takes a dollar sign away. -/
theorem Substituted.add_count_le (run : Substituted setup enter owner made text s last t)
    (plain : ReplacesPlainly setup enter owner made text s) :
    made + last.toList.count '$' ≤ text.toList.count '$' := by
  induction run with
  | start => exact Nat.le_of_eq (Nat.zero_add _)
  | @step made text new last s t p found obtained progress rest ih =>
    have here : Meets setup enter owner (made + 1) text s text s p :=
      ⟨0, Nat.succ_pos _, .start text s, found⟩
    have fewer := Placeholder.count_splice_lt found (plain _ _ _ _ here obtained)
    have later := ih fun now u q new' met => plain now u q new' (met.step found obtained progress)
    omega

/-- Where no replacement has a dollar sign, no more substitutions are made than the text has dollar
signs, each of them changes the text, and no placeholder is left in the result. If as many are
allowed, nothing but a replacement stops the substitution. -/
theorem substituteAll_of_replacesPlainly
    (plain : ReplacesPlainly setup enter owner setup.options.limit.toNat text s) :
    (∀ made last t, made ≤ setup.options.limit.toNat →
      Substituted setup enter owner made text s last t → made ≤ text.toList.count '$') ∧
    (∀ now t p new, Meets setup enter owner setup.options.limit.toNat text s now t p →
      (replacement setup enter owner now p).result t = .ok new → p.splice now new ≠ now) ∧
    (∀ last, (substituteAll setup enter owner text).result s = .ok last →
      Placeholder.scan (kinds setup) last = none) ∧
    ((text.toList.count '$' : Int) ≤ setup.options.limit → ∀ halt,
      (substituteAll setup enter owner text).result s = .error halt →
      ∃ now t p, Meets setup enter owner setup.options.limit.toNat text s now t p ∧
        (replacement setup enter owner now p).result t = .error halt) := by
  have bounded : ∀ made last t, made ≤ setup.options.limit.toNat →
      Substituted setup enter owner made text s last t →
      made + last.toList.count '$' ≤ text.toList.count '$' :=
    fun made last t within run =>
      run.add_count_le fun now u p new met => plain _ _ _ _ (met.mono within)
  have progresses : ∀ now t p new,
      Meets setup enter owner setup.options.limit.toNat text s now t p →
      (replacement setup enter owner now p).result t = .ok new → p.splice now new ≠ now := by
    intro now t p new met obtained same
    obtain ⟨made, fewer, run, found⟩ := id met
    have less := Placeholder.count_splice_lt found (plain _ _ _ _ met obtained)
    rw [same] at less
    exact Nat.lt_irrefl _ less
  refine ⟨fun made last t within run => ?_, progresses, fun last done => ?_,
    fun enough halt stopped => ?_⟩
  · have := bounded made last t within run
    omega
  · obtain ⟨u, comes⟩ := comesOut_substituteAll done
    cases comes with
    | clean within run none => exact none
    | stalled within run found obtained same =>
      exact absurd same (progresses _ _ _ _ ⟨_, within, run, found⟩ obtained)
  · refine (stopsItself_or_refused stopped).resolve_left fun stops => ?_
    obtain ⟨last, t, p, run, found, -⟩ := stopsItself_iff.1 stops
    have := bounded _ _ _ (Nat.le_refl _) run
    have none : '$' ∉ last.toList := List.count_eq_zero.1 (by omega)
    rw [Placeholder.scan_of_plain none] at found
    cases found

/-- A value completes a placeholder with the dollar sign in front of it. -/
theorem substituteAll_of_replacesPlainly_assembled :
    let setup : Setup := ⟨⟨true, true, 5⟩, ⟨fun _ _ => .output "",
      fun name => if name = "HOME" then some "/root" else none, false⟩, .standard⟩
    let s := start (Flat.ofList [("k", .str "HOME")])
    ReplacesPlainly setup (atRest setup) none 5 "$$\x7bk\x7d" s ∧
      (expand setup "$$\x7bk\x7d").result s = .ok "/root" ∧
      Placeholder.scan (kinds setup) "/root" = none ∧
      ∀ made last t, made ≤ 5 →
        Substituted setup (atRest setup) none made "$$\x7bk\x7d" s last t → made ≤ 2 := by
  intro setup s
  have plain : ReplacesPlainly setup (atRest setup) none 5 "$$\x7bk\x7d" s := by
    have value : (replacement setup (atRest setup) none "$$\x7bk\x7d"
        ⟨.reference, "k", 1⟩).result s = .ok "HOME" := by cbv
    have home : ∀ t, (replacement setup (atRest setup) none "$HOME"
        ⟨.envVar, "HOME", 0⟩).result t = .ok "/root" := fun _ => rfl
    have completed :
        Placeholder.splice ⟨.reference, "k", 1⟩ "$$\x7bk\x7d" "HOME" = "$HOME" := by cbv
    refine .step (by cbv) value (by decide) ?_
    rw [completed]
    refine .step (by cbv) (home _) (by decide) ?_
    exact replacesPlainly_of_scan (by cbv) 3 _
  obtain ⟨within, -, clean, -⟩ := substituteAll_of_replacesPlainly plain
  have done : (expand setup "$$\x7bk\x7d").result s = .ok "/root" := by cbv
  exact ⟨plain, done, clean _ done, within⟩

end ConfigTemplate.Session
