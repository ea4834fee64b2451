import Calculi.Evaluation
import Calculi.Proofs.Frame

/-!
How single-step runs end. `EndsIn` counts the steps of a run that comes to its own end and says with what. It
is the one notion through which runs under a limit and full reduction are compared; fuel does not occur in it.
-/
namespace Calculi

namespace Trace

@[simp] theorem last_prepend (t : Term) (trace : Trace) : (trace.prepend t).last = trace.last := by
  simp only [last, prepend, terms, List.getLastD_cons]

@[simp] theorem failure_prepend (t : Term) (trace : Trace) :
    (trace.prepend t).failure = trace.failure := rfl

@[simp] theorem terms_prepend (t : Term) (trace : Trace) :
    (trace.prepend t).terms = t :: trace.terms := rfl

@[simp] theorem outcome_prepend (t : Term) (trace : Trace) :
    (trace.prepend t).outcome = trace.outcome := by
  simp only [outcome, failure_prepend, last_prepend]

theorem getLast?_terms (trace : Trace) : trace.terms.getLast? = some trace.last := by
  rw [terms, List.getLast?_cons, last, List.getLastD_eq_getLast?]

theorem outcome_eq_ok_iff (trace : Trace) (v : Term) :
    trace.outcome = .ok v ↔ trace.failure = none ∧ trace.last = v := by
  cases failed : trace.failure <;> simp [outcome, failed]

theorem outcome_eq_error_iff (trace : Trace) (error : EvalError) :
    trace.outcome = .error error ↔ trace.failure = some error := by
  cases failed : trace.failure <;> simp [outcome, failed]

end Trace

namespace Term

/-- The run from a term takes this many steps and ends: at a term to which no rule applies, or with the unknown
form that the next contraction meets. -/
inductive EndsIn : Term → Nat → Except UnknownForm Term → Prop where
  | normal {t : Term} (normal : t.Normal) : EndsIn t 0 (.ok t)
  | failed {t : Term} {form : UnknownForm} (stop : t.step = .error (.unknownForm form)) :
      EndsIn t 0 (.error form)
  | step {t next : Term} {steps : Nat} {result : Except UnknownForm Term} (first : t.step = .ok next)
      (rest : EndsIn next steps result) : EndsIn t (steps + 1) result

def Ends (t : Term) (result : Except UnknownForm Term) : Prop :=
  ∃ steps, t.EndsIn steps result

theorem EndsIn.of_step {t next : Term} {steps : Nat} {result : Except UnknownForm Term}
    (run : t.EndsIn steps result) (stepped : t.step = .ok next) :
    ∃ rest, steps = rest + 1 ∧ next.EndsIn rest result := by
  cases run with
  | normal normal => exact absurd stepped normal.step_ne_ok
  | failed stop => rw [stepped] at stop; cases stop
  | step first rest =>
    rw [stepped] at first
    cases first
    exact ⟨_, rfl, rest⟩

theorem EndsIn.of_failed {t : Term} {form : UnknownForm} {steps : Nat}
    {result : Except UnknownForm Term} (run : t.EndsIn steps result)
    (stopped : t.step = .error (.unknownForm form)) : steps = 0 ∧ result = .error form := by
  cases run with
  | normal normal => exact absurd stopped normal.step_ne_unknownForm
  | failed stop =>
    rw [stopped] at stop
    cases stop
    exact ⟨rfl, rfl⟩
  | step first rest => rw [stopped] at first; cases first

theorem EndsIn.of_normal {t : Term} {steps : Nat} {result : Except UnknownForm Term}
    (run : t.EndsIn steps result) (normal : t.Normal) : steps = 0 ∧ result = .ok t := by
  cases run with
  | normal _ => exact ⟨rfl, rfl⟩
  | failed stop => exact absurd stop normal.step_ne_unknownForm
  | step first rest => exact absurd first normal.step_ne_ok

theorem EndsIn.deterministic {t : Term} {steps steps' : Nat} {result result' : Except UnknownForm Term}
    (run : t.EndsIn steps result) (run' : t.EndsIn steps' result') : steps = steps' ∧ result = result' := by
  induction run generalizing steps' with
  | normal normal =>
    obtain ⟨rfl, rfl⟩ := run'.of_normal normal
    exact ⟨rfl, rfl⟩
  | failed stop =>
    obtain ⟨rfl, rfl⟩ := run'.of_failed stop
    exact ⟨rfl, rfl⟩
  | step first rest ih =>
    obtain ⟨more, rfl, rest'⟩ := run'.of_step first
    obtain ⟨rfl, rfl⟩ := ih rest'
    exact ⟨rfl, rfl⟩

theorem EndsIn.final_normal {t v : Term} {steps : Nat} (run : t.EndsIn steps (.ok v)) : v.Normal := by
  generalize same : Except.ok v = result at run
  induction run with
  | normal normal => cases same; exact normal
  | failed stop => cases same
  | step first rest ih => exact ih same

theorem Ends.final_normal {t v : Term} (run : t.Ends (.ok v)) : v.Normal := by
  obtain ⟨steps, run⟩ := run
  exact run.final_normal

theorem Ends.deterministic {t : Term} {result result' : Except UnknownForm Term} (run : t.Ends result)
    (run' : t.Ends result') : result = result' := by
  obtain ⟨steps, run⟩ := run
  obtain ⟨steps', run'⟩ := run'
  exact (run.deterministic run').2

/-! Runs with fuel and limits -/

theorem EndsIn.runFrom {t : Term} {steps : Nat} {result : Except UnknownForm Term}
    (run : t.EndsIn steps result) (limit : Option Int) (taken fuel : Nat)
    (allowed : ∀ l ∈ limit, (taken + steps : Int) ≤ l) (enough : steps < fuel) :
    (t.runFrom limit fuel taken).outcome = result.mapError .unknownForm := by
  induction run generalizing taken fuel with
  | normal normal =>
    obtain ⟨inner, stop⟩ := normal
    obtain ⟨fuel, rfl⟩ : ∃ less, fuel = less + 1 := ⟨fuel - 1, by omega⟩
    simp only [Term.runFrom, stop]
    rfl
  | failed stop =>
    obtain ⟨fuel, rfl⟩ : ∃ less, fuel = less + 1 := ⟨fuel - 1, by omega⟩
    simp only [Term.runFrom, stop]
    rfl
  | step first rest ih =>
    obtain ⟨fuel, rfl⟩ : ∃ less, fuel = less + 1 := ⟨fuel - 1, by omega⟩
    have within : pastLimit limit (taken + 1) = none := by
      simp only [pastLimit, Option.filter_eq_none_iff, decide_eq_true_eq]
      intro l bound
      have room := allowed l bound
      omega
    simp only [Term.runFrom, first, within, Trace.outcome_prepend]
    apply ih
    · intro l bound
      have room := allowed l bound
      push_cast at room ⊢
      omega
    · omega

theorem runFrom_induction (limit : Option Int) {motive : Nat → Nat → Term → Prop}
    (dry : ∀ (taken : Nat) (t : Term), motive 0 taken t)
    (normal : ∀ (fuel taken : Nat) (t : Term), t.Normal →
      t.runFrom limit (fuel + 1) taken = ⟨t, [], none⟩ → motive (fuel + 1) taken t)
    (failed : ∀ (fuel taken : Nat) (t : Term) (form : UnknownForm), t.step = .error (.unknownForm form) →
      t.runFrom limit (fuel + 1) taken = ⟨t, [], some (.unknownForm form)⟩ → motive (fuel + 1) taken t)
    (exceeded : ∀ (fuel taken : Nat) (t next : Term) (l : Int), t.step = .ok next →
      pastLimit limit (taken + 1) = some l →
      t.runFrom limit (fuel + 1) taken = ⟨t, [], some (.limitExceeded l next)⟩ → motive (fuel + 1) taken t)
    (step : ∀ (fuel taken : Nat) (t next : Term), t.step = .ok next → pastLimit limit (taken + 1) = none →
      t.runFrom limit (fuel + 1) taken = (next.runFrom limit fuel (taken + 1)).prepend t →
      motive fuel (taken + 1) next → motive (fuel + 1) taken t)
    (fuel taken : Nat) (t : Term) : motive fuel taken t := by
  induction fuel generalizing taken t with
  | zero => exact dry taken t
  | succ fuel ih =>
    cases stepped : t.step with
    | ok next =>
      cases past : pastLimit limit (taken + 1) with
      | some l => exact exceeded fuel taken t next l stepped past (by simp only [runFrom, stepped, past])
      | none =>
        have trace : t.runFrom limit (fuel + 1) taken = (next.runFrom limit fuel (taken + 1)).prepend t := by
          simp only [runFrom, stepped, past]
        exact step fuel taken t next stepped past trace (ih (taken + 1) next)
    | error stop =>
      cases stop with
      | noRule inner => exact normal fuel taken t ⟨inner, stepped⟩ (by simp only [runFrom, stepped])
      | unknownForm form => exact failed fuel taken t form stepped (by simp only [runFrom, stepped])

theorem ends_of_runFrom {t : Term} {limit : Option Int} {fuel taken : Nat}
    {result : Except UnknownForm Term}
    (shown : (t.runFrom limit fuel taken).outcome = result.mapError .unknownForm) : t.Ends result := by
  induction fuel, taken, t using runFrom_induction limit with
  | dry taken t => cases result <;> cases shown
  | normal fuel taken t normal trace =>
    rw [trace] at shown
    cases result with
    | ok v => cases shown; exact ⟨0, .normal normal⟩
    | error form => cases shown
  | failed fuel taken t form stop trace =>
    rw [trace] at shown
    cases result with
    | ok v => cases shown
    | error other => cases shown; exact ⟨0, .failed stop⟩
  | exceeded fuel taken t next l stepped past trace =>
    rw [trace] at shown
    cases result <;> cases shown
  | step fuel taken t next stepped within trace ih =>
    rw [trace, Trace.outcome_prepend] at shown
    obtain ⟨steps, rest⟩ := ih shown
    exact ⟨steps + 1, .step stepped rest⟩

theorem runFrom_cases (limit : Option Int) (fuel taken : Nat) (t : Term) :
    (t.runFrom limit fuel taken).outcome = .error .outOfFuel ∨
      (∃ result : Except UnknownForm Term,
        (t.runFrom limit fuel taken).outcome = result.mapError .unknownForm) ∨
      ∃ l ∈ limit, ∃ u, (t.runFrom limit fuel taken).outcome = .error (.limitExceeded l u) := by
  induction fuel, taken, t using runFrom_induction limit with
  | dry taken t => exact .inl rfl
  | normal fuel taken t normal trace =>
    rw [trace]
    exact .inr (.inl ⟨.ok t, rfl⟩)
  | failed fuel taken t form stop trace =>
    rw [trace]
    exact .inr (.inl ⟨.error form, rfl⟩)
  | exceeded fuel taken t next l stepped past trace =>
    rw [trace]
    exact .inr (.inr ⟨l, (Option.filter_eq_some_iff.mp past).1, next, rfl⟩)
  | step fuel taken t next stepped within trace ih =>
    rw [trace, Trace.outcome_prepend]
    exact ih

/-- Fuel for one step past the limit is enough for a limited run. -/
theorem runFrom_limited {l : Int} {fuel taken : Nat} (t : Term) (enough : l.toNat + 1 ≤ taken + fuel)
    (within : taken ≤ l.toNat) : (t.runFrom (some l) fuel taken).outcome ≠ .error .outOfFuel := by
  induction fuel, taken, t using runFrom_induction (some l) with
  | dry taken t => omega
  | normal fuel taken t normal trace => simp [trace, Trace.outcome]
  | failed fuel taken t form stop trace => simp [trace, Trace.outcome]
  | exceeded fuel taken t next l' stepped past trace => simp [trace, Trace.outcome]
  | step fuel taken t next stepped allowed trace ih =>
    have room : (taken + 1 : Int) ≤ l := by simpa [pastLimit] using allowed
    rw [trace, Trace.outcome_prepend]
    exact ih (by omega) (by omega)

/-- What every step keeps holds of all terms that a run shows, and of the one that its limit forbids. -/
theorem runFrom_invariant (holds : Term → Prop)
    (kept : ∀ {u next : Term}, holds u → u.step = .ok next → holds next) {t : Term} (start : holds t)
    (limit : Option Int) (fuel taken : Nat) :
    (∀ u ∈ (t.runFrom limit fuel taken).terms, holds u) ∧
      ∀ l u, (t.runFrom limit fuel taken).failure = some (.limitExceeded l u) → holds u := by
  induction fuel, taken, t using runFrom_induction limit with
  | dry taken t => simpa [runFrom, Trace.terms] using start
  | normal fuel taken t normal trace => simpa [trace, Trace.terms] using start
  | failed fuel taken t form stop trace => simpa [trace, Trace.terms] using start
  | exceeded fuel taken t next l stepped past trace =>
    rw [trace]
    refine ⟨by simpa [Trace.terms] using start, ?_⟩
    intro l' u same
    cases same
    exact kept start stepped
  | step fuel taken t next stepped within trace ih =>
    obtain ⟨shown, forbidden⟩ := ih (kept start stepped)
    rw [trace, Trace.terms_prepend, Trace.failure_prepend]
    refine ⟨?_, forbidden⟩
    intro u member
    rcases List.mem_cons.mp member with rfl | later
    · exact start
    · exact shown u later

theorem run_eq_runFrom (fuel : Nat) (limit : Option Int) (t : Term) :
    ∃ bound, t.run fuel limit = t.runFrom limit bound 0 := by
  cases limit with
  | none => exact ⟨fuel, rfl⟩
  | some l => exact ⟨l.toNat + 1, rfl⟩

theorem exists_run_iff (t : Term) (result : Except UnknownForm Term) :
    (∃ fuel, (t.run fuel none).outcome = result.mapError .unknownForm) ↔ t.Ends result := by
  constructor
  · rintro ⟨fuel, shown⟩
    exact ends_of_runFrom shown
  · rintro ⟨steps, run⟩
    exact ⟨steps + 1, run.runFrom none 0 (steps + 1) (by simp) (Nat.lt_succ_self steps)⟩

theorem run_diverges_iff (t : Term) :
    (∀ fuel, (t.run fuel none).failure = some .outOfFuel) ↔ ∀ result, ¬t.Ends result := by
  simp only [← Trace.outcome_eq_error_iff]
  constructor
  · intro diverges result run
    obtain ⟨fuel, shown⟩ := (exists_run_iff t result).mpr run
    rw [diverges fuel] at shown
    cases result <;> cases shown
  · intro endless fuel
    rcases runFrom_cases none fuel 0 t with dry | ⟨result, shown⟩ | ⟨l, impossible, _⟩
    · exact dry
    · exact absurd (ends_of_runFrom shown) (endless result)
    · cases impossible

/-! Runs inside a frame -/

theorem Ends.of_step {t next : Term} {result : Except UnknownForm Term} (first : t.step = .ok next)
    (rest : next.Ends result) : t.Ends result := by
  obtain ⟨steps, rest⟩ := rest
  exact ⟨steps + 1, .step first rest⟩

theorem ends_redex {t : Term} {contractum result : Except UnknownForm Term}
    (redex : t.contract? = some contractum)
    (rest : ∀ next, contractum = .ok next → next.Ends result)
    (failure : ∀ form, contractum = .error form → result = .error form) : t.Ends result := by
  have stepped := step_redex redex
  cases contractum with
  | ok next => exact .of_step stepped (rest next rfl)
  | error form =>
    rw [failure form rfl]
    exact ⟨0, .failed stepped⟩

theorem normal_plug (frame : Frame) {t : Term} (normal : t.Normal) (reaches : frame.Reaches t)
    (noRedex : (frame.plug t).contract? = none) : (frame.plug t).Normal := by
  obtain ⟨inner, stop⟩ := normal
  exact ⟨inner, by rw [step_inside reaches noRedex, stop]; rfl⟩

/-- The hole runs to its end first, then the plugged frame goes on from there. -/
theorem Ends.plug (frame : Frame) {t v : Term} {result : Except UnknownForm Term}
    (inner : t.Ends (.ok v)) (outer : (frame.plug v).Ends result) : (frame.plug t).Ends result := by
  obtain ⟨steps, run⟩ := inner
  generalize same : Except.ok v = final at run
  induction run with
  | normal normal => cases same; exact outer
  | failed stop => cases same
  | step first rest ih => exact .of_step (step_plug_ok frame first) (ih same)

theorem Ends.plug_error (frame : Frame) {t : Term} {form : UnknownForm} (inner : t.Ends (.error form)) :
    (frame.plug t).Ends (.error form) := by
  obtain ⟨steps, run⟩ := inner
  generalize same : Except.error form = final at run
  induction run with
  | normal normal => cases same
  | failed stop =>
    cases same
    exact ⟨0, .failed (step_plug_failed frame stop)⟩
  | step first rest ih => exact .of_step (step_plug_ok frame first) (ih same)

theorem EndsIn.unplug (frame : Frame) {t : Term} {steps : Nat} {result : Except UnknownForm Term}
    (run : (frame.plug t).EndsIn steps result) :
    (∃ form, t.EndsIn steps (.error form) ∧ result = .error form) ∨
      ∃ v inner outer, t.EndsIn inner (.ok v) ∧ (frame.plug v).EndsIn outer result ∧
        inner + outer = steps := by
  induction steps using Nat.strongRecOn generalizing t with
  | ind steps ih =>
    cases stepped : t.step with
    | ok next =>
      obtain ⟨rest, rfl, tail⟩ := run.of_step (step_plug_ok frame stepped)
      rcases ih rest (by omega) tail with ⟨form, failed, same⟩ | ⟨v, inner, outer, hole, whole, total⟩
      · exact .inl ⟨form, .step stepped failed, same⟩
      · exact .inr ⟨v, inner + 1, outer, .step stepped hole, whole, by omega⟩
    | error stop =>
      cases stop with
      | noRule blocked => exact .inr ⟨t, 0, steps, .normal ⟨blocked, stepped⟩, run, by omega⟩
      | unknownForm form =>
        obtain ⟨rfl, rfl⟩ := run.of_failed (step_plug_failed frame stepped)
        exact .inl ⟨form, .failed stepped, rfl⟩

theorem EndsIn.settle {frame : Frame} {t : Term} {steps : Nat} {result : Except UnknownForm Term}
    (run : (frame.plug t).EndsIn steps result) (normal : t.Normal) (reaches : frame.Reaches t) :
    match (frame.plug t).contract? with
    | none => result = .ok (frame.plug t)
    | some (.error form) => result = .error form
    | some (.ok next) => ∃ rest, rest < steps ∧ next.EndsIn rest result := by
  cases contraction : (frame.plug t).contract? with
  | none => exact (run.of_normal (normal_plug frame normal reaches contraction)).2
  | some contractum =>
    have stepped := step_redex contraction
    cases contractum with
    | error form => exact (run.of_failed stepped).2
    | ok next =>
      obtain ⟨rest, rfl, tail⟩ := run.of_step stepped
      exact ⟨rest, Nat.lt_succ_self rest, tail⟩

end Term

end Calculi
