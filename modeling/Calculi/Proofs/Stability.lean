import Calculi.Proofs.Outcome
import Calculi.Proofs.SmallStep
import Calculi.Proofs.SubstitutionLaws

/-!
Evaluation and free variables. Which rule applies to a term does not depend on its free variables, so a step remains a
step when they are renumbered or when terms are put for them. Renumbering can be undone, so it makes no new steps, and a
whole run of the shifted term is the run of the term, shifted.
-/
namespace Calculi

/-! Walks keep steps -/

section

variable {visit : Var → Int → Term} {cutoff : Int} {t next : Term}

theorem NumericValue.mapVars (numeric : NumericValue t) : t.mapVars visit cutoff = t := by
  induction numeric with
  | zero => rfl
  | succ _ ih => rw [Term.mapVars, ih]

theorem Value.mapVars (value : Value t) : Value (t.mapVars visit cutoff) := by
  cases value with
  | abs => exact .abs
  | tru => exact .tru
  | fls => exact .fls
  | numeric numeric => rw [numeric.mapVars]; exact .numeric numeric

/-- A walk that may come before or after an abstraction gets its argument. -/
def Term.Exchanges (visit : Var → Int → Term) : Prop :=
  ∀ body arg : Term, (body.fill [arg] 0).mapVars visit 0 = (body.mapVars visit 1).fill [arg.mapVars visit 0] 0

/-- Values stay values under a walk, so what reduces still does, by the same rule. Only the contraction of an application
asks more of the walk if the reducts are to correspond. -/
theorem Reduces.mapVars (reduces : Reduces t next) (answers : ∀ v c, (visit v c).isKnown = true)
    (known : t.isKnown = true) :
    ∃ next', Reduces (t.mapVars visit 0) next' ∧ (Term.Exchanges visit → next' = next.mapVars visit 0) := by
  induction reduces with
  | @beta hint ann body arg next value replaced =>
    simp only [Term.isKnown, Bool.and_eq_true] at known
    obtain ⟨bodyKnown, argKnown⟩ := known
    rw [Term.instantiate_eq_fill bodyKnown argKnown] at replaced
    cases replaced
    have bodyKnown' := Term.isKnown_mapVars answers bodyKnown 1
    have argKnown' := Term.isKnown_mapVars answers argKnown 0
    exact ⟨_, .beta value.mapVars (Term.instantiate_eq_fill bodyKnown' argKnown'),
      fun exchanges => (exchanges body arg).symm⟩
  | argument value _ ih =>
    simp only [Term.isKnown, Bool.and_eq_true] at known
    obtain ⟨arg', inside, same⟩ := ih known.2
    exact ⟨_, .argument value.mapVars inside, fun exchanges => by rw [same exchanges]; rfl⟩
  | function _ ih =>
    simp only [Term.isKnown, Bool.and_eq_true] at known
    obtain ⟨fn', inside, same⟩ := ih known.1
    exact ⟨_, .function inside, fun exchanges => by rw [same exchanges]; rfl⟩
  | iteTru => exact ⟨_, .iteTru, fun _ => rfl⟩
  | iteFls => exact ⟨_, .iteFls, fun _ => rfl⟩
  | guard _ ih =>
    simp only [Term.isKnown, Bool.and_eq_true] at known
    obtain ⟨guard', inside, same⟩ := ih known.1.1
    exact ⟨_, .guard inside, fun exchanges => by rw [same exchanges]; rfl⟩
  | succ _ ih =>
    obtain ⟨arg', inside, same⟩ := ih known
    exact ⟨_, .succ inside, fun exchanges => by rw [same exchanges]; rfl⟩
  | predZero => exact ⟨_, .predZero, fun _ => rfl⟩
  | predSucc numeric =>
    simp only [Term.mapVars, numeric.mapVars]
    exact ⟨_, .predSucc numeric, fun _ => rfl⟩
  | pred _ ih =>
    obtain ⟨arg', inside, same⟩ := ih known
    exact ⟨_, .pred inside, fun exchanges => by rw [same exchanges]; rfl⟩
  | isZeroZero => exact ⟨_, .isZeroZero, fun _ => rfl⟩
  | isZeroSucc numeric =>
    simp only [Term.mapVars, numeric.mapVars]
    exact ⟨_, .isZeroSucc numeric, fun _ => rfl⟩
  | isZero _ ih =>
    obtain ⟨arg', inside, same⟩ := ih known
    exact ⟨_, .isZero inside, fun exchanges => by rw [same exchanges]; rfl⟩

theorem Term.step_mapVars (answers : ∀ v c, (visit v c).isKnown = true) (exchanges : Exchanges visit)
    (known : t.isKnown = true) (stepped : t.step = .ok next) :
    (t.mapVars visit 0).step = .ok (next.mapVars visit 0) := by
  have reduces : Reduces t next := .of_step stepped
  obtain ⟨next', reduces', same⟩ := reduces.mapVars answers known
  rw [reduces'.step, same exchanges]

end

namespace Term

variable {t next s : Term} {d j : Int}

theorem step_replace (slot : 0 ≤ j) (known : t.isKnown = true) (sKnown : s.isKnown = true)
    (stepped : t.step = .ok next) : (t.replace j s 0).step = .ok (next.replace j s 0) := by
  have answers : ∀ v c, (replaceVar j s v c).isKnown = true := fun v c =>
    isKnown_replace (t := .var v) rfl sKnown j c
  have exchanges : Exchanges (replaceVar j s) := by
    intro body arg
    have under : body.mapVars (replaceVar j s) 1 = body.replace (j + 1) (s.shiftFrom 1 0) 0 := replace_under body s j
    rw [under]
    exact replace_fill body arg s slot
  exact step_mapVars answers exchanges known stepped

theorem step_shiftFrom (up : 0 ≤ d) (known : t.isKnown = true) (stepped : t.step = .ok next) :
    (t.shiftFrom d 0).step = .ok (next.shiftFrom d 0) :=
  step_mapVars (fun _ _ => rfl) (fun body arg => shiftFrom_fill body arg up) known stepped

theorem step_of_step_shiftFrom (up : 0 ≤ d) (known : t.isKnown = true) {moved : Term}
    (stepped : (t.shiftFrom d 0).step = .ok moved) : ∃ next, t.step = .ok next ∧ moved = next.shiftFrom d 0 := by
  have reduces : Reduces (t.shiftFrom d 0) moved := .of_step stepped
  have back : (t.shiftFrom d 0).shiftFrom (-d) 0 = t := by
    rw [shiftFrom_shiftFrom t (Int.le_refl 0) (by omega), Int.add_right_neg, shiftFrom_zero]
  obtain ⟨next, reduces', _⟩ : ∃ next, Reduces ((t.shiftFrom d 0).shiftFrom (-d) 0) next ∧ _ :=
    reduces.mapVars (fun _ _ => rfl) (isKnown_shiftFrom known d 0)
  rw [back] at reduces'
  have forth := step_shiftFrom up known reduces'.step
  rw [stepped] at forth
  cases forth
  exact ⟨next, reduces'.step, rfl⟩

theorem Normal.shiftFrom (normal : t.Normal) (up : 0 ≤ d) (known : t.isKnown = true) :
    (t.shiftFrom d 0).Normal := by
  rcases isKnown_invariant.step (i := ()) (isKnown_shiftFrom known d 0) with ⟨moved, stepped, _⟩ | still
  · obtain ⟨next, first, _⟩ := step_of_step_shiftFrom up known stepped
    exact absurd first normal.step_ne_ok
  · exact still

end Term

/-! Whole runs -/

def EvalError.shift (d : Int) : EvalError → Except UnknownForm EvalError
  | .limitExceeded limit term => return .limitExceeded limit (← term.shift d)
  | error => return error

def Trace.shift (d : Int) (trace : Trace) : Except UnknownForm Trace := do
  let first ← trace.first.shift d
  let rest ← trace.rest.mapM (·.shift d)
  let failure ← trace.failure.mapM (EvalError.shift d)
  return ⟨first, rest, failure⟩

namespace Trace

variable {d : Int} {t t' : Term}

theorem shift_stopped {failure failure' : Option EvalError} (moved : t.shift d = .ok t')
    (ended : failure.mapM (EvalError.shift d) = .ok failure') :
    (Trace.mk t [] failure).shift d = .ok ⟨t', [], failure'⟩ := by
  simp only [shift, moved, ended]
  rfl

theorem shift_prepend {trace trace' : Trace} (moved : t.shift d = .ok t') (run : trace.shift d = .ok trace') :
    (trace.prepend t).shift d = .ok (trace'.prepend t') := by
  obtain ⟨first, firstMoved, run⟩ := bind_eq_ok_iff.mp run
  obtain ⟨rest, restMoved, run⟩ := bind_eq_ok_iff.mp run
  obtain ⟨failure, failureMoved, run⟩ := bind_eq_ok_iff.mp run
  cases run
  simp only [shift, prepend, terms, List.mapM_cons, moved, firstMoved, restMoved, failureMoved]
  rfl

end Trace

namespace Term

variable {t : Term} {d : Int}

theorem shift_runFrom (up : 0 ≤ d) (known : t.isKnown = true) (limit : Option Int) (fuel taken : Nat) :
    (t.runFrom limit fuel taken).shift d = .ok ((t.shiftFrom d 0).runFrom limit fuel taken) := by
  induction fuel, taken, t using runFrom_induction limit with
  | dry taken t => exact Trace.shift_stopped (shift_eq_shiftFrom known d) rfl
  | normal fuel taken t normal trace =>
    obtain ⟨inner, stop⟩ := normal.shiftFrom up known
    have trace' : (t.shiftFrom d 0).runFrom limit (fuel + 1) taken = ⟨t.shiftFrom d 0, [], none⟩ := by
      simp only [runFrom, stop]
    rw [trace, trace']
    exact Trace.shift_stopped (shift_eq_shiftFrom known d) rfl
  | failed fuel taken t form stop trace =>
    obtain ⟨inner, impossible⟩ := isKnown_invariant.step_error (i := ()) known stop
    cases impossible
  | exceeded fuel taken t next l stepped past trace =>
    have nextKnown : next.isKnown = true := isKnown_invariant.step_ok (i := ()) known stepped
    have trace' : (t.shiftFrom d 0).runFrom limit (fuel + 1) taken =
        ⟨t.shiftFrom d 0, [], some (.limitExceeded l (next.shiftFrom d 0))⟩ := by
      simp only [runFrom, step_shiftFrom up known stepped, past]
    rw [trace, trace']
    apply Trace.shift_stopped (shift_eq_shiftFrom known d)
    simp only [Option.mapM_some, EvalError.shift, shift_eq_shiftFrom nextKnown]
    rfl
  | step fuel taken t next stepped within trace ih =>
    have nextKnown : next.isKnown = true := isKnown_invariant.step_ok (i := ()) known stepped
    have trace' : (t.shiftFrom d 0).runFrom limit (fuel + 1) taken =
        ((next.shiftFrom d 0).runFrom limit fuel (taken + 1)).prepend (t.shiftFrom d 0) := by
      simp only [runFrom, step_shiftFrom up known stepped, within]
    rw [trace, trace']
    exact Trace.shift_prepend (shift_eq_shiftFrom known d) (ih nextKnown)

theorem shift_run (up : 0 ≤ d) (known : t.isKnown = true) (machine : Machine) :
    (machine.run t).shift d = .ok (machine.run (t.shiftFrom d 0)) := by
  unfold Machine.run run
  cases machine.stepLimit with
  | none => exact shift_runFrom up known none machine.fuel 0
  | some l => exact shift_runFrom up known (some l) (l.toNat + 1) 0

theorem EndsIn.shiftFrom {steps : Nat} {v : Term} (run : t.EndsIn steps (.ok v)) (up : 0 ≤ d)
    (known : t.isKnown = true) : (t.shiftFrom d 0).EndsIn steps (.ok (v.shiftFrom d 0)) := by
  generalize same : Except.ok v = result at run
  induction run with
  | normal normal =>
    cases same
    exact .normal (normal.shiftFrom up known)
  | failed stop => cases same
  | step first rest ih =>
    have nextKnown := isKnown_invariant.step_ok (i := ()) known first
    exact .step (step_shiftFrom up known first) (ih nextKnown same)

theorem EndsIn.of_shiftFrom {steps : Nat} {moved : Term} (run : (t.shiftFrom d 0).EndsIn steps (.ok moved))
    (up : 0 ≤ d) (known : t.isKnown = true) : ∃ v, t.EndsIn steps (.ok v) := by
  induction steps using Nat.strongRecOn generalizing t with
  | ind steps ih =>
    rcases isKnown_invariant.step (i := ()) known with ⟨next, stepped, nextKnown⟩ | normal
    · obtain ⟨rest, rfl, tail⟩ := run.of_step (step_shiftFrom up known stepped)
      obtain ⟨v, tail'⟩ := ih rest (by omega) tail nextKnown
      exact ⟨v, .step stepped tail'⟩
    · obtain ⟨rfl, _⟩ := run.of_normal (normal.shiftFrom up known)
      exact ⟨t, .normal normal⟩

theorem ends_shiftFrom_iff (up : 0 ≤ d) (known : t.isKnown = true) (moved : Term) :
    (t.shiftFrom d 0).Ends (.ok moved) ↔ ∃ v, t.Ends (.ok v) ∧ moved = v.shiftFrom d 0 := by
  constructor
  · rintro ⟨steps, run⟩
    obtain ⟨v, run'⟩ := run.of_shiftFrom up known
    obtain ⟨_, same⟩ := run.deterministic (run'.shiftFrom up known)
    exact ⟨v, ⟨steps, run'⟩, Except.ok.inj same⟩
  · rintro ⟨v, ⟨steps, run⟩, rfl⟩
    exact ⟨steps, run.shiftFrom up known⟩

/-- Two outcomes go together: where there is one there is the other, and it is the first one moved. -/
def MovesTo (d : Int) (outcome outcome' : Term → Prop) : Prop :=
  (∀ u, outcome u → ∃ moved, u.shift d = .ok moved ∧ outcome' moved) ∧
    ∀ moved, outcome' moved → ∃ u, outcome u ∧ u.shift d = .ok moved

theorem movesTo_of_iff {outcome outcome' : Term → Prop} (outcomesKnown : ∀ u, outcome u → u.isKnown = true)
    (same : ∀ moved, outcome' moved ↔ ∃ u, outcome u ∧ moved = u.shiftFrom d 0) : MovesTo d outcome outcome' := by
  refine ⟨fun u here => ?_, fun moved there => ?_⟩
  · exact ⟨_, shift_eq_shiftFrom (outcomesKnown u here) d, (same _).mpr ⟨u, here, rfl⟩⟩
  · obtain ⟨u, here, rfl⟩ := (same moved).mp there
    exact ⟨u, here, shift_eq_shiftFrom (outcomesKnown u here) d⟩

/-- Evaluation goes on in the same way when free variables are renumbered or filled in. A shifted term steps when the term
does, to the shifted reduct; its run under any limit is the run, shifted, and full reduction returns for both or for
neither. A step also remains a step when any term at all is put for a free variable. -/
theorem evaluation_commutes_with_shift_and_substitution {t : Term} (known : t.isKnown = true) :
    (∀ d : Int, 0 ≤ d → ∃ moved, t.shift d = .ok moved ∧
      MovesTo d (fun next => t.step = .ok next) (fun next => moved.step = .ok next) ∧
      (∀ machine : Machine, (machine.run t).shift d = .ok (machine.run moved)) ∧
      MovesTo d (fun v => ∃ fuel, t.normalize fuel = .ok v) (fun v => ∃ fuel, moved.normalize fuel = .ok v)) ∧
    ∀ (j : Int) (s next : Term), 0 ≤ j → s.isKnown = true → t.step = .ok next →
      ∃ replaced next', t.substitute j s = .ok replaced ∧ next.substitute j s = .ok next' ∧
        replaced.step = .ok next' := by
  refine ⟨fun d up => ⟨t.shiftFrom d 0, shift_eq_shiftFrom known d, ?_, shift_run up known, ?_⟩,
    fun j s next slot sKnown stepped => ?_⟩
  · apply movesTo_of_iff fun next stepped => isKnown_invariant.step_ok (i := ()) known stepped
    intro moved
    constructor
    · exact step_of_step_shiftFrom up known
    · rintro ⟨next, stepped, rfl⟩
      exact step_shiftFrom up known stepped
  · have reductions := (isKnown_invariant.evaluation (i := ()) known).2
    apply movesTo_of_iff fun v ⟨fuel, reduced⟩ => reductions fuel v reduced
    have reduced_iff (u v : Term) : (∃ fuel, u.normalize fuel = .ok v) ↔ u.Ends (.ok v) :=
      exists_normalize_iff u (.ok v)
    intro moved
    simp only [reduced_iff, ends_shiftFrom_iff up known]
  · have nextKnown := isKnown_invariant.step_ok (i := ()) known stepped
    exact ⟨_, _, substitute_eq_replace known sKnown j, substitute_eq_replace nextKnown sKnown j,
      step_replace slot known sKnown stepped⟩

def stuckOnce : Term :=
  .app (.abs "x" none (.app (.var ⟨0, 2⟩) (.var ⟨1, 2⟩))) .tru

/-- The free variable is renumbered in the reduct, or filled with a term that is no value, and the step stays. -/
theorem evaluation_commutes_with_shift_and_substitution_stuckOnce :
    stuckOnce.step = .ok (.app .tru (.var ⟨0, 1⟩)) ∧
      (∃ moved, stuckOnce.shift 3 = .ok moved ∧ moved.step = .ok (.app .tru (.var ⟨3, 4⟩))) ∧
      ∃ replaced, stuckOnce.substitute 0 (.isZero .zero) = .ok replaced ∧
        replaced.step = .ok (.app .tru (.isZero .zero)) := by
  have known : stuckOnce.isKnown = true := rfl
  have stepped : stuckOnce.step = .ok (.app .tru (.var ⟨0, 1⟩)) := rfl
  obtain ⟨moving, filling⟩ := evaluation_commutes_with_shift_and_substitution known
  obtain ⟨moved, shifted, ⟨forth, _⟩, _⟩ := moving 3 (by decide)
  obtain ⟨next, nextShifted, movedSteps⟩ := forth _ stepped
  cases nextShifted
  obtain ⟨replaced, next, substituted, nextSubstituted, replacedSteps⟩ :=
    filling 0 (.isZero .zero) _ (by decide) rfl stepped
  cases nextSubstituted
  exact ⟨stepped, ⟨moved, shifted, movedSteps⟩, replaced, substituted, replacedSteps⟩

end Term

end Calculi
