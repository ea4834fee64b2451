import Calculi.Proofs.Run

/-!
Full reduction and single steps agree. Full reduction visits subterms in the order in which a run reaches them,
so each of its results is the end of a run; conversely a finite run bounds the recursion, by its length first and
by the size of the term second.
-/
namespace Calculi

namespace Fuelled

variable {α β : Type}

/-- The left computation ran out of fuel, or both come to the same result. -/
def Below (x y : Except EvalError α) : Prop :=
  x = .error .outOfFuel ∨
    ∃ result : Except UnknownForm α, x = result.mapError .unknownForm ∧ y = result.mapError .unknownForm

theorem Below.refl (result : Except UnknownForm α) :
    Below (result.mapError .unknownForm) (result.mapError .unknownForm) := .inr ⟨result, rfl, rfl⟩

theorem Below.pure (a : α) : Below (pure a) (pure a) := .refl (.ok a)

theorem Below.bind {x y : Except EvalError α} {f g : α → Except EvalError β} (first : Below x y)
    (next : ∀ a, Below (f a) (g a)) : Below (x >>= f) (y >>= g) := by
  rcases first with dry | ⟨result, left, right⟩
  · rw [dry]
    exact .inl rfl
  · rw [left, right]
    cases result with
    | error form => exact .refl (.error form)
    | ok a => exact next a

theorem bind_cases {x : Except EvalError α} {f : α → Except EvalError β} {result : Except UnknownForm β}
    (done : x >>= f = result.mapError .unknownForm) :
    (∃ form, x = .error (.unknownForm form) ∧ result = .error form) ∨
      ∃ a, x = .ok a ∧ f a = result.mapError .unknownForm := by
  cases x with
  | ok a => exact .inr ⟨a, rfl, done⟩
  | error error =>
    cases result with
    | ok b => cases done
    | error form => cases done; exact .inl ⟨form, rfl, rfl⟩

/-- With enough fuel a computation gives this result, and more fuel does not change it. -/
def Settles (compute : Nat → Except EvalError α) (result : Except UnknownForm α) : Prop :=
  ∃ enough, ∀ fuel, enough ≤ fuel → compute fuel = result.mapError .unknownForm

theorem Settles.of_succ {compute : Nat → Except EvalError α} {result : Except UnknownForm α}
    (later : Settles (fun fuel => compute (fuel + 1)) result) : Settles compute result := by
  obtain ⟨enough, settled⟩ := later
  refine ⟨enough + 1, fun fuel le => ?_⟩
  obtain ⟨fuel, rfl⟩ : ∃ less, fuel = less + 1 := ⟨fuel - 1, by omega⟩
  exact settled fuel (by omega)

theorem Settles.bind {compute : Nat → Except EvalError α} {rest : Nat → α → Except EvalError β} {a : α}
    {result : Except UnknownForm β} (first : Settles compute (.ok a))
    (next : Settles (fun fuel => rest fuel a) result) :
    Settles (fun fuel => compute fuel >>= rest fuel) result := by
  obtain ⟨enough, settled⟩ := first
  obtain ⟨enough', settled'⟩ := next
  refine ⟨enough + enough', fun fuel le => ?_⟩
  simp only [settled fuel (by omega)]
  exact settled' fuel (by omega)

theorem Settles.bind_error {compute : Nat → Except EvalError α}
    {rest : Nat → α → Except EvalError β} {form : UnknownForm} (first : Settles compute (.error form)) :
    Settles (fun fuel => compute fuel >>= rest fuel) (.error form) := by
  obtain ⟨enough, settled⟩ := first
  refine ⟨enough, fun fuel le => ?_⟩
  simp only [settled fuel le]
  rfl

end Fuelled

namespace Term

open Fuelled

theorem below_contraction (t : Term) {goOn goOn' : Except EvalError Term → Except EvalError Term}
    (follow : ∀ contractum : Except UnknownForm Term,
      Below (goOn (contractum.mapError .unknownForm)) (goOn' (contractum.mapError .unknownForm))) :
    Below (match t.contractum? with
        | some contractum => goOn contractum
        | none => .ok t)
      (match t.contractum? with
        | some contractum => goOn' contractum
        | none => .ok t) := by
  cases contraction : t.contract? with
  | none =>
    simp only [contractum?, contraction, Option.map_none]
    exact .refl (.ok t)
  | some contractum =>
    simp only [contractum?, contraction, Option.map_some]
    exact follow contractum

theorem normalize_below {fuel more : Nat} (le : fuel ≤ more) (t : Term) :
    Below (t.normalize fuel) (t.normalize more) := by
  induction fuel generalizing more t with
  | zero => exact .inl rfl
  | succ fuel ih =>
    obtain ⟨more, rfl⟩ : ∃ less, more = less + 1 := ⟨more - 1, by omega⟩
    have sub : ∀ u : Term, Below (u.normalize fuel) (u.normalize more) := fun u => ih (by omega) u
    cases t with
    | app fn arg =>
      simp only [normalize]
      apply (sub fn).bind
      intro fn'
      split
      · apply (sub arg).bind
        intro arg'
        exact below_contraction _ fun contractum => (Below.refl contractum).bind sub
      · exact .pure _
    | ite guard thn els =>
      simp only [normalize]
      apply (sub guard).bind
      intro guard'
      exact below_contraction _ fun contractum => (Below.refl contractum).bind sub
    | succ arg => exact (sub arg).bind fun _ => .pure _
    | pred arg => exact (sub arg).bind fun _ => below_contraction _ .refl
    | isZero arg => exact (sub arg).bind fun _ => below_contraction _ .refl
    | _ => exact .pure _

theorem normalize_cases (fuel : Nat) (t : Term) :
    t.normalize fuel = .error .outOfFuel ∨
      ∃ result : Except UnknownForm Term, t.normalize fuel = result.mapError .unknownForm := by
  rcases normalize_below (Nat.le_refl fuel) t with dry | ⟨result, done, _⟩
  · exact .inl dry
  · exact .inr ⟨result, done⟩

/-! From full reduction to runs -/

theorem ends_left {frame : Frame} {v : Term} {result : Except UnknownForm Term} (normal : v.Normal)
    (reaches : frame.Reaches v) (noRedex : (frame.plug v).contract? = none)
    (done : Except.ok (frame.plug v) = result.mapError EvalError.unknownForm) :
    (frame.plug v).Ends result := by
  cases result with
  | ok final => cases done; exact ⟨0, .normal (normal_plug frame normal reaches noRedex)⟩
  | error form => cases done

/-- The last act of full reduction at a frame whose hole is final: contract and go on, or leave the term. -/
theorem ends_of_contraction {frame : Frame} {v : Term}
    {goOn : Except EvalError Term → Except EvalError Term} {result : Except UnknownForm Term}
    (normal : v.Normal) (reaches : frame.Reaches v)
    (done : (match (frame.plug v).contractum? with
      | some contractum => goOn contractum
      | none => .ok (frame.plug v)) = result.mapError .unknownForm)
    (fails : ∀ form, goOn (.error (.unknownForm form)) = .error (.unknownForm form))
    (follow : ∀ next, (frame.plug v).contract? = some (.ok next) →
      goOn (.ok next) = result.mapError .unknownForm → next.Ends result) :
    (frame.plug v).Ends result := by
  cases contraction : (frame.plug v).contract? with
  | none =>
    simp only [contractum?, contraction, Option.map_none] at done
    exact ends_left normal reaches contraction done
  | some contractum =>
    simp only [contractum?, contraction, Option.map_some] at done
    apply ends_redex contraction
    · rintro next rfl
      exact follow next contraction done
    · rintro form rfl
      have failed := (fails form).symm.trans done
      cases result with
      | ok final => cases failed
      | error other => cases failed; rfl

theorem ends_of_hole (frame : Frame) {fuel : Nat} {t : Term} {rest : Term → Except EvalError Term}
    {result : Except UnknownForm Term}
    (done : t.normalize fuel >>= rest = result.mapError .unknownForm)
    (hole : ∀ {inner : Except UnknownForm Term},
      t.normalize fuel = inner.mapError .unknownForm → t.Ends inner)
    (follow : ∀ v : Term, v.Normal → rest v = result.mapError .unknownForm →
      (frame.plug v).Ends result) : (frame.plug t).Ends result := by
  rcases bind_cases done with ⟨form, failed, rfl⟩ | ⟨v, reduced, done⟩
  · have holeEnds : t.Ends (.error form) := hole failed
    exact holeEnds.plug_error frame
  · have holeEnds : t.Ends (.ok v) := hole reduced
    exact holeEnds.plug frame (follow v holeEnds.final_normal done)

theorem isValue_of_contract?_pred {arg next : Term}
    (redex : (Term.pred arg).contract? = some (.ok next)) : next.isValue = true := by
  cases contracts_of_contract? redex with
  | predZero => rfl
  | predSucc numeric => exact isValue_of_isNumeric numeric

theorem isValue_of_contract?_isZero {arg next : Term}
    (redex : (Term.isZero arg).contract? = some (.ok next)) : next.isValue = true := by
  cases contracts_of_contract? redex <;> rfl

theorem ends_value {v : Term} {result : Except UnknownForm Term} (value : v.isValue = true)
    (done : Except.ok v = result.mapError EvalError.unknownForm) : v.Ends result := by
  cases result with
  | ok final => cases done; exact ⟨0, .normal (normal_of_isValue value)⟩
  | error form => cases done

theorem ends_of_normalize {fuel : Nat} {t : Term} {result : Except UnknownForm Term}
    (done : t.normalize fuel = result.mapError .unknownForm) : t.Ends result := by
  induction fuel generalizing t result with
  | zero => cases result <;> cases done
  | succ fuel ih =>
    cases t with
    | app fn arg =>
      simp only [normalize] at done
      apply ends_of_hole (.function arg) done ih
      intro fn' fnNormal done
      cases value : fn'.isValue with
      | false =>
        simp only [value, Bool.false_eq_true, if_false] at done
        exact ends_left fnNormal value (contract?_plug value) done
      | true =>
        simp only [value, if_true] at done
        apply ends_of_hole (.argument fn' value) done ih
        intro arg' argNormal done
        exact ends_of_contraction argNormal trivial done (fun _ => rfl) fun _ _ => ih
    | ite guard thn els =>
      simp only [normalize] at done
      apply ends_of_hole (.guard thn els) done ih
      intro guard' normal done
      exact ends_of_contraction normal trivial done (fun _ => rfl) fun _ _ => ih
    | succ arg =>
      apply ends_of_hole .succ done ih
      intro arg' normal done
      exact ends_left normal trivial rfl done
    | pred arg =>
      simp only [normalize] at done
      apply ends_of_hole .pred done ih
      intro arg' normal done
      exact ends_of_contraction normal trivial done (fun _ => rfl)
        fun _ redex => ends_value (isValue_of_contract?_pred redex)
    | isZero arg =>
      simp only [normalize] at done
      apply ends_of_hole .isZero done ih
      intro arg' normal done
      exact ends_of_contraction normal trivial done (fun _ => rfl)
        fun _ redex => ends_value (isValue_of_contract?_isZero redex)
    | _ =>
      cases result with
      | ok final => cases done; exact ⟨0, .normal ⟨_, step_inert rfl⟩⟩
      | error form => cases done

/-! From runs to full reduction -/

theorem settles_hole (frame : Frame) {t : Term} {rest : Nat → Term → Except EvalError Term} {steps : Nat}
    {result : Except UnknownForm Term} (run : (frame.plug t).EndsIn steps result)
    (hole : ∀ {inner final}, inner ≤ steps → t.EndsIn inner final → Settles (t.normalize ·) final)
    (follow : ∀ {v outer}, outer ≤ steps → v.Normal → (frame.plug v).EndsIn outer result →
      Settles (rest · v) result) :
    Settles (fun fuel => t.normalize fuel >>= rest fuel) result := by
  rcases run.unplug frame with ⟨form, failed, rfl⟩ | ⟨v, inner, outer, holeRun, whole, total⟩
  · exact (hole (Nat.le_refl steps) failed).bind_error
  · exact (hole (by omega) holeRun).bind (follow (by omega) holeRun.final_normal whole)

theorem settles_contraction (frame : Frame) {v : Term}
    {goOn : Nat → Except EvalError Term → Except EvalError Term} {steps : Nat}
    {result : Except UnknownForm Term} (normal : v.Normal) (reaches : frame.Reaches v)
    (run : (frame.plug v).EndsIn steps result)
    (fails : ∀ fuel form, goOn fuel (.error (.unknownForm form)) = .error (.unknownForm form))
    (follow : ∀ {next rest}, rest < steps → (frame.plug v).contract? = some (.ok next) →
      next.EndsIn rest result → Settles (goOn · (.ok next)) result) :
    Settles (fun fuel => match (frame.plug v).contractum? with
      | some contractum => goOn fuel contractum
      | none => .ok (frame.plug v)) result := by
  have settled := run.settle normal reaches
  cases contraction : (frame.plug v).contract? with
  | none =>
    simp only [contraction] at settled
    simp only [contractum?, contraction, Option.map_none, settled]
    exact ⟨0, fun _ _ => rfl⟩
  | some contractum =>
    simp only [contraction] at settled
    simp only [contractum?, contraction, Option.map_some]
    cases contractum with
    | error form =>
      rw [settled]
      exact ⟨0, fun fuel _ => fails fuel form⟩
    | ok next =>
      obtain ⟨rest, less, tail⟩ := settled
      exact follow less contraction tail

theorem settles_value {v : Term} {steps : Nat} {result : Except UnknownForm Term}
    (value : v.isValue = true) (run : v.EndsIn steps result) :
    Settles (fun _ => .ok v) result := by
  obtain ⟨_, rfl⟩ := run.of_normal (normal_of_isValue value)
  exact ⟨0, fun _ _ => rfl⟩

/-- Subterms are reduced within the same run, contracta within a shorter one. -/
theorem settles_of_shorter {steps : Nat}
    (shorter : ∀ {u : Term} {rest : Nat} {result : Except UnknownForm Term}, rest < steps →
      u.EndsIn rest result → Settles (u.normalize ·) result)
    {t : Term} {taken : Nat} {result : Except UnknownForm Term} (le : taken ≤ steps)
    (run : t.EndsIn taken result) : Settles (t.normalize ·) result := by
  induction t generalizing taken result with
  | app fn arg fnIH argIH =>
    apply Settles.of_succ
    simp only [normalize]
    apply settles_hole (.function arg) run (fun le' => fnIH (Nat.le_trans le' le))
    intro fn' outer outerLe fnNormal run
    cases value : fn'.isValue with
    | false =>
      obtain ⟨_, rfl⟩ := run.of_normal (normal_plug (.function arg) fnNormal value (contract?_plug value))
      exact ⟨0, fun _ _ => rfl⟩
    | true =>
      simp only [if_true]
      apply settles_hole (.argument fn' value) run (fun le' => argIH (by omega))
      intro arg' inner innerLe argNormal run
      apply settles_contraction (.argument fn' value) argNormal trivial run (fun _ _ => rfl)
      intro next rest less redex tail
      exact shorter (by omega) tail
  | ite guard thn els guardIH _ _ =>
    apply Settles.of_succ
    simp only [normalize]
    apply settles_hole (.guard thn els) run (fun le' => guardIH (Nat.le_trans le' le))
    intro guard' outer outerLe normal run
    apply settles_contraction (.guard thn els) normal trivial run (fun _ _ => rfl)
    intro next rest less redex tail
    exact shorter (by omega) tail
  | succ arg ih =>
    apply Settles.of_succ
    simp only [normalize]
    apply settles_hole .succ run (fun le' => ih (Nat.le_trans le' le))
    intro arg' outer outerLe normal run
    obtain ⟨_, rfl⟩ := run.of_normal (normal_plug .succ normal trivial rfl)
    exact ⟨0, fun _ _ => rfl⟩
  | pred arg ih =>
    apply Settles.of_succ
    simp only [normalize]
    apply settles_hole .pred run (fun le' => ih (Nat.le_trans le' le))
    intro arg' outer outerLe normal run
    apply settles_contraction .pred normal trivial run (fun _ _ => rfl)
    intro next rest less redex tail
    exact settles_value (isValue_of_contract?_pred redex) tail
  | isZero arg ih =>
    apply Settles.of_succ
    simp only [normalize]
    apply settles_hole .isZero run (fun le' => ih (Nat.le_trans le' le))
    intro arg' outer outerLe normal run
    apply settles_contraction .isZero normal trivial run (fun _ _ => rfl)
    intro next rest less redex tail
    exact settles_value (isValue_of_contract?_isZero redex) tail
  | _ =>
    obtain ⟨_, rfl⟩ := run.of_normal ⟨_, step_inert rfl⟩
    exact .of_succ ⟨0, fun _ _ => rfl⟩

theorem settles_of_endsIn {t : Term} {steps : Nat} {result : Except UnknownForm Term}
    (run : t.EndsIn steps result) : Settles (t.normalize ·) result := by
  induction steps using Nat.strongRecOn generalizing t result with
  | ind steps ih => exact settles_of_shorter (fun less => ih _ less) (Nat.le_refl steps) run

theorem exists_normalize_iff (t : Term) (result : Except UnknownForm Term) :
    (∃ fuel, t.normalize fuel = result.mapError .unknownForm) ↔ t.Ends result := by
  constructor
  · rintro ⟨fuel, done⟩
    exact ends_of_normalize done
  · rintro ⟨steps, run⟩
    obtain ⟨enough, settled⟩ := settles_of_endsIn run
    exact ⟨enough, settled enough (Nat.le_refl enough)⟩

theorem normalize_diverges_iff (t : Term) :
    (∀ fuel, t.normalize fuel = .error .outOfFuel) ↔ ∀ result, ¬t.Ends result := by
  constructor
  · intro diverges result run
    obtain ⟨fuel, done⟩ := (exists_normalize_iff t result).mpr run
    rw [diverges fuel] at done
    cases result <;> cases done
  · intro endless fuel
    rcases normalize_cases fuel t with dry | ⟨result, done⟩
    · exact dry
    · exact absurd (ends_of_normalize done) (endless result)

/-! Evaluation under a strategy -/

def Evaluates (t : Term) (limit : Option Int) (strategy : Strategy) (outcome : Except EvalError Term) :
    Prop :=
  ∃ fuel, ((Machine.mk limit fuel).evaluate strategy t).outcome = outcome

def Exceeds (t : Term) (limit : Option Int) : Prop :=
  ∃ l u, t.Evaluates limit .singleStep (.error (.limitExceeded l u))

theorem evaluates_fullReduction {t : Term} {limit : Option Int} {result : Except UnknownForm Term} :
    t.Evaluates limit .fullReduction (result.mapError .unknownForm) ↔ t.Ends result :=
  exists_normalize_iff t result

theorem Ends.evaluates_singleStep {t : Term} {result : Except UnknownForm Term} (run : t.Ends result)
    (limit : Option Int) :
    t.Evaluates limit .singleStep (result.mapError .unknownForm) ∨ t.Exceeds limit := by
  cases limit with
  | none => exact .inl ((exists_run_iff t result).mpr run)
  | some l =>
    rcases runFrom_cases (some l) (l.toNat + 1) 0 t with dry | ⟨shown, same⟩ | ⟨l', _, u, exceeded⟩
    · exact absurd dry (runFrom_limited t (by omega) (by omega))
    · rw [run.deterministic (ends_of_runFrom same)]
      exact .inl ⟨0, same⟩
    · exact .inr ⟨l', u, 0, exceeded⟩

theorem Evaluates.ends {t : Term} {limit : Option Int} {strategy : Strategy}
    {result : Except UnknownForm Term}
    (evaluated : t.Evaluates limit strategy (result.mapError .unknownForm)) : t.Ends result := by
  obtain ⟨fuel, reached⟩ := evaluated
  cases strategy with
  | fullReduction => exact ends_of_normalize reached
  | singleStep =>
    obtain ⟨bound, same⟩ := run_eq_runFrom fuel limit t
    have shown : (t.run fuel limit).outcome = result.mapError .unknownForm := reached
    rw [same] at shown
    exact ends_of_runFrom shown

theorem Ends.evaluate_unlimited {t : Term} {result : Except UnknownForm Term} (run : t.Ends result)
    (strategy : Strategy) :
    ∃ enough, ∀ fuel, enough ≤ fuel →
      ((Machine.mk none fuel).evaluate strategy t).outcome = result.mapError .unknownForm := by
  obtain ⟨steps, run⟩ := run
  cases strategy with
  | fullReduction => exact settles_of_endsIn run
  | singleStep => exact ⟨steps + 1, fun fuel enough => run.runFrom none 0 fuel (by simp) (by omega)⟩

theorem Evaluates.singleStep_cases {t : Term} {limit : Option Int} {outcome : Except EvalError Term}
    (evaluated : t.Evaluates limit .singleStep outcome) :
    outcome = .error .outOfFuel ∨
      (∃ result : Except UnknownForm Term, outcome = result.mapError .unknownForm ∧ t.Ends result) ∨
      t.Exceeds limit := by
  obtain ⟨fuel, reached⟩ := evaluated
  obtain ⟨bound, same⟩ := run_eq_runFrom fuel limit t
  have shown : (t.run fuel limit).outcome = outcome := reached
  rw [same] at shown
  rcases runFrom_cases limit bound 0 t with dry | ⟨result, ended⟩ | ⟨l, _, u, exceeded⟩
  · exact .inl (shown.symm.trans dry)
  · exact .inr (.inl ⟨result, shown.symm.trans ended, ends_of_runFrom ended⟩)
  · refine .inr (.inr ⟨l, u, fuel, ?_⟩)
    change (t.run fuel limit).outcome = _
    rw [same, exceeded]

theorem Evaluates.fullReduction_cases {t : Term} {limit : Option Int} {outcome : Except EvalError Term}
    (evaluated : t.Evaluates limit .fullReduction outcome) :
    outcome = .error .outOfFuel ∨
      ∃ result : Except UnknownForm Term, outcome = result.mapError .unknownForm ∧ t.Ends result := by
  obtain ⟨fuel, reached⟩ := evaluated
  have shown : t.normalize fuel = outcome := reached
  rcases normalize_cases fuel t with dry | ⟨result, done⟩
  · exact .inl (shown.symm.trans dry)
  · exact .inr ⟨result, shown.symm.trans done, ends_of_normalize done⟩

/-- Full reduction and single steps are one evaluator: they return the same final term, fail with the same
unknown form, and diverge together. A step limit is the only thing that can come between them. A final term
takes no step and reduces to itself. -/
theorem normalize_agrees_with_run (t : Term) :
    (∀ v, (∃ fuel, t.normalize fuel = .ok v) ↔
      ∃ fuel, (t.run fuel none).failure = none ∧ (t.run fuel none).last = v) ∧
    (∀ form, (∃ fuel, t.normalize fuel = .error (.unknownForm form)) ↔
      ∃ fuel, (t.run fuel none).failure = some (.unknownForm form)) ∧
    ((∀ fuel, t.normalize fuel = .error .outOfFuel) ↔
      ∀ fuel, (t.run fuel none).failure = some .outOfFuel) ∧
    (∀ limit, t.Exceeds limit ∨ ∀ outcome, outcome ≠ .error .outOfFuel →
      (t.Evaluates limit .singleStep outcome ↔ t.Evaluates limit .fullReduction outcome)) ∧
    (∀ fuel v, t.normalize fuel = .ok v → v.Normal ∧ ∃ more, v.normalize more = .ok v) := by
  refine ⟨fun v => ?_, fun form => ?_, ?_, fun limit => ?_, fun fuel v done => ?_⟩
  · simp only [← Trace.outcome_eq_ok_iff]
    exact (exists_normalize_iff t (.ok v)).trans (exists_run_iff t (.ok v)).symm
  · simp only [← Trace.outcome_eq_error_iff]
    exact (exists_normalize_iff t (.error form)).trans (exists_run_iff t (.error form)).symm
  · exact (normalize_diverges_iff t).trans (run_diverges_iff t).symm
  · by_cases exceeded : t.Exceeds limit
    · exact .inl exceeded
    refine .inr fun outcome finished => ⟨fun stepped => ?_, fun reduced => ?_⟩
    · rcases stepped.singleStep_cases with dry | ⟨result, rfl, run⟩ | past
      · exact absurd dry finished
      · exact evaluates_fullReduction.mpr run
      · exact absurd past exceeded
    · rcases reduced.fullReduction_cases with dry | ⟨result, rfl, run⟩
      · exact absurd dry finished
      · exact (run.evaluates_singleStep limit).resolve_right exceeded
  · have run : t.Ends (.ok v) := ends_of_normalize done
    exact ⟨run.final_normal, (exists_normalize_iff v (.ok v)).mpr ⟨0, .normal run.final_normal⟩⟩

end Term

end Calculi
