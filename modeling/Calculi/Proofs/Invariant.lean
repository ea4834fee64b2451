import Calculi.Proofs.StrategyAgreement
import Calculi.Proofs.Walk

/-!
What evaluation keeps. A property that passes between a frame and its hole and that no contraction breaks is kept by
every step, so it holds of every term that evaluation of either kind comes to.
-/
namespace Calculi.Term

variable {ι : Type}

/-- A family of properties that frames hand on to their holes and contractions keep. A frame may ask another member
of the family of its hole. Contractions of terms with the property do not fail. -/
structure Invariant (holds : ι → Term → Prop) : Prop where
  hole : ∀ {i : ι} {frame : Frame} {t : Term}, holds i (frame.plug t) →
    ∃ j, holds j t ∧ ∀ u, holds j u → holds i (frame.plug u)
  contract : ∀ {i : ι} {t : Term} {contractum : Except UnknownForm Term}, holds i t → Contracts t contractum →
    ∃ next, contractum = .ok next ∧ holds i next

namespace Invariant

variable {holds : ι → Term → Prop} {i : ι} {t : Term}

theorem step (kept : Invariant holds) (start : holds i t) :
    (∃ next, t.step = .ok next ∧ holds i next) ∨ t.Normal := by
  induction t using step_induction generalizing i with
  | inert t inert => exact .inr ⟨t, step_inert inert⟩
  | redex t contractum redex =>
    obtain ⟨next, rfl, nextHolds⟩ := kept.contract start (contracts_of_contract? redex)
    exact .inl ⟨next, step_redex redex, nextHolds⟩
  | inside frame t reaches noRedex ih =>
    obtain ⟨j, holeHolds, plug⟩ := kept.hole start
    rcases ih holeHolds with ⟨next, stepped, nextHolds⟩ | normal
    · exact .inl ⟨frame.plug next, step_plug_ok frame stepped, plug next nextHolds⟩
    · exact .inr (normal_plug frame normal reaches noRedex)

theorem step_ok (kept : Invariant holds) {next : Term} (start : holds i t) (stepped : t.step = .ok next) :
    holds i next := by
  rcases kept.step start with ⟨other, same, nextHolds⟩ | normal
  · rw [stepped] at same
    cases same
    exact nextHolds
  · exact absurd stepped normal.step_ne_ok

theorem step_error (kept : Invariant holds) {stop : Stop} (start : holds i t) (stopped : t.step = .error stop) :
    ∃ inner, stop = .noRule inner := by
  rcases kept.step start with ⟨next, stepped, _⟩ | ⟨inner, blocked⟩
  · rw [stopped] at stepped
    cases stepped
  · rw [stopped] at blocked
    cases blocked
    exact ⟨inner, rfl⟩

theorem ends (kept : Invariant holds) {result : Except UnknownForm Term} (start : holds i t)
    (run : t.Ends result) : ∃ v, result = .ok v ∧ holds i v := by
  obtain ⟨steps, run⟩ := run
  induction run with
  | normal normal => exact ⟨_, rfl, start⟩
  | failed stop =>
    obtain ⟨inner, impossible⟩ := kept.step_error start stop
    cases impossible
  | step first rest ih => exact ih (kept.step_ok start first)

theorem evaluation (kept : Invariant holds) (start : holds i t) :
    (∀ machine : Machine,
      (∀ u ∈ (machine.run t).terms, holds i u) ∧
        ∀ l u, (machine.run t).failure = some (.limitExceeded l u) → holds i u) ∧
    ∀ fuel v, t.normalize fuel = .ok v → holds i v := by
  refine ⟨fun machine => ?_, fun fuel v reduced => ?_⟩
  · obtain ⟨bound, same⟩ := run_eq_runFrom machine.fuel machine.stepLimit t
    have unfolded : machine.run t = t.runFrom machine.stepLimit bound 0 := same
    rw [unfolded]
    exact runFrom_invariant (holds i) kept.step_ok start machine.stepLimit bound 0
  · have run : t.Ends (.ok v) := ends_of_normalize reduced
    obtain ⟨_, same, finalHolds⟩ := kept.ends start run
    cases same
    exact finalHolds

end Invariant

/-! Known forms -/

theorem isKnown_of_plug {frame : Frame} {t : Term} (known : (frame.plug t).isKnown = true) : t.isKnown = true := by
  cases frame <;> simp_all [Frame.plug, isKnown]

theorem isKnown_contract {t : Term} {contractum : Except UnknownForm Term} (known : t.isKnown = true)
    (contracts : Contracts t contractum) : ∃ next, contractum = .ok next ∧ next.isKnown = true := by
  cases contracts with
  | @beta hint ann body arg value =>
    simp only [isKnown, Bool.and_eq_true] at known
    obtain ⟨bodyKnown, argKnown⟩ := known
    have argsKnown : ∀ other ∈ [arg], other.isKnown = true := by simpa using argKnown
    exact ⟨_, instantiate_eq_fill bodyKnown argKnown, isKnown_fill argsKnown bodyKnown 0⟩
  | iteTru =>
    simp only [isKnown, Bool.and_eq_true] at known
    exact ⟨_, rfl, known.1.2⟩
  | iteFls =>
    simp only [isKnown, Bool.and_eq_true] at known
    exact ⟨_, rfl, known.2⟩
  | predSucc numeric => exact ⟨_, rfl, known⟩
  | predZero => exact ⟨_, rfl, rfl⟩
  | isZeroZero => exact ⟨_, rfl, rfl⟩
  | isZeroSucc numeric => exact ⟨_, rfl, rfl⟩

theorem isKnown_invariant : Invariant fun (_ : Unit) t => t.isKnown = true where
  hole {_ frame t} known := by
    refine ⟨(), isKnown_of_plug known, fun u uKnown => ?_⟩
    cases frame <;> simp_all [Frame.plug, isKnown]
  contract known contracts := isKnown_contract known contracts

end Calculi.Term
