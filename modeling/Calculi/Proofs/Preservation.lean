import Calculi.Proofs.HasType
import Calculi.Proofs.Invariant

/-!
Types are kept by evaluation, in every context. A contraction keeps the type of the redex, a frame asks of its hole
a type and nothing more, and so every step keeps the type of the whole term and none fails.
-/
namespace Calculi

namespace HasType

theorem contract {ctx : Context} {t : Term} {ty : Ty} {contractum : Except UnknownForm Term}
    (typed : HasType ctx t ty) (redex : t.contract? = some contractum) :
    ∃ next, contractum = .ok next ∧ HasType ctx next ty := by
  cases Term.contracts_of_contract? redex with
  | beta value =>
    cases typed with
    | app fnTyped argTyped =>
      cases fnTyped with
      | abs bodyTyped =>
        have replaced := Term.instantiate_eq_fill bodyTyped.isKnown argTyped.isKnown
        exact ⟨_, replaced, bodyTyped.instantiate argTyped⟩
  | iteTru =>
    cases typed with
    | ite guardTyped thnTyped elsTyped => exact ⟨_, rfl, thnTyped⟩
  | iteFls =>
    cases typed with
    | ite guardTyped thnTyped elsTyped => exact ⟨_, rfl, elsTyped⟩
  | predZero =>
    cases typed with
    | pred argTyped => exact ⟨_, rfl, argTyped⟩
  | predSucc numeric =>
    cases typed with
    | pred argTyped =>
      cases argTyped with
      | succ innerTyped => exact ⟨_, rfl, innerTyped⟩
  | isZeroZero =>
    cases typed with
    | isZero argTyped => exact ⟨_, rfl, .tru⟩
  | isZeroSucc numeric =>
    cases typed with
    | isZero argTyped => exact ⟨_, rfl, .fls⟩

theorem hole {ctx : Context} {frame : Frame} {t : Term} {ty : Ty} (typed : HasType ctx (frame.plug t) ty) :
    ∃ inner, HasType ctx t inner ∧ ∀ u, HasType ctx u inner → HasType ctx (frame.plug u) ty := by
  cases frame with
  | function arg =>
    cases typed with
    | app fnTyped argTyped => exact ⟨_, fnTyped, fun u uTyped => .app uTyped argTyped⟩
  | argument fn value =>
    cases typed with
    | app fnTyped argTyped => exact ⟨_, argTyped, fun u uTyped => .app fnTyped uTyped⟩
  | guard thn els =>
    cases typed with
    | ite guardTyped thnTyped elsTyped => exact ⟨_, guardTyped, fun u uTyped => .ite uTyped thnTyped elsTyped⟩
  | succ =>
    cases typed with
    | succ argTyped => exact ⟨_, argTyped, fun u uTyped => .succ uTyped⟩
  | pred =>
    cases typed with
    | pred argTyped => exact ⟨_, argTyped, fun u uTyped => .pred uTyped⟩
  | isZero =>
    cases typed with
    | isZero argTyped => exact ⟨_, argTyped, fun u uTyped => .isZero uTyped⟩

theorem invariant (ctx : Context) : Term.Invariant fun ty t => HasType ctx t ty where
  hole typed := typed.hole
  contract typed contracts := typed.contract contracts.contract?

theorem step_ok {ctx : Context} {t next : Term} {ty : Ty} (typed : HasType ctx t ty)
    (stepped : t.step = .ok next) : HasType ctx next ty :=
  (invariant ctx).step_ok typed stepped

theorem step_error {ctx : Context} {t : Term} {ty : Ty} {stop : Stop} (typed : HasType ctx t ty)
    (stopped : t.step = .error stop) : ∃ inner, stop = .noRule inner :=
  (invariant ctx).step_error typed stopped

theorem ends {ctx : Context} {t : Term} {ty : Ty} {result : Except UnknownForm Term}
    (typed : HasType ctx t ty) (run : t.Ends result) : ∃ v, result = .ok v ∧ HasType ctx v ty :=
  (invariant ctx).ends typed run

theorem not_ends_error {ctx : Context} {t : Term} {ty : Ty} {form : UnknownForm}
    (typed : HasType ctx t ty) : ¬t.Ends (.error form) := by
  intro run
  obtain ⟨v, impossible, _⟩ := typed.ends run
  cases impossible

end HasType

/-- Every term of a run has the type of the first, whatever the limit and whatever the context, and so does the
term that a limit forbids and the result of full reduction. Nothing ever fails on the way. -/
theorem infer_preserved {ctx : Context} {t : Term} {ty : Ty} (inferred : t.infer ctx = .ok ty) :
    (∀ machine : Machine,
      (∀ u ∈ (machine.run t).terms, u.infer ctx = .ok ty ∧
        ∀ stop, u.step = .error stop → ∃ inner, stop = .noRule inner) ∧
      (∀ l u, (machine.run t).failure = some (.limitExceeded l u) → u.infer ctx = .ok ty) ∧
      ∀ form, (machine.run t).failure ≠ some (.unknownForm form)) ∧
    ∀ fuel,
      (∀ v, t.normalize fuel = .ok v → v.infer ctx = .ok ty) ∧
      ∀ form, t.normalize fuel ≠ .error (.unknownForm form) := by
  have typed := infer_eq_ok_iff.mp inferred
  refine ⟨fun machine => ?_, fun fuel => ⟨fun v reduced => ?_, fun form failed => ?_⟩⟩
  · obtain ⟨bound, same⟩ := Term.run_eq_runFrom machine.fuel machine.stepLimit t
    have unfolded : machine.run t = t.runFrom machine.stepLimit bound 0 := same
    rw [unfolded]
    obtain ⟨shown, forbidden⟩ :=
      Term.runFrom_invariant (HasType ctx · ty) HasType.step_ok typed machine.stepLimit bound 0
    refine ⟨fun u member => ?_, fun l u exceeded => ?_, fun form failed => ?_⟩
    · exact ⟨(shown u member).infer, fun stop => (shown u member).step_error⟩
    · exact (forbidden l u exceeded).infer
    · have failed := (Trace.outcome_eq_error_iff _ _).mpr failed
      exact typed.not_ends_error (Term.ends_of_runFrom failed)
  · have run : t.Ends (.ok v) := Term.ends_of_normalize reduced
    obtain ⟨_, same, finalTyped⟩ := typed.ends run
    cases same
    exact finalTyped.infer
  · exact typed.not_ends_error (Term.ends_of_normalize failed)

/-- One entry of the context has a type and one has none. -/
theorem infer_preserved_negatedTwice :
    Term.negatedTwice.infer [("y", .typed .bool), ("n", .name)] = .ok .bool ∧
      (∀ u ∈ ((Machine.mk (some 3) 0).run Term.negatedTwice).terms,
        u.infer [("y", .typed .bool), ("n", .name)] = .ok .bool) ∧
      ∀ fuel v, Term.negatedTwice.normalize fuel = .ok v →
        v.infer [("y", .typed .bool), ("n", .name)] = .ok .bool := by
  have inferred := Term.infer_negatedTwice [("n", .name)]
  obtain ⟨runs, reductions⟩ := infer_preserved inferred
  exact ⟨inferred, fun u shown => ((runs _).1 u shown).1, fun fuel => (reductions fuel).1⟩

end Calculi
