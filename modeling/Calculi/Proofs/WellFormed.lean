import Calculi.Proofs.FreshNames
import Calculi.Proofs.HasType
import Calculi.Proofs.Invariant
import Calculi.Proofs.Printing

/-!
Well-formed terms: every variable names a binder, and its scope counts all binders above it, those of the context
included. A contraction moves its argument three times and drops one binder, and the scopes come out right again, so
evaluation keeps terms well-formed. Printing shows a bad index for exactly the terms that are not.
-/
namespace Calculi

/-- The occurrence names one of the binders in scope, of which there are `depth`. -/
def Var.FitsIn (depth : Int) (v : Var) : Prop :=
  0 ≤ v.index ∧ v.index < v.scope ∧ v.scope = depth

namespace Term

def WellFormed (depth : Int) (t : Term) : Prop :=
  ∀ occurrence ∈ t.occurrences depth, occurrence.1.FitsIn occurrence.2

instance (depth : Int) (v : Var) : Decidable (v.FitsIn depth) :=
  inferInstanceAs (Decidable (_ ∧ _ ∧ _))

instance (depth : Int) (t : Term) : Decidable (t.WellFormed depth) :=
  inferInstanceAs (Decidable (∀ occurrence ∈ t.occurrences depth, occurrence.1.FitsIn occurrence.2))

section

variable {depth : Int} {guard thn els fn arg : Term}

@[simp] theorem wellFormed_var {v : Var} : (Term.var v).WellFormed depth ↔ v.FitsIn depth := by
  simp [WellFormed, occurrences]

@[simp] theorem wellFormed_abs {hint : String} {ann : Option Ty} {body : Term} :
    (Term.abs hint ann body).WellFormed depth ↔ body.WellFormed (depth + 1) := Iff.rfl

@[simp] theorem wellFormed_app :
    (Term.app fn arg).WellFormed depth ↔ fn.WellFormed depth ∧ arg.WellFormed depth := by
  simp only [WellFormed, occurrences, List.forall_mem_append]

@[simp] theorem wellFormed_ite :
    (Term.ite guard thn els).WellFormed depth ↔
      (guard.WellFormed depth ∧ thn.WellFormed depth) ∧ els.WellFormed depth := by
  simp only [WellFormed, occurrences, List.forall_mem_append]

@[simp] theorem wellFormed_succ : (Term.succ arg).WellFormed depth ↔ arg.WellFormed depth := Iff.rfl

@[simp] theorem wellFormed_pred : (Term.pred arg).WellFormed depth ↔ arg.WellFormed depth := Iff.rfl

@[simp] theorem wellFormed_isZero : (Term.isZero arg).WellFormed depth ↔ arg.WellFormed depth := Iff.rfl

theorem wellFormed_of_occurrences_nil {t : Term} (none : t.occurrences depth = []) : t.WellFormed depth := by
  simp [WellFormed, none]

end

namespace WellFormed

variable {t arg : Term}

theorem mapVars {depth depth' cutoff : Int} {visit : Var → Int → Term} (fits : t.WellFormed depth)
    (answers : ∀ (v : Var) (n : Nat), v.FitsIn (depth + n) → (visit v (cutoff + n)).WellFormed (depth' + n)) :
    (t.mapVars visit cutoff).WellFormed depth' := by
  induction t generalizing depth depth' cutoff with
  | var v =>
    have here : v.FitsIn (depth + (0 : Nat)) := by simpa using wellFormed_var.mp fits
    simpa [Term.mapVars] using answers v 0 here
  | abs hint ann body ih =>
    rw [Term.mapVars, wellFormed_abs]
    apply ih (wellFormed_abs.mp fits)
    intro v n fitsHere
    simp only [cutoff_under_binder] at fitsHere ⊢
    exact answers v (n + 1) fitsHere
  | app fn arg fnIH argIH =>
    obtain ⟨fnFits, argFits⟩ := wellFormed_app.mp fits
    exact wellFormed_app.mpr ⟨fnIH fnFits answers, argIH argFits answers⟩
  | ite guard thn els guardIH thnIH elsIH =>
    obtain ⟨⟨guardFits, thnFits⟩, elsFits⟩ := wellFormed_ite.mp fits
    exact wellFormed_ite.mpr ⟨⟨guardIH guardFits answers, thnIH thnFits answers⟩, elsIH elsFits answers⟩
  | succ arg ih | pred arg ih | isZero arg ih => exact ih fits answers
  | _ => exact wellFormed_of_occurrences_nil rfl

theorem shiftFrom {depth d : Int} (fits : t.WellFormed depth) (up : 0 ≤ d) (cutoff : Int) :
    (t.shiftFrom d cutoff).WellFormed (depth + d) := by
  apply fits.mapVars
  rintro ⟨index, scope⟩ n ⟨nonneg, below, inScope⟩
  simp only at nonneg below inScope
  simp only [wellFormed_var, Var.shift]
  split <;> refine ⟨?_, ?_, ?_⟩ <;> simp only <;> omega

theorem fill {depth : Nat} (bodyFits : t.WellFormed (depth + 1)) (argFits : arg.WellFormed depth) :
    (t.fill [arg] 0).WellFormed depth := by
  apply bodyFits.mapVars
  rintro ⟨index, scope⟩ n ⟨nonneg, below, inScope⟩
  simp only [Int.zero_add] at nonneg below inScope ⊢
  rcases Int.lt_trichotomy index n with bound | here | free
  · rw [fillVar_bound bound, wellFormed_var]
    refine ⟨nonneg, ?_, ?_⟩ <;> simp only [List.length_singleton] <;> omega
  · rw [fillVar_arg 0 (by simp only; omega) rfl]
    exact argFits.shiftFrom (Int.natCast_nonneg n) 0
  · rw [fillVar_free (by simp only [List.length_singleton]; omega), wellFormed_var]
    refine ⟨?_, ?_, ?_⟩ <;> simp only [List.length_singleton] <;> omega

theorem contract {depth : Nat} {contractum : Except UnknownForm Term}
    (fits : t.WellFormed depth) (known : t.isKnown = true) (contracts : Contracts t contractum) :
    ∃ next, contractum = .ok next ∧ next.isKnown = true ∧ next.WellFormed depth := by
  cases contracts with
  | @beta hint ann body arg value =>
    simp only [isKnown, Bool.and_eq_true] at known
    obtain ⟨bodyKnown, argKnown⟩ := known
    obtain ⟨bodyFits, argFits⟩ := wellFormed_app.mp fits
    have argsKnown : ∀ other ∈ [arg], other.isKnown = true := by simpa using argKnown
    exact ⟨_, instantiate_eq_fill bodyKnown argKnown, isKnown_fill argsKnown bodyKnown 0,
      WellFormed.fill bodyFits argFits⟩
  | iteTru =>
    simp only [isKnown, Bool.and_eq_true] at known
    exact ⟨_, rfl, known.1.2, (wellFormed_ite.mp fits).1.2⟩
  | iteFls =>
    simp only [isKnown, Bool.and_eq_true] at known
    exact ⟨_, rfl, known.2, (wellFormed_ite.mp fits).2⟩
  | predZero => exact ⟨_, rfl, rfl, fits⟩
  | predSucc numeric => exact ⟨_, rfl, known, fits⟩
  | isZeroZero => exact ⟨_, rfl, rfl, wellFormed_of_occurrences_nil rfl⟩
  | isZeroSucc numeric => exact ⟨_, rfl, rfl, wellFormed_of_occurrences_nil rfl⟩

end WellFormed

/-- Depths are handed on unchanged: no frame binds a variable. -/
theorem wellFormed_invariant : Invariant fun (depth : Nat) t => t.isKnown = true ∧ t.WellFormed depth where
  hole {depth frame t} := by
    rintro ⟨known, fits⟩
    refine ⟨depth, ?_, ?_⟩
    · cases frame <;> simp_all [Frame.plug, isKnown]
    · rintro u ⟨uKnown, uFits⟩
      cases frame <;> simp_all [Frame.plug, isKnown]
  contract {depth t contractum} := by
    rintro ⟨known, fits⟩ contracts
    exact fits.contract known contracts

end Term

/-! Printing -/

namespace Context

theorem exists_nameAt_iff (ctx : Context) (index : Int) :
    (∃ name, ctx.nameAt index = .ok name) ↔ 0 ≤ index ∧ index < ctx.length := by
  constructor
  · rintro ⟨name, found⟩
    cases looked : ctx.entryAt index with
    | error error => simp [nameAt, looked, Except.map] at found
    | ok entry =>
      obtain ⟨n, rfl, present⟩ := entryAt_eq_ok_iff.mp looked
      obtain ⟨within, _⟩ := List.getElem?_eq_some_iff.mp present
      omega
  · rintro ⟨nonneg, below⟩
    have within : index.toNat < ctx.length := by omega
    have looked : ctx.entryAt index = .ok ctx[index.toNat] :=
      entryAt_eq_ok_iff.mpr ⟨index.toNat, by omega, List.getElem?_eq_getElem within⟩
    exact ⟨_, by rw [nameAt, looked]; rfl⟩

end Context

namespace Term

theorem varPiece_eq_badIndex_iff (ctx : Context) (v : Var) :
    varPiece ctx v = .badIndex ↔ ¬v.FitsIn ctx.length := by
  by_cases inScope : v.scope = ctx.length
  · have fits : v.FitsIn ctx.length ↔ ∃ name, ctx.nameAt v.index = .ok name := by
      rw [Context.exists_nameAt_iff]
      simp only [Var.FitsIn, inScope, and_true]
    rw [fits, varPiece, if_pos inScope]
    cases ctx.nameAt v.index <;> simp
  · simp [varPiece, Var.FitsIn, inScope]

/-- Printing comes to every variable, at the depth at which it stands, so the bad indices are the variables that do
not fit. -/
theorem exists_pieces {suffix : String} (usable : suffix ≠ "") {t : Term} (known : t.isKnown = true)
    (ctx : Context) :
    ∃ shown, t.pieces suffix ctx = .ok shown ∧ (.badIndex ∈ shown ↔ ¬t.WellFormed ctx.length) := by
  induction t generalizing ctx with
  | var v =>
    refine ⟨[varPiece ctx v], rfl, ?_⟩
    rw [wellFormed_var, List.mem_singleton, eq_comm, varPiece_eq_badIndex_iff]
  | abs hint ann body ih =>
    -- Whatever name is picked, the context grows by one entry, as the depth does.
    have picked := ctx.pickFresh_eq_ok hint usable
    generalize ctx.freshName hint suffix = name at picked
    obtain ⟨shown, done, bad⟩ := ih known (ctx.extend name .name)
    have deeper : ((ctx.extend name .name).length : Int) = ctx.length + 1 := by simp [Context.extend]
    refine ⟨_, by simp only [pieces, picked, done]; rfl, ?_⟩
    rw [wellFormed_abs, ← deeper, ← bad]
    simp
  | app fn arg fnIH argIH =>
    simp only [isKnown, Bool.and_eq_true] at known
    obtain ⟨fnShown, fnDone, fnBad⟩ := fnIH known.1 ctx
    obtain ⟨argShown, argDone, argBad⟩ := argIH known.2 ctx
    refine ⟨_, by simp only [pieces, fnDone, argDone]; rfl, ?_⟩
    rw [wellFormed_app, Classical.not_and_iff_not_or_not, ← fnBad, ← argBad]
    simp
  | ite guard thn els guardIH thnIH elsIH =>
    simp only [isKnown, Bool.and_eq_true] at known
    obtain ⟨guardShown, guardDone, guardBad⟩ := guardIH known.1.1 ctx
    obtain ⟨thnShown, thnDone, thnBad⟩ := thnIH known.1.2 ctx
    obtain ⟨elsShown, elsDone, elsBad⟩ := elsIH known.2 ctx
    refine ⟨_, by simp only [pieces, guardDone, thnDone, elsDone]; rfl, ?_⟩
    rw [wellFormed_ite, Classical.not_and_iff_not_or_not, Classical.not_and_iff_not_or_not, ← guardBad,
      ← thnBad, ← elsBad]
    simp [or_assoc]
  | succ arg ih | pred arg ih | isZero arg ih =>
    obtain ⟨shown, done, bad⟩ := ih known ctx
    refine ⟨_, by simp only [pieces, done]; rfl, ?_⟩
    simp [bad]
  | foreign text => cases known
  | _ => exact ⟨_, rfl, iff_of_false (by simp) (not_not_intro (wellFormed_of_occurrences_nil rfl))⟩

theorem exists_prints {suffix : String} (usable : suffix ≠ "") {t : Term} (known : t.isKnown = true)
    (ctx : Context) :
    ∃ shown, t.Prints suffix ctx shown ∧ (.badIndex ∈ shown ↔ ¬t.WellFormed ctx.length) := by
  obtain ⟨shown, done, bad⟩ := exists_pieces usable known ctx
  exact ⟨shown, prints_of_pieces done, bad⟩

/-- Evaluation keeps terms well-formed, whatever the limit: the terms that a run shows, the one that its limit
forbids and the result of full reduction. Printing marks a bad index in exactly the terms that are not well-formed,
so the printed trace of a well-formed term has none. -/
theorem evaluation_keeps_wellFormed (ctx : Context) :
    (∀ t : Term, t.isKnown = true → t.WellFormed ctx.length →
      (∀ machine : Machine,
        (∀ u ∈ (machine.run t).terms, u.WellFormed ctx.length) ∧
          ∀ l u, (machine.run t).failure = some (.limitExceeded l u) → u.WellFormed ctx.length) ∧
      (∀ fuel v, t.normalize fuel = .ok v → v.WellFormed ctx.length) ∧
      ∀ (machine : Machine) (suffix : String), suffix ≠ "" → ∀ u ∈ (machine.run t).terms,
        ∃ shown, u.Prints suffix ctx shown ∧ .badIndex ∉ shown) ∧
    ∀ (u : Term) (suffix : String), u.isKnown = true → suffix ≠ "" →
      ∃ shown, u.Prints suffix ctx shown ∧ (.badIndex ∈ shown ↔ ¬u.WellFormed ctx.length) := by
  refine ⟨fun t known fits => ?_, fun u suffix known usable => exists_prints usable known ctx⟩
  obtain ⟨runs, reductions⟩ := wellFormed_invariant.evaluation ⟨known, fits⟩
  refine ⟨fun machine => ⟨fun u shown => ?_, fun l u exceeded => ?_⟩, fun fuel v reduced => ?_,
    fun machine suffix usable u shown => ?_⟩
  · exact ((runs machine).1 u shown).2
  · exact ((runs machine).2 l u exceeded).2
  · exact (reductions fuel v reduced).2
  · obtain ⟨uKnown, uFits⟩ := (runs machine).1 u shown
    obtain ⟨pieces, printed, bad⟩ := exists_prints usable uKnown ctx
    exact ⟨pieces, printed, fun member => bad.mp member uFits⟩

def buriedArgument : Term :=
  .app (.abs "x" none (.abs "y" none (.var ⟨1, 3⟩))) (.abs "z" none (.var ⟨1, 2⟩))

/-- The copy of the argument fits where it lands. A variable with a scope of its own does not. -/
theorem evaluation_keeps_wellFormed_buriedArgument :
    buriedArgument.WellFormed 1 ∧
      buriedArgument.normalize 4 = .ok (.abs "y" none (.abs "z" none (.var ⟨2, 3⟩))) ∧
      (Term.abs "y" none (.abs "z" none (.var ⟨2, 3⟩))).WellFormed 1 ∧
      ∃ shown, (Term.var ⟨0, 2⟩).Prints "'" [("a", .name)] shown ∧ .badIndex ∈ shown := by
  have fits : buriedArgument.WellFormed 1 := by decide
  have reduced : buriedArgument.normalize 4 = .ok (.abs "y" none (.abs "z" none (.var ⟨2, 3⟩))) := rfl
  obtain ⟨kept, printing⟩ := evaluation_keeps_wellFormed [("a", .name)]
  obtain ⟨shown, printed, bad⟩ := printing (.var ⟨0, 2⟩) "'" rfl (by decide)
  have broken : ¬(Term.var ⟨0, 2⟩).WellFormed 1 := by decide
  exact ⟨fits, reduced, (kept buriedArgument rfl fits).2.1 4 _ reduced, shown, printed, bad.mpr broken⟩

end Term

end Calculi
