import Calculi.Proofs.SubstitutionLaws

/-!
Shifts one after the other. The second shift decides afresh which variables are free, by indices that the first has
changed. The two come to one shift by the sum unless the first takes a free variable below the binders above it, where
the second no longer moves it. Going up never does that, so going down again undoes it.
-/
namespace Calculi

/-- At one variable the shifts add up, unless the first has turned a free variable into a bound one and the second is a
shift at all. -/
theorem Var.shift_shift_eq_iff (v : Var) (first second cutoff : Int) :
    (v.shift first cutoff).shift second cutoff = v.shift (second + first) cutoff ↔
      second = 0 ∨ (cutoff ≤ v.index → cutoff ≤ v.index + first) := by
  by_cases free : cutoff ≤ v.index
  · by_cases stays : cutoff ≤ v.index + first
    · simp only [Var.shift, if_pos free, if_pos stays, Var.mk.injEq]
      omega
    · simp only [Var.shift, if_pos free, if_neg stays, Var.mk.injEq]
      omega
  · simp only [Var.shift, if_neg free, Var.mk.injEq, true_and]
    omega

namespace Term

/-- No free variable falls below the binders above it when the free variables move by `d`. -/
def StaysFree (d : Int) (t : Term) : Prop :=
  ∀ occurrence ∈ t.occurrences 0, occurrence.2 ≤ occurrence.1.index → occurrence.2 ≤ occurrence.1.index + d

instance (d : Int) (t : Term) : Decidable (t.StaysFree d) :=
  inferInstanceAs (Decidable (∀ occurrence ∈ t.occurrences 0, occurrence.2 ≤ occurrence.1.index →
    occurrence.2 ≤ occurrence.1.index + d))

theorem staysFree_of_nonneg {d : Int} (up : 0 ≤ d) (t : Term) : t.StaysFree d := by
  intro occurrence _ free
  omega

theorem shiftFrom_shiftFrom_eq_iff (t : Term) (first second : Int) :
    (t.shiftFrom first 0).shiftFrom second 0 = t.shiftFrom (second + first) 0 ↔ second = 0 ∨ t.StaysFree first := by
  have fused : (t.shiftFrom first 0).shiftFrom second 0 =
      t.mapVars (fun v c => .var ((v.shift first c).shift second c)) 0 :=
    mapVars_mapVars t fun _ _ => rfl
  rw [fused, shiftFrom, mapVars_eq_iff]
  simp only [Term.var.injEq, Var.shift_shift_eq_iff]
  constructor
  · intro each
    by_cases still : second = 0
    · exact .inl still
    · exact .inr fun occurrence member => (each occurrence member).resolve_left still
  · rintro (still | stays) occurrence member
    · exact .inl still
    · exact .inr (stays occurrence member)

/-- Shifting twice is shifting by the sum exactly if the second shift does nothing or the first leaves every free
variable free. A shift upwards always does, and the shift back down restores the term. -/
theorem shifts_compose {t : Term} (known : t.isKnown = true) :
    (∀ first second : Int, ∃ moved result,
      t.shift first = .ok moved ∧ t.shift (second + first) = .ok result ∧
        (moved.shift second = .ok result ↔ second = 0 ∨ t.StaysFree first)) ∧
    (∀ d : Int, 0 ≤ d → t.StaysFree d) ∧
    t.shift 0 = .ok t ∧
    ∀ d : Int, 0 ≤ d → ∃ moved, t.shift d = .ok moved ∧ moved.shift (-d) = .ok t := by
  have still : t.shift 0 = .ok t := by rw [shift_eq_shiftFrom known, shiftFrom_zero]
  have sums : ∀ first second : Int, ∃ moved result,
      t.shift first = .ok moved ∧ t.shift (second + first) = .ok result ∧
        (moved.shift second = .ok result ↔ second = 0 ∨ t.StaysFree first) := by
    intro first second
    refine ⟨_, _, shift_eq_shiftFrom known first, shift_eq_shiftFrom known (second + first), ?_⟩
    rw [shift_eq_shiftFrom (isKnown_shiftFrom known first 0), Except.ok.injEq, shiftFrom_shiftFrom_eq_iff]
  refine ⟨sums, fun d up => staysFree_of_nonneg up t, still, fun d up => ?_⟩
  obtain ⟨moved, result, there, whole, composes⟩ := sums d (-d)
  rw [Int.add_left_neg, still] at whole
  cases whole
  exact ⟨moved, there, composes.mpr (.inr (staysFree_of_nonneg up t))⟩

/-- Both variables of the body are free, and the nearer of them cannot come down: the binder inside would hold it. -/
theorem shifts_compose_mentionsBoth :
    mentionsBoth.isKnown = true ∧ mentionsBoth.StaysFree 0 ∧ ¬mentionsBoth.StaysFree (-1) ∧
      (∃ moved, mentionsBoth.shift 2 = .ok moved ∧
        moved.shift (-1) = .ok (.abs "y" none (.app (.var ⟨2, 4⟩) (.var ⟨3, 4⟩)))) ∧
      ∃ moved, mentionsBoth.shift (-1) = .ok moved ∧ moved.shift 1 ≠ .ok mentionsBoth := by
  have known : mentionsBoth.isKnown = true := rfl
  have falls : ¬mentionsBoth.StaysFree (-1) := by decide
  obtain ⟨sums, up, still, _⟩ := shifts_compose known
  refine ⟨known, up 0 (by decide), falls, ?_, ?_⟩
  · obtain ⟨moved, result, there, whole, composes⟩ := sums 2 (-1)
    cases whole
    exact ⟨moved, there, composes.mpr (.inr (up 2 (by decide)))⟩
  · obtain ⟨moved, result, there, whole, composes⟩ := sums (-1) 1
    cases still.symm.trans whole
    exact ⟨moved, there, fun back => (composes.mp back).elim (by decide) falls⟩

end Term

end Calculi
