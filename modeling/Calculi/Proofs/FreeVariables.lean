import Calculi.Proofs.Invariant
import Calculi.Proofs.SubstitutionLaws
import Mathlib.Data.Finset.Image

/-!
Free variables, counted exactly. Shifting moves all of them, a substitution exchanges one for those of the term put in, and
an abstraction that gets its argument does both. So evaluation captures no variable and brings none in: whatever a term
comes to has its free variables among those of the term, and closed terms stay closed. Indices and scopes may be any
integers.
-/
namespace Calculi

namespace Term

/-- The places outside the term that its variables name, counted from the innermost. An occurrence names one if its index
is not below the number of binders above it in the term. -/
def freeVars (t : Term) : Finset Int :=
  (((t.occurrences 0).filter fun occurrence => occurrence.2 ≤ occurrence.1.index).map
    fun occurrence => occurrence.1.index - occurrence.2).toFinset

section

variable {t s : Term} {j k d : Int}

theorem mem_freeVars :
    k ∈ t.freeVars ↔ 0 ≤ k ∧ ∃ v c, (v, c) ∈ t.occurrences 0 ∧ 0 ≤ c ∧ v.index = k + c := by
  simp only [freeVars, List.mem_toFinset, List.mem_map, List.mem_filter, decide_eq_true_eq]
  constructor
  · rintro ⟨⟨v, c⟩, ⟨member, free⟩, rfl⟩
    have above : 0 ≤ c := le_of_mem_occurrences member
    exact ⟨by omega, v, c, member, above, by simp only; omega⟩
  · rintro ⟨outside, v, c, member, above, named⟩
    exact ⟨(v, c), ⟨member, by simp only; omega⟩, by simp only; omega⟩

theorem mem_freeVars_under {c : Int} (above : 0 ≤ c) (outside : 0 ≤ k) :
    k + c ∈ t.freeVars ↔ ∃ occurrence ∈ t.occurrences c, occurrence.1.index = k + occurrence.2 := by
  have spread := occurrences_mapVars (fun v _ => .var v) t 0 0 c
  rw [mapVars_var t fun _ _ => rfl, Int.zero_add] at spread
  rw [mem_freeVars, spread]
  constructor
  · rintro ⟨_, v, n, member, _, named⟩
    exact ⟨(v, n + c), List.mem_flatMap.mpr ⟨(v, n), member, List.mem_singleton.mpr rfl⟩, by simp only; omega⟩
  · rintro ⟨occurrence, member, named⟩
    obtain ⟨⟨v, n⟩, inside, same⟩ := List.mem_flatMap.mp member
    obtain rfl := List.mem_singleton.mp same
    exact ⟨by omega, v, n, inside, le_of_mem_occurrences inside, by simp only at named; omega⟩

/-! Free variables of the forms -/

theorem mem_freeVars_var {v : Var} : k ∈ (Term.var v).freeVars ↔ 0 ≤ k ∧ v.index = k := by
  simp [mem_freeVars, occurrences]

theorem mem_freeVars_abs {hint : String} {ann : Option Ty} {body : Term} :
    k ∈ (Term.abs hint ann body).freeVars ↔ 0 ≤ k ∧ k + 1 ∈ body.freeVars := by
  constructor
  · intro free
    obtain ⟨outside, v, c, within, _, named⟩ := mem_freeVars.mp free
    exact ⟨outside, (mem_freeVars_under (by decide) outside).mpr ⟨(v, c), within, named⟩⟩
  · rintro ⟨outside, free⟩
    obtain ⟨⟨v, c⟩, within, named⟩ := (mem_freeVars_under (by decide) outside).mp free
    have deeper : 1 ≤ c := le_of_mem_occurrences within
    exact mem_freeVars.mpr ⟨outside, v, c, within, by omega, named⟩

theorem freeVars_app (fn arg : Term) : (Term.app fn arg).freeVars = fn.freeVars ∪ arg.freeVars := by
  simp only [freeVars, occurrences, List.filter_append, List.map_append, List.toFinset_append]

theorem freeVars_ite (guard thn els : Term) :
    (Term.ite guard thn els).freeVars = guard.freeVars ∪ thn.freeVars ∪ els.freeVars := by
  simp only [freeVars, occurrences, List.filter_append, List.map_append, List.toFinset_append]

/-! Free variables of a walk's result -/

theorem mem_freeVars_mapVars {visit : Var → Int → Term} :
    k ∈ (t.mapVars visit 0).freeVars ↔
      0 ≤ k ∧ ∃ v c, (v, c) ∈ t.occurrences 0 ∧ 0 ≤ c ∧ k + c ∈ (visit v c).freeVars := by
  have spread := occurrences_mapVars visit t 0 0 0
  simp only [Int.add_zero] at spread
  rw [mem_freeVars, spread]
  constructor
  · rintro ⟨outside, w, n, member, _, named⟩
    obtain ⟨⟨v, c⟩, within, inside⟩ := List.mem_flatMap.mp member
    have above : 0 ≤ c := le_of_mem_occurrences within
    exact ⟨outside, v, c, within, above, (mem_freeVars_under above outside).mpr ⟨(w, n), inside, named⟩⟩
  · rintro ⟨outside, v, c, within, above, free⟩
    obtain ⟨⟨w, n⟩, inside, named⟩ := (mem_freeVars_under above outside).mp free
    have deeper : c ≤ n := le_of_mem_occurrences inside
    exact ⟨outside, w, n, List.mem_flatMap.mpr ⟨(v, c), within, inside⟩, by omega, named⟩

theorem mem_freeVars_shiftFrom (up : 0 ≤ d) : k ∈ (t.shiftFrom d 0).freeVars ↔ k - d ∈ t.freeVars := by
  rw [shiftFrom, mem_freeVars_mapVars, mem_freeVars]
  simp only [mem_freeVars_var]
  constructor
  · rintro ⟨outside, v, c, within, above, _, named⟩
    -- A bound variable keeps its index, so it cannot name a place outside.
    have free : c ≤ v.index := by
      by_contra bound
      simp only [Var.shift, if_neg bound] at named
      omega
    simp only [Var.shift, if_pos free] at named
    exact ⟨by omega, v, c, within, above, by omega⟩
  · rintro ⟨outside, v, c, within, above, named⟩
    have free : c ≤ v.index := by omega
    refine ⟨by omega, v, c, within, above, by omega, ?_⟩
    simp only [Var.shift, if_pos free]
    omega

theorem mem_freeVars_copy {c : Int} (above : 0 ≤ c) : k + c ∈ (s.shiftFrom c 0).freeVars ↔ k ∈ s.freeVars := by
  rw [mem_freeVars_shiftFrom above, Int.add_sub_cancel]

theorem mem_freeVars_replace (slot : 0 ≤ j) :
    k ∈ (t.replace j s 0).freeVars ↔ k ∈ t.freeVars ∧ k ≠ j ∨ j ∈ t.freeVars ∧ k ∈ s.freeVars := by
  rw [replace, mem_freeVars_mapVars]
  constructor
  · rintro ⟨outside, v, c, within, above, free⟩
    by_cases replaced : v.index = j + c
    · rw [replaceVar, if_pos replaced, mem_freeVars_copy above] at free
      exact .inr ⟨mem_freeVars.mpr ⟨slot, v, c, within, above, replaced⟩, free⟩
    · rw [replaceVar, if_neg replaced, mem_freeVars_var] at free
      exact .inl ⟨mem_freeVars.mpr ⟨outside, v, c, within, above, free.2⟩, by omega⟩
  · rintro (⟨kept, other⟩ | ⟨replaced, free⟩)
    · obtain ⟨outside, v, c, within, above, named⟩ := mem_freeVars.mp kept
      refine ⟨outside, v, c, within, above, ?_⟩
      rw [replaceVar, if_neg (by omega), mem_freeVars_var]
      exact ⟨by omega, named⟩
    · obtain ⟨_, v, c, within, above, named⟩ := mem_freeVars.mp replaced
      have outside : 0 ≤ k := (mem_freeVars.mp free).1
      refine ⟨outside, v, c, within, above, ?_⟩
      rw [replaceVar, if_pos named, mem_freeVars_copy above]
      exact free

theorem mem_freeVars_fill :
    k ∈ (t.fill [s] 0).freeVars ↔ 0 ≤ k ∧ k + 1 ∈ t.freeVars ∨ 0 ∈ t.freeVars ∧ k ∈ s.freeVars := by
  rw [fill, mem_freeVars_mapVars]
  constructor
  · rintro ⟨outside, v, c, within, above, free⟩
    rcases Int.lt_trichotomy v.index c with bound | here | past
    · rw [fillVar_one_below bound, mem_freeVars_var] at free
      simp only at free
      omega
    · rw [fillVar_one_at here, mem_freeVars_copy above] at free
      exact .inr ⟨mem_freeVars.mpr ⟨Int.le_refl 0, v, c, within, above, by omega⟩, free⟩
    · rw [fillVar_one_above past, mem_freeVars_var] at free
      exact .inl ⟨outside, mem_freeVars.mpr ⟨by omega, v, c, within, above, by simp only at free; omega⟩⟩
  · rintro (⟨outside, past⟩ | ⟨named, free⟩)
    · obtain ⟨_, v, c, within, above, named⟩ := mem_freeVars.mp past
      refine ⟨outside, v, c, within, above, ?_⟩
      rw [fillVar_one_above (by omega), mem_freeVars_var]
      exact ⟨by omega, by simp only; omega⟩
    · obtain ⟨_, v, c, within, above, here⟩ := mem_freeVars.mp named
      have outside : 0 ≤ k := (mem_freeVars.mp free).1
      refine ⟨outside, v, c, within, above, ?_⟩
      rw [fillVar_one_at (by omega), mem_freeVars_copy above]
      exact free

theorem freeVars_shiftFrom (up : 0 ≤ d) : (t.shiftFrom d 0).freeVars = t.freeVars.image (· + d) := by
  ext k
  rw [mem_freeVars_shiftFrom up, Finset.mem_image]
  constructor
  · intro free
    exact ⟨k - d, free, Int.sub_add_cancel k d⟩
  · rintro ⟨original, free, rfl⟩
    rwa [Int.add_sub_cancel]

theorem freeVars_replace (slot : 0 ≤ j) :
    (t.replace j s 0).freeVars = if j ∈ t.freeVars then t.freeVars.erase j ∪ s.freeVars else t.freeVars := by
  ext k
  rw [mem_freeVars_replace slot]
  by_cases occurs : j ∈ t.freeVars
  · simp only [occurs, if_true, true_and, Finset.mem_union, Finset.mem_erase, and_comm]
  · have other : k ∈ t.freeVars → k ≠ j := by
      rintro free rfl
      exact occurs free
    simp only [occurs, if_false, false_and, or_false]
    exact ⟨fun free => free.1, fun free => ⟨free, other free⟩⟩

theorem freeVars_fill :
    (t.fill [s] 0).freeVars =
      (t.freeVars.filter (0 < ·)).image (· - 1) ∪ if 0 ∈ t.freeVars then s.freeVars else ∅ := by
  have moved : ∀ k, k ∈ (t.freeVars.filter (0 < ·)).image (· - 1) ↔ 0 ≤ k ∧ k + 1 ∈ t.freeVars := by
    intro k
    simp only [Finset.mem_image, Finset.mem_filter]
    constructor
    · rintro ⟨original, ⟨free, past⟩, rfl⟩
      exact ⟨by omega, by rwa [Int.sub_add_cancel]⟩
    · rintro ⟨outside, free⟩
      exact ⟨k + 1, ⟨free, by omega⟩, by omega⟩
  ext k
  rw [mem_freeVars_fill, Finset.mem_union, moved]
  by_cases occurs : 0 ∈ t.freeVars
  · simp only [occurs, if_true, true_and]
  · simp only [occurs, if_false, false_and, Finset.notMem_empty]

end

end Term

/-! What evaluation keeps -/

def Frame.freeVars : Frame → Finset Int
  | .function arg => arg.freeVars
  | .argument fn _ => fn.freeVars
  | .guard thn els => thn.freeVars ∪ els.freeVars
  | .succ | .pred | .isZero => ∅

namespace Term

theorem freeVars_plug (frame : Frame) (t : Term) : (frame.plug t).freeVars = t.freeVars ∪ frame.freeVars := by
  cases frame with
  | function arg => exact freeVars_app t arg
  | argument fn value => exact (freeVars_app fn t).trans (Finset.union_comm _ _)
  | guard thn els => exact (freeVars_ite t thn els).trans (Finset.union_assoc _ _ _)
  | succ | pred | isZero => exact (Finset.union_empty _).symm

/-- Every free variable of the contractum is one of the redex: those of the body have lost a binder that no variable
names any more. -/
theorem freeVars_contract {t : Term} {contractum : Except UnknownForm Term} (known : t.isKnown = true)
    (contracts : Contracts t contractum) : ∃ next, contractum = .ok next ∧ next.freeVars ⊆ t.freeVars := by
  cases contracts with
  | @beta hint ann body arg value =>
    simp only [isKnown, Bool.and_eq_true] at known
    refine ⟨_, instantiate_eq_fill known.1 known.2, ?_⟩
    intro k free
    rw [freeVars_app, Finset.mem_union, mem_freeVars_abs]
    rcases mem_freeVars_fill.mp free with past | ⟨_, inArg⟩
    · exact .inl past
    · exact .inr inArg
  | @iteTru thn els =>
    refine ⟨thn, rfl, ?_⟩
    rw [freeVars_ite]
    exact Finset.subset_union_right.trans Finset.subset_union_left
  | @iteFls thn els =>
    refine ⟨els, rfl, ?_⟩
    rw [freeVars_ite]
    exact Finset.subset_union_right
  | @predSucc n numeric => exact ⟨n, rfl, Finset.Subset.refl n.freeVars⟩
  | predZero => exact ⟨.zero, rfl, Finset.empty_subset _⟩
  | isZeroZero => exact ⟨.tru, rfl, Finset.empty_subset _⟩
  | isZeroSucc numeric => exact ⟨.fls, rfl, Finset.empty_subset _⟩

def Within (places : Finset Int) (t : Term) : Prop :=
  t.isKnown = true ∧ t.freeVars ⊆ places

theorem within_invariant : Invariant Within where
  hole {places frame t} within := by
    obtain ⟨known, free⟩ := within
    obtain ⟨_, holeKnown, plugKnown⟩ := isKnown_invariant.hole (i := ()) known
    rw [freeVars_plug] at free
    obtain ⟨inHole, inFrame⟩ := Finset.union_subset_iff.mp free
    refine ⟨places, ⟨holeKnown, inHole⟩, fun u uWithin => ⟨plugKnown u uWithin.1, ?_⟩⟩
    rw [freeVars_plug]
    exact Finset.union_subset uWithin.2 inFrame
  contract {places t contractum} within contracts := by
    obtain ⟨next, rfl, free⟩ := freeVars_contract within.1 contracts
    obtain ⟨_, same, nextKnown⟩ := isKnown_contract within.1 contracts
    cases same
    exact ⟨next, rfl, nextKnown, free.trans within.2⟩

/-- What becomes of free variables. Shifting moves each of them. A substitution takes out the variable it is for and brings
in those of the term it puts there, if the variable occurs, and changes nothing else; so does an argument for an
abstraction's variable, with one binder less to point past. None of these fails. Evaluation under either strategy brings
in no free variable, so what is closed stays closed. -/
theorem freeVars_exact_and_kept {t : Term} (known : t.isKnown = true) :
    (∀ d : Int, 0 ≤ d → ∃ moved, t.shift d = .ok moved ∧ moved.freeVars = t.freeVars.image (· + d)) ∧
    (∀ s : Term, s.isKnown = true →
      (∀ j : Int, 0 ≤ j → ∃ replaced, t.substitute j s = .ok replaced ∧
        replaced.freeVars = if j ∈ t.freeVars then t.freeVars.erase j ∪ s.freeVars else t.freeVars) ∧
      ∃ next, t.instantiate s = .ok next ∧
        next.freeVars = (t.freeVars.filter (0 < ·)).image (· - 1) ∪ if 0 ∈ t.freeVars then s.freeVars else ∅) ∧
    (∀ machine : Machine,
      (∀ u ∈ (machine.run t).terms, u.freeVars ⊆ t.freeVars ∧ (t.freeVars = ∅ → u.freeVars = ∅)) ∧
      ∀ l u, (machine.run t).failure = some (.limitExceeded l u) → u.freeVars ⊆ t.freeVars) ∧
    ∀ fuel v, t.normalize fuel = .ok v → v.freeVars ⊆ t.freeVars ∧ (t.freeVars = ∅ → v.freeVars = ∅) := by
  have closed : ∀ {u : Term}, u.freeVars ⊆ t.freeVars → t.freeVars = ∅ → u.freeVars = ∅ := by
    intro u among none
    rw [none] at among
    exact Finset.subset_empty.mp among
  have start : Within t.freeVars t := ⟨known, Finset.Subset.refl _⟩
  obtain ⟨runs, reductions⟩ := within_invariant.evaluation start
  refine ⟨fun d up => ?_, fun s argKnown => ⟨fun j slot => ?_, ?_⟩, fun machine => ?_, fun fuel v reduced => ?_⟩
  · exact ⟨_, shift_eq_shiftFrom known d, freeVars_shiftFrom up⟩
  · exact ⟨_, substitute_eq_replace known argKnown j, freeVars_replace slot⟩
  · exact ⟨_, instantiate_eq_fill known argKnown, freeVars_fill⟩
  · obtain ⟨shown, forbidden⟩ := runs machine
    refine ⟨fun u member => ?_, fun l u exceeded => (forbidden l u exceeded).2⟩
    have among := (shown u member).2
    exact ⟨among, closed among⟩
  · have among := (reductions fuel v reduced).2
    exact ⟨among, closed among⟩

/-- The argument's free variable is put under a binder of the body and is not captured there. -/
theorem freeVars_exact_and_kept_mentionsBoth :
    mentionsBoth.freeVars = {0, 1} ∧ pointsPast.freeVars = {2} ∧
      (∃ replaced, mentionsBoth.substitute 1 pointsPast = .ok replaced ∧ replaced.freeVars = {0, 2}) ∧
      (∃ next, mentionsBoth.instantiate pointsPast = .ok next ∧ next.freeVars = {0, 2}) ∧
      ∀ u ∈ ((Machine.mk none 5).run (.app (.abs "x" none mentionsBoth) pointsPast)).terms, u.freeVars ⊆ {0, 2} := by
  have known : mentionsBoth.isKnown = true := rfl
  have argKnown : pointsPast.isKnown = true := rfl
  have redexKnown : (Term.app (.abs "x" none mentionsBoth) pointsPast).isKnown = true := rfl
  have free : mentionsBoth.freeVars = {0, 1} := by decide
  have argFree : pointsPast.freeVars = {2} := by decide
  have redexFree : (Term.app (.abs "x" none mentionsBoth) pointsPast).freeVars = {0, 2} := by decide
  obtain ⟨replaces, next, instantiated, nextFree⟩ := (freeVars_exact_and_kept known).2.1 pointsPast argKnown
  obtain ⟨replaced, substituted, replacedFree⟩ := replaces 1 (by decide)
  obtain ⟨_, _, runs, _⟩ := freeVars_exact_and_kept redexKnown
  rw [free, argFree] at replacedFree nextFree
  refine ⟨free, argFree, ⟨replaced, substituted, replacedFree⟩, ⟨next, instantiated, nextFree⟩, ?_⟩
  intro u member
  rw [← redexFree]
  exact ((runs _).1 u member).1

end Term

end Calculi
