import Calculi.Proofs.Invariant
import Mathlib.Data.List.Basic

/-!
What a step limit cuts off. A run is the sequence of terms that stepping leads through, and a limit decides how much of
it is shown: every term up to the limit, and if the run goes on, the first term past it in the error. A limit below
zero allows as many steps as zero does, none.
-/
namespace Calculi.Term

def atStep : Term → Nat → Option Term
  | t, 0 => some t
  | t, n + 1 =>
    match t.step with
    | .ok next => atStep next n
    | .error _ => none

variable {t : Term}

theorem atStep_succ {next : Term} (stepped : t.step = .ok next) (n : Nat) :
    t.atStep (n + 1) = next.atStep n := by
  simp only [atStep, stepped]

theorem Normal.atStep_succ (normal : t.Normal) (n : Nat) : t.atStep (n + 1) = none := by
  obtain ⟨inner, stop⟩ := normal
  simp only [atStep, stop]

theorem atStep_ne_none_of_le {m n : Nat} (le : m ≤ n) (reached : t.atStep n ≠ none) : t.atStep m ≠ none := by
  induction n generalizing m t with
  | zero =>
    obtain rfl : m = 0 := by omega
    exact reached
  | succ n ih =>
    cases m with
    | zero => exact Option.some_ne_none t
    | succ m =>
      cases stepped : t.step with
      | ok next =>
        rw [atStep_succ stepped] at reached ⊢
        exact ih (by omega) reached
      | error stop => simp [atStep, stepped] at reached

theorem EndsIn.atStep {k : Nat} {v : Term} (run : t.EndsIn k (.ok v)) :
    t.atStep k = some v ∧ ∀ i, k < i → t.atStep i = none := by
  generalize same : Except.ok v = result at run
  induction run with
  | @normal t normal =>
    cases same
    refine ⟨rfl, fun i beyond => ?_⟩
    obtain ⟨i, rfl⟩ : ∃ less, i = less + 1 := ⟨i - 1, by omega⟩
    exact normal.atStep_succ i
  | failed stop => cases same
  | step first rest ih =>
    obtain ⟨final, nothing⟩ := ih same
    refine ⟨by rw [atStep_succ first, final], fun i beyond => ?_⟩
    obtain ⟨i, rfl⟩ : ∃ less, i = less + 1 := ⟨i - 1, by omega⟩
    rw [atStep_succ first]
    exact nothing i (by omega)

theorem endsIn_or_atStep (known : t.isKnown = true) (n : Nat) :
    (∃ k v, k ≤ n ∧ t.EndsIn k (.ok v)) ∨ ∃ next, t.atStep (n + 1) = some next := by
  induction n generalizing t with
  | zero =>
    rcases isKnown_invariant.step (i := ()) known with ⟨next, stepped, _⟩ | normal
    · exact .inr ⟨next, by rw [atStep_succ stepped]; rfl⟩
    · exact .inl ⟨0, t, Nat.le_refl 0, .normal normal⟩
  | succ n ih =>
    rcases isKnown_invariant.step (i := ()) known with ⟨next, stepped, nextKnown⟩ | normal
    · rw [atStep_succ stepped]
      rcases ih nextKnown with ⟨k, v, le, rest⟩ | further
      · exact .inl ⟨k + 1, v, by omega, .step stepped rest⟩
      · exact .inr further
    · exact .inl ⟨0, t, Nat.zero_le _, .normal normal⟩

/-! What is shown -/

def ShowsUpTo (n : Nat) (t : Term) (terms : List Term) : Prop :=
  ∀ i, terms[i]? = if i ≤ n then t.atStep i else none

theorem showsUpTo_singleton_zero (t : Term) : t.ShowsUpTo 0 [t] := by
  intro i
  cases i with
  | zero => rfl
  | succ i => simp

theorem Normal.showsUpTo (normal : t.Normal) (n : Nat) : t.ShowsUpTo n [t] := by
  intro i
  cases i with
  | zero => rfl
  | succ i => simp [normal.atStep_succ i]

theorem ShowsUpTo.cons {next : Term} {n : Nat} {terms : List Term} (rest : next.ShowsUpTo n terms)
    (stepped : t.step = .ok next) : t.ShowsUpTo (n + 1) (t :: terms) := by
  intro i
  cases i with
  | zero => rfl
  | succ i => simp [rest i, atStep_succ stepped]

theorem ShowsUpTo.map_some {n : Nat} {terms : List Term} (shown : t.ShowsUpTo n terms)
    (reached : t.atStep n ≠ none) : terms.map some = (List.range (n + 1)).map t.atStep := by
  apply List.ext_getElem?
  intro i
  rw [List.getElem?_map, List.getElem?_map, shown i]
  by_cases within : i ≤ n
  · obtain ⟨u, here⟩ := Option.ne_none_iff_exists'.mp (atStep_ne_none_of_le within reached)
    rw [if_pos within, List.getElem?_range (by omega), here, Option.map_some, Option.map_some, here]
  · rw [if_neg within, List.getElem?_eq_none (by simp; omega)]
    rfl

theorem ShowsUpTo.isPrefix {m n : Nat} {first second : List Term} (le : m ≤ n) (short : t.ShowsUpTo m first)
    (long : t.ShowsUpTo n second) : first <+: second := by
  rw [List.prefix_iff_getElem?]
  intro i inside
  have here := short i
  rw [List.getElem?_eq_getElem inside] at here
  by_cases within : i ≤ m
  · rw [if_pos within] at here
    rw [long i, if_pos (by omega), ← here]
  · rw [if_neg within] at here
    cases here

/-! Runs under a limit -/

/-- The loop with its counter: it shows the run as far as the limit leaves steps, and names the term past that. -/
theorem runFrom_limited_shows {l : Int} {fuel taken : Nat} (known : t.isKnown = true) (within : taken ≤ l.toNat)
    (total : taken + fuel = l.toNat + 1) :
    t.ShowsUpTo (l.toNat - taken) (t.runFrom (some l) fuel taken).terms ∧
      (t.runFrom (some l) fuel taken).failure = (t.atStep fuel).map (.limitExceeded l) := by
  induction fuel, taken, t using runFrom_induction (some l) with
  | dry taken t => omega
  | normal fuel taken t normal trace =>
    rw [trace, normal.atStep_succ]
    exact ⟨normal.showsUpTo _, rfl⟩
  | failed fuel taken t form stop trace =>
    obtain ⟨inner, impossible⟩ := isKnown_invariant.step_error (i := ()) known stop
    cases impossible
  | exceeded fuel taken t next l' stepped past trace =>
    obtain ⟨same, beyond⟩ := Option.filter_eq_some_iff.mp past
    cases same
    have reached : l < taken + 1 := by simpa using beyond
    obtain rfl : fuel = 0 := by omega
    have full : l.toNat - taken = 0 := by omega
    rw [trace, full, atStep_succ stepped]
    exact ⟨showsUpTo_singleton_zero t, rfl⟩
  | step fuel taken t next stepped allowed trace ih =>
    have room : (taken + 1 : Int) ≤ l := by simpa [pastLimit] using allowed
    have nextKnown := isKnown_invariant.step_ok (i := ()) known stepped
    obtain ⟨shown, failure⟩ := ih nextKnown (by omega) (by omega)
    have left : l.toNat - taken = l.toNat - (taken + 1) + 1 := by omega
    rw [trace, left, atStep_succ stepped]
    exact ⟨shown.cons stepped, failure⟩

theorem runFrom_unlimited_shows (known : t.isKnown = true) (fuel taken : Nat) :
    t.ShowsUpTo fuel (t.runFrom none fuel taken).terms := by
  induction fuel, taken, t using runFrom_induction none with
  | dry taken t => exact showsUpTo_singleton_zero t
  | normal fuel taken t normal trace =>
    rw [trace]
    exact normal.showsUpTo _
  | failed fuel taken t form stop trace =>
    obtain ⟨inner, impossible⟩ := isKnown_invariant.step_error (i := ()) known stop
    cases impossible
  | exceeded fuel taken t next l stepped past trace => cases past
  | step fuel taken t next stepped allowed trace ih =>
    rw [trace]
    exact (ih (isKnown_invariant.step_ok (i := ()) known stepped)).cons stepped

theorem run_limited_shows {machine : Machine} {l : Int} (known : t.isKnown = true)
    (limited : machine.stepLimit = some l) :
    t.ShowsUpTo l.toNat (machine.run t).terms ∧
      (machine.run t).failure = (t.atStep (l.toNat + 1)).map (.limitExceeded l) := by
  have unfolded : machine.run t = t.runFrom (some l) (l.toNat + 1) 0 := by rw [Machine.run, limited, run]
  rw [unfolded]
  exact runFrom_limited_shows known (Nat.zero_le _) (Nat.zero_add _)

theorem run_unlimited_shows {machine : Machine} (known : t.isKnown = true) (unlimited : machine.stepLimit = none) :
    t.ShowsUpTo machine.fuel (machine.run t).terms := by
  have unfolded : machine.run t = t.runFrom none machine.fuel 0 := by rw [Machine.run, unlimited, run]
  rw [unfolded]
  exact runFrom_unlimited_shows known machine.fuel 0

theorem EndsIn.run_limited {machine : Machine} {l : Int} {k : Nat} {v : Term} (run : t.EndsIn k (.ok v))
    (known : t.isKnown = true) (limited : machine.stepLimit = some l) (within : k ≤ l.toNat) :
    (machine.run t).terms.map some = (List.range (k + 1)).map t.atStep ∧ (machine.run t).failure = none ∧
      (machine.run t).last = v := by
  obtain ⟨final, nothing⟩ := run.atStep
  obtain ⟨shown, failure⟩ := run_limited_shows known limited
  have whole : t.ShowsUpTo k (machine.run t).terms := by
    intro i
    rw [shown i]
    by_cases early : i ≤ k
    · rw [if_pos early, if_pos (by omega)]
    · rw [if_neg early, nothing i (by omega), ite_self]
  have terms := whole.map_some (by rw [final]; exact Option.some_ne_none v)
  refine ⟨terms, by rw [failure, nothing _ (by omega)]; rfl, ?_⟩
  have ends := congrArg List.getLast? terms
  rw [List.getLast?_map, Trace.getLast?_terms, List.range_succ, List.map_append, List.map_singleton,
    List.getLast?_concat, final] at ends
  simpa using ends

/-- A step limit shows the run as far as it allows and changes nothing else. If the run ends within the limit it is
shown whole, and evaluation by single steps returns its last term. Otherwise it is shown up to the limit, and the
error, of the run and of the evaluation, names the limit and the next term. So under a lower limit less of the same
run is shown. Full reduction does not look at the limit. -/
theorem limit_shows_first_terms {machine : Machine} {l : Int} (known : t.isKnown = true)
    (limited : machine.stepLimit = some l) :
    (∀ k v, t.EndsIn k (.ok v) → k ≤ l.toNat →
      (machine.run t).terms.map some = (List.range (k + 1)).map t.atStep ∧ (machine.run t).failure = none ∧
        (machine.run t).terms.getLast? = some v ∧ (machine.evaluate .singleStep t).outcome = .ok v) ∧
    ((¬∃ k v, t.EndsIn k (.ok v) ∧ k ≤ l.toNat) → ∃ next, t.atStep (l.toNat + 1) = some next ∧
      (machine.run t).terms.map some = (List.range (l.toNat + 1)).map t.atStep ∧
        (machine.run t).failure = some (.limitExceeded l next) ∧
        (machine.evaluate .singleStep t).outcome = .error (.limitExceeded l next)) ∧
    (∀ (other : Machine) (l' : Int), other.stepLimit = some l' → l ≤ l' →
      (machine.run t).terms <+: (other.run t).terms) ∧
    (∀ other : Machine, other.stepLimit = none → l.toNat ≤ other.fuel →
      (machine.run t).terms <+: (other.run t).terms) ∧
    ∀ limit, Machine.evaluate { machine with stepLimit := limit } .fullReduction t =
      machine.evaluate .fullReduction t := by
  obtain ⟨shown, failure⟩ := run_limited_shows known limited
  refine ⟨fun k v run within => ?_, fun longer => ?_, fun other l' limited' le => ?_, fun other unlimited enough => ?_,
    fun limit => rfl⟩
  · obtain ⟨terms, ended, last⟩ := run.run_limited known limited within
    refine ⟨terms, ended, ?_, (Trace.outcome_eq_ok_iff _ _).mpr ⟨ended, last⟩⟩
    rw [Trace.getLast?_terms, last]
  · rcases endsIn_or_atStep known l.toNat with ⟨k, v, within, run⟩ | ⟨next, further⟩
    · exact absurd ⟨k, v, run, within⟩ longer
    · rw [further] at failure
      refine ⟨next, further, ?_, failure, (Trace.outcome_eq_error_iff _ _).mpr failure⟩
      apply shown.map_some
      apply atStep_ne_none_of_le (Nat.le_succ l.toNat)
      rw [further]
      exact Option.some_ne_none next
  · exact shown.isPrefix (by omega) (run_limited_shows known limited').1
  · exact shown.isPrefix enough (run_unlimited_shows known unlimited)

def twoSteps : Term :=
  .isZero (.pred (.succ .zero))

/-- The limit that equals the length of the run is high enough; a negative one shows the first term alone. -/
theorem limit_shows_first_terms_twoSteps :
    twoSteps.EndsIn 2 (.ok .tru) ∧
      ((Machine.mk (some 2) 0).evaluate .singleStep twoSteps).outcome = .ok .tru ∧
      ((Machine.mk (some (-1)) 0).run twoSteps).failure = some (.limitExceeded (-1) (.isZero .zero)) ∧
      ((Machine.mk (some (-1)) 0).run twoSteps).terms <+: ((Machine.mk (some 2) 0).run twoSteps).terms := by
  have known : twoSteps.isKnown = true := rfl
  have run : twoSteps.EndsIn 2 (.ok .tru) := .step rfl (.step rfl (.normal ⟨.tru, rfl⟩))
  have low : (Machine.mk (some (-1)) 0).stepLimit = some (-1) := rfl
  have high : (Machine.mk (some 2) 0).stepLimit = some 2 := rfl
  obtain ⟨whole, _⟩ := limit_shows_first_terms known high
  obtain ⟨_, cut, lower, _⟩ := limit_shows_first_terms known low
  have longer : ¬∃ k v, twoSteps.EndsIn k (.ok v) ∧ k ≤ (-1 : Int).toNat := by
    rintro ⟨k, v, other, within⟩
    obtain ⟨rfl, _⟩ := run.deterministic other
    exact absurd within (by decide)
  obtain ⟨next, past, _, failure, _⟩ := cut longer
  cases past
  exact ⟨run, (whole 2 .tru run (by decide)).2.2.2, failure, lower _ 2 high (by decide)⟩

end Calculi.Term
