import Calculi.Chapter.Check
import Calculi.Proofs.HasType
import Calculi.Proofs.Journal
import Calculi.Proofs.StepLimit
import Calculi.Proofs.WellFormed

/-!
Running a chapter. Both strategies come to the same term, so the checks of an example agree on what they find. Only a
step limit can end the run early, at the first example whose single steps pass it.
-/
namespace Calculi

open Log

namespace Term

variable {t : Term}

theorem EndsIn.exists_evaluate {k : Nat} {v : Term} (run : t.EndsIn k (.ok v)) (known : t.isKnown = true)
    (limit : Option Int) :
    ∃ enough, ∀ fuel, enough ≤ fuel → ∀ strategy,
      ((strategy = .singleStep ∧ ∃ l ∈ limit, l.toNat < k) ∧ ∃ l u, limit = some l ∧
        t.atStep (l.toNat + 1) = some u ∧
        ((Machine.mk limit fuel).evaluate strategy t).outcome = .error (.limitExceeded l u)) ∨
      (¬(strategy = .singleStep ∧ ∃ l ∈ limit, l.toNat < k) ∧
        ((Machine.mk limit fuel).evaluate strategy t).outcome = .ok v) := by
  obtain ⟨enoughReduced, reduced⟩ := Ends.evaluate_unlimited ⟨k, run⟩ .fullReduction
  obtain ⟨enoughStepped, stepped⟩ := Ends.evaluate_unlimited ⟨k, run⟩ .singleStep
  refine ⟨max enoughReduced enoughStepped, fun fuel enough strategy => ?_⟩
  cases strategy with
  | fullReduction => exact .inr ⟨by simp, reduced fuel (by omega)⟩
  | singleStep =>
    cases limit with
    | none => exact .inr ⟨by simp, stepped fuel (by omega)⟩
    | some l =>
      have limited : (Machine.mk (some l) fuel).stepLimit = some l := rfl
      by_cases longer : l.toNat < k
      · have reached : t.atStep (l.toNat + 1) ≠ none := by
          apply atStep_ne_none_of_le (Nat.succ_le_of_lt longer)
          rw [run.atStep.1]
          exact Option.some_ne_none v
        obtain ⟨u, past⟩ := Option.ne_none_iff_exists'.mp reached
        have failure := (run_limited_shows known limited).2
        rw [past, Option.map_some] at failure
        refine .inl ⟨⟨rfl, l, rfl, longer⟩, l, u, rfl, past, ?_⟩
        exact (Trace.outcome_eq_error_iff _ _).mpr failure
      · obtain ⟨_, ended, last⟩ := run.run_limited known limited (Nat.le_of_not_lt longer)
        refine .inr ⟨by simpa using longer, ?_⟩
        exact (Trace.outcome_eq_ok_iff _ _).mpr ⟨ended, last⟩

theorem exists_ends (t : Term) (known : t.isKnown = true) (ends : ∃ fuel, t.normalize fuel ≠ .error .outOfFuel) :
    ∃ v, t.Ends (.ok v) := by
  obtain ⟨fuel, settled⟩ := ends
  rcases normalize_cases fuel t with dry | ⟨result, done⟩
  · exact absurd dry settled
  · obtain ⟨v, rfl, _⟩ := isKnown_invariant.ends (i := ()) known (ends_of_normalize done)
    exact ⟨v, ends_of_normalize done⟩

end Term

namespace Example

variable (e : Example) (chapter : String) (limit : Option Int) (strategies : List Strategy) (suffix : String)

/-- The limit stops the example: it is to be evaluated by single steps, and its run takes more of them. -/
def Overruns : Prop :=
  .singleStep ∈ strategies ∧ e.result ≠ none ∧ ∃ l ∈ limit, ∃ k v, e.term.EndsIn k (.ok v) ∧ l.toNat < k

/-- A check passes exactly if what it looks for is there, and says what it found only if it is not. -/
structure Verdict (met : Prop) (complaint : String → Prop) (passed : Bool) (detail : String) : Prop where
  passed_iff : passed = true ↔ met
  quiet : passed = true → detail = ""
  told : passed = false → complaint detail

def WrongTerm (expected actual : Term) (detail : String) : Prop :=
  ∃ expectedText actualText, expected.render suffix e.ctx = .ok expectedText ∧
    actual.render suffix e.ctx = .ok actualText ∧ detail = s!"expected {expectedText}, got {actualText}"

def WrongType (expected : Ty) (detail : String) : Prop :=
  (∃ actual, e.term.infer e.ctx = .ok actual ∧ detail = s!"expected {expected.render}, got {actual.render}") ∨
    ∃ error, e.term.infer e.ctx = .error (.illTyped error) ∧ detail = error.message

def WrongError (expected : ExpectedError) (detail : String) : Prop :=
  (∃ actual, e.term.infer e.ctx = .ok actual ∧ detail = s!"expected {expected.name}, got type {actual.render}") ∨
    ∃ error, e.term.infer e.ctx = .error (.illTyped error) ∧
      detail = s!"expected {expected.name}, got {error.kind.name}"

def FailsAs (expected : ExpectedError) : Prop :=
  ∃ error, e.term.infer e.ctx = .error (.illTyped error) ∧ (expected = .any ∨ expected = .only error.kind)

def ReportsTerm (expected : Term) (results : List CheckResult) : Prop :=
  ∃ v passed detail, e.term.Ends (.ok v) ∧ Verdict (v = expected) (e.WrongTerm suffix expected v) passed detail ∧
    results = strategies.map fun strategy => ⟨chapter, e.name, .evaluation strategy, passed, detail⟩

def ReportsType (expected : Ty) (results : List CheckResult) : Prop :=
  ∃ passed detail, Verdict (e.term.infer e.ctx = .ok expected) (e.WrongType expected) passed detail ∧
    results = [⟨chapter, e.name, .typing, passed, detail⟩]

def ReportsError (expected : ExpectedError) (results : List CheckResult) : Prop :=
  ∃ passed detail, Verdict (e.FailsAs expected) (e.WrongError expected) passed detail ∧
    results = [⟨chapter, e.name, .typeError, passed, detail⟩]

def Gives {α : Type} (expectation : Option α) (reports : α → List CheckResult → Prop) (results : List CheckResult) :
    Prop :=
  match expectation with
  | none => results = []
  | some expected => reports expected results

/-- The results of an example that the limit does not stop: those for a final term, then those for a type, then those
for a type error. -/
def Reports (results : List CheckResult) : Prop :=
  ∃ evaluations types errors, results = evaluations ++ types ++ errors ∧
    Gives e.result (e.ReportsTerm chapter strategies suffix) evaluations ∧
    Gives e.ty (e.ReportsType chapter) types ∧ Gives e.error (e.ReportsError chapter) errors

inductive Outcome (reports : List CheckResult → Prop) : Except CheckError (List CheckResult) → Prop where
  | stopped {l : Int} {u : Term} (overruns : e.Overruns limit strategies) (limited : limit = some l)
      (past : e.term.atStep (l.toNat + 1) = some u) : Outcome reports (.error (.evaluation (.limitExceeded l u)))
  | reported {results : List CheckResult} (within : ¬e.Overruns limit strategies) (found : reports results) :
      Outcome reports (.ok results)

variable {e chapter limit strategies suffix}

theorem overruns_iff {expected v : Term} {k : Nat} (asked : e.result = some expected)
    (run : e.term.EndsIn k (.ok v)) :
    e.Overruns limit strategies ↔ .singleStep ∈ strategies ∧ ∃ l ∈ limit, l.toNat < k := by
  constructor
  · rintro ⟨stepped, _, l, limited, k', v', run', longer⟩
    obtain ⟨rfl, _⟩ := run.deterministic run'
    exact ⟨stepped, l, limited, longer⟩
  · rintro ⟨stepped, l, limited, longer⟩
    have expects : e.result ≠ none := by
      rw [asked]
      exact Option.some_ne_none expected
    exact ⟨stepped, expects, l, limited, k, v, run, longer⟩

namespace Outcome

variable {reports : List CheckResult → Prop} {outcome : Except CheckError (List CheckResult)}

theorem of_overruns (ended : e.Outcome limit strategies reports outcome) (overruns : e.Overruns limit strategies) :
    ∃ l u, limit = some l ∧ e.term.atStep (l.toNat + 1) = some u ∧
      outcome = .error (.evaluation (.limitExceeded l u)) := by
  cases ended with
  | stopped _ limited past => exact ⟨_, _, limited, past, rfl⟩
  | reported within => exact absurd overruns within

theorem of_not_overruns (ended : e.Outcome limit strategies reports outcome)
    (within : ¬e.Overruns limit strategies) : ∃ results, outcome = .ok results ∧ reports results := by
  cases ended with
  | stopped overruns => exact absurd overruns within
  | reported _ found => exact ⟨_, rfl, found⟩

theorem bind {reports' : List CheckResult → Prop} {checks : Checked (List CheckResult)}
    {more : List CheckResult → Checked (List CheckResult)} (first : e.Outcome limit strategies reports checks.outcome)
    (next : ∀ results, reports results → ∃ all, (more results).outcome = .ok all ∧ reports' all) :
    e.Outcome limit strategies reports' (checks >>= more).outcome := by
  rw [Journal.outcome_bind]
  generalize checks.outcome = outcome at first ⊢
  cases first with
  | stopped overruns limited past => exact .stopped overruns limited past
  | reported within found =>
    obtain ⟨all, done, foundAll⟩ := next _ found
    change e.Outcome limit strategies reports' (more _).outcome
    rw [done]
    exact .reported within foundAll

end Outcome

theorem Verdict.pass {met : Prop} {complaint : String → Prop} (found : met) : Verdict met complaint true "" := by
  refine ⟨⟨fun _ => found, fun _ => rfl⟩, fun _ => rfl, fun impossible => ?_⟩
  cases impossible

theorem Verdict.fail {met : Prop} {complaint : String → Prop} {detail : String} (missing : ¬met)
    (told : complaint detail) : Verdict met complaint false detail := by
  refine ⟨⟨fun impossible => ?_, fun found => absurd found missing⟩, fun impossible => ?_, fun _ => told⟩
  · cases impossible
  · cases impossible

/-! The checks -/

theorem covers_eq_true_iff {expected : ExpectedError} {error : TypingError} :
    expected.covers error = true ↔ expected = .any ∨ expected = .only error.kind := by
  cases expected with
  | any => simp [ExpectedError.covers]
  | only kind => simp [ExpectedError.covers, eq_comm]

theorem exists_checkTyping (e : Example) (chapter : String) (known : e.term.isKnown = true) (expected : Ty) :
    ∃ result, e.checkTyping chapter expected = .ok result ∧ e.ReportsType chapter expected [result] := by
  cases inferred : e.term.infer e.ctx with
  | ok actual =>
    by_cases same : actual = expected
    · refine ⟨_, by rw [checkTyping, inferred]; exact if_pos same, true, "", .pass ?_, rfl⟩
      rw [inferred, same]
    · refine ⟨_, by rw [checkTyping, inferred]; exact if_neg same, false, _,
        .fail ?_ (.inl ⟨actual, inferred, rfl⟩), rfl⟩
      rw [inferred]
      exact fun typed => same (Except.ok.inj typed)
  | error failure =>
    obtain ⟨error, rfl⟩ := Term.illTyped_of_infer_error known inferred
    refine ⟨_, by rw [checkTyping, inferred], false, _, .fail ?_ (.inr ⟨error, inferred, rfl⟩), rfl⟩
    rw [inferred]
    exact fun typed => by cases typed

theorem exists_checkTypeError (e : Example) (chapter : String) (known : e.term.isKnown = true)
    (expected : ExpectedError) :
    ∃ result, e.checkTypeError chapter expected = .ok result ∧ e.ReportsError chapter expected [result] := by
  cases inferred : e.term.infer e.ctx with
  | ok actual =>
    refine ⟨_, by rw [checkTypeError, inferred], false, _, .fail ?_ (.inl ⟨actual, inferred, rfl⟩), rfl⟩
    rintro ⟨error, failed, _⟩
    rw [inferred] at failed
    cases failed
  | error failure =>
    obtain ⟨error, rfl⟩ := Term.illTyped_of_infer_error known inferred
    have fails : e.FailsAs expected ↔ expected.covers error = true := by
      rw [covers_eq_true_iff]
      simp [FailsAs, inferred]
    by_cases covered : expected.covers error = true
    · exact ⟨_, by rw [checkTypeError, inferred]; exact if_pos covered, true, "", .pass (fails.mpr covered), rfl⟩
    · exact ⟨_, by rw [checkTypeError, inferred]; exact if_neg covered, false, _,
        .fail (mt fails.mp covered) (.inr ⟨error, inferred, rfl⟩), rfl⟩

theorem exists_textOf (e : Example) (usable : suffix ≠ "") {t : Term} (known : t.isKnown = true) :
    ∃ text, t.render suffix e.ctx = .ok text ∧ e.textOf suffix t = .ok text := by
  obtain ⟨pieces, ⟨_, printed⟩, _⟩ := Term.exists_prints usable known e.ctx
  refine ⟨_, printed, ?_⟩
  rw [textOf, printed]
  rfl

/-- What the check of an evaluation finds depends on the final term and not on how it was reached. -/
theorem exists_checkEvaluation (e : Example) (chapter : String) (strategies : List Strategy) (usable : suffix ≠ "")
    {expected v : Term} (expectedKnown : expected.isKnown = true) (known : v.isKnown = true) :
    ∃ passed detail, Verdict (v = expected) (e.WrongTerm suffix expected v) passed detail ∧
      ∀ (machine : Machine) (strategy : Strategy), (machine.evaluate strategy e.term).outcome = .ok v →
        (e.checkEvaluation chapter ⟨machine, strategies, suffix⟩ expected strategy).outcome =
          .ok ⟨chapter, e.name, .evaluation strategy, passed, detail⟩ := by
  obtain ⟨expectedText, expectedRendered, expectedOk⟩ := e.exists_textOf usable expectedKnown
  obtain ⟨text, rendered, ok⟩ := e.exists_textOf usable known
  by_cases same : v = expected
  · refine ⟨true, "", .pass same, fun machine strategy evaluated => ?_⟩
    simp only [checkEvaluation, Journal.outcome_bind, Journal.outcome_relabel, evaluated, Journal.outcome_ofExcept,
      expectedOk]
    exact congrArg Journal.outcome (if_pos same)
  · refine ⟨false, _, .fail same ⟨expectedText, text, expectedRendered, rendered, rfl⟩,
      fun machine strategy evaluated => ?_⟩
    simp only [checkEvaluation, Journal.outcome_bind, Journal.outcome_relabel, evaluated, Journal.outcome_ofExcept,
      expectedOk]
    refine (congrArg Journal.outcome (if_neg same)).trans ?_
    rw [Journal.outcome_bind, Journal.outcome_ofExcept, ok]
    rfl

theorem checkEvaluation_error {plan : CheckPlan} {strategy : Strategy} {error : EvalError}
    (failed : (plan.machine.evaluate strategy e.term).outcome = .error error) (expected : Term) :
    (e.checkEvaluation chapter plan expected strategy).outcome = .error (.evaluation error) := by
  rw [checkEvaluation, Journal.outcome_bind, Journal.outcome_relabel, failed]
  rfl

theorem exists_checkEvaluations (e : Example) (chapter : String) (limit : Option Int) (strategies : List Strategy)
    (usable : suffix ≠ "") {expected : Term} (asked : e.result = some expected)
    (expectedKnown : expected.isKnown = true) (known : e.term.isKnown = true) {k : Nat} {v : Term}
    (run : e.term.EndsIn k (.ok v)) :
    ∃ enough, ∀ fuel, enough ≤ fuel →
      e.Outcome limit strategies (e.ReportsTerm chapter strategies suffix expected)
        (strategies.mapM (e.checkEvaluation chapter ⟨⟨limit, fuel⟩, strategies, suffix⟩ expected)).outcome := by
  obtain ⟨_, same, vKnown⟩ := Term.isKnown_invariant.ends (i := ()) known ⟨k, run⟩
  cases same
  obtain ⟨passed, detail, verdict, finds⟩ := e.exists_checkEvaluation chapter strategies usable expectedKnown vKnown
  obtain ⟨enough, evaluates⟩ := run.exists_evaluate known limit
  refine ⟨enough, fun fuel le => ?_⟩
  rw [Journal.outcome_mapM]
  by_cases overruns : e.Overruns limit strategies
  · obtain ⟨stepped, exceeded⟩ := (overruns_iff asked run).mp overruns
    rcases evaluates fuel le .singleStep with ⟨_, l, u, limited, past, failed⟩ | ⟨allowed, _⟩
    · -- Full reduction takes no notice of the limit, so what comes before the first run by single steps succeeds.
      obtain ⟨before, after, split, notBefore⟩ := List.eq_append_cons_of_mem stepped
      have stops : (before ++ .singleStep :: after).mapM (fun strategy =>
          (e.checkEvaluation chapter ⟨⟨limit, fuel⟩, strategies, suffix⟩ expected strategy).outcome) =
          .error (.evaluation (.limitExceeded l u)) := by
        refine mapM_eq_error (fun strategy mem => ?_) (checkEvaluation_error failed expected)
        rcases evaluates fuel le strategy with ⟨⟨rfl, _⟩, _⟩ | ⟨_, evaluated⟩
        · exact absurd mem notBefore
        · exact ⟨_, finds ⟨limit, fuel⟩ strategy evaluated⟩
      rw [← split] at stops
      rw [stops]
      exact .stopped overruns limited past
    · exact absurd ⟨rfl, exceeded⟩ allowed
  · have reports : strategies.mapM (fun strategy =>
        (e.checkEvaluation chapter ⟨⟨limit, fuel⟩, strategies, suffix⟩ expected strategy).outcome) =
        .ok (strategies.map fun strategy => ⟨chapter, e.name, .evaluation strategy, passed, detail⟩) := by
      apply mapM_eq_ok
      rw [List.forall₂_map_right_iff, List.forall₂_same]
      intro strategy mem
      rcases evaluates fuel le strategy with ⟨⟨rfl, exceeded⟩, _⟩ | ⟨_, evaluated⟩
      · exact absurd ((overruns_iff asked run).mpr ⟨mem, exceeded⟩) overruns
      · exact finds ⟨limit, fuel⟩ strategy evaluated
    rw [reports]
    exact .reported overruns ⟨v, passed, detail, ⟨k, run⟩, verdict, rfl⟩

/-! One example -/

theorem exists_whenSet_of_checks {α : Type} (expectation : Option α) {check : α → Except CheckError CheckResult}
    {reports : α → List CheckResult → Prop}
    (checks : ∀ expected, ∃ result, check expected = .ok result ∧ reports expected [result]) :
    ∃ results, (whenSet expectation fun expected => return [← .ofExcept (check expected)]).outcome = .ok results ∧
      Gives expectation reports results := by
  cases expectation with
  | none => exact ⟨[], rfl, rfl⟩
  | some expected =>
    obtain ⟨result, done, reported⟩ := checks expected
    refine ⟨[result], ?_, reported⟩
    rw [whenSet, Journal.outcome_bind, Journal.outcome_ofExcept, done]
    rfl

theorem exists_whenSet_evaluations (e : Example) (chapter : String) (limit : Option Int) (strategies : List Strategy)
    (usable : suffix ≠ "") (known : e.term.isKnown = true)
    (expectedKnown : ∀ expected, e.result = some expected → expected.isKnown = true)
    (ends : e.result ≠ none → ∃ fuel, e.term.normalize fuel ≠ .error .outOfFuel) :
    ∃ enough, ∀ fuel, enough ≤ fuel →
      e.Outcome limit strategies (Gives e.result (e.ReportsTerm chapter strategies suffix))
        (whenSet e.result fun expected => strategies.mapM
          (e.checkEvaluation chapter ⟨⟨limit, fuel⟩, strategies, suffix⟩ expected)).outcome := by
  cases asked : e.result with
  | none => exact ⟨0, fun _ _ => .reported (fun overruns => overruns.2.1 asked) rfl⟩
  | some expected =>
    obtain ⟨v, k, run⟩ := e.term.exists_ends known (ends (by simp [asked]))
    exact e.exists_checkEvaluations chapter limit strategies usable asked (expectedKnown expected asked) known run

/-- An example whose evaluation ends, or that needs none, is stopped by the limit or reports what it finds. -/
theorem exists_outcome (e : Example) (chapter : String) (limit : Option Int) (strategies : List Strategy)
    (usable : suffix ≠ "") (known : e.term.isKnown = true)
    (expectedKnown : ∀ expected, e.result = some expected → expected.isKnown = true)
    (ends : e.result ≠ none → ∃ fuel, e.term.normalize fuel ≠ .error .outOfFuel) :
    ∃ enough, ∀ fuel, enough ≤ fuel →
      e.Outcome limit strategies (e.Reports chapter strategies suffix)
        (e.run chapter ⟨⟨limit, fuel⟩, strategies, suffix⟩).outcome := by
  obtain ⟨enough, evaluates⟩ := exists_whenSet_evaluations e chapter limit strategies usable known expectedKnown ends
  obtain ⟨types, typesDone, typesGiven⟩ := exists_whenSet_of_checks e.ty (e.exists_checkTyping chapter known)
  obtain ⟨errors, errorsDone, errorsGiven⟩ :=
    exists_whenSet_of_checks e.error (e.exists_checkTypeError chapter known)
  refine ⟨enough, fun fuel le => (evaluates fuel le).bind fun evaluations given => ?_⟩
  refine ⟨evaluations ++ types ++ errors, ?_, evaluations, types, errors, rfl, given, typesGiven, errorsGiven⟩
  simp only [Journal.outcome_bind, typesDone, errorsDone]
  rfl

end Example

namespace Chapter

/-! The whole chapter -/

variable {suffix : String} {limit : Option Int} {strategies : List Strategy}

theorem exists_outcomes (name : String) (limit : Option Int) (strategies : List Strategy) (usable : suffix ≠ "")
    {examples : List Example}
    (known : ∀ e ∈ examples, e.term.isKnown = true ∧ ∀ expected, e.result = some expected → expected.isKnown = true)
    (ends : ∀ e ∈ examples, e.result ≠ none → ∃ fuel, e.term.normalize fuel ≠ .error .outOfFuel) :
    ∃ enough, ∀ fuel, enough ≤ fuel → ∀ e ∈ examples,
      e.Outcome limit strategies (e.Reports name strategies suffix)
        (e.run name ⟨⟨limit, fuel⟩, strategies, suffix⟩).outcome := by
  induction examples with
  | nil => exact ⟨0, fun _ _ _ mem => absurd mem List.not_mem_nil⟩
  | cons e rest ih =>
    rw [List.forall_mem_cons] at known ends
    obtain ⟨enough, here⟩ := e.exists_outcome name limit strategies usable known.1.1 known.1.2 ends.1
    obtain ⟨enoughRest, later⟩ := ih known.2 ends.2
    refine ⟨max enough enoughRest, fun fuel le => List.forall_mem_cons.mpr ⟨here fuel (by omega), ?_⟩⟩
    exact later fuel (by omega)

theorem outcome_run (chapter : Chapter) (plan : CheckPlan) :
    (chapter.run plan).outcome =
      (chapter.examples.mapM fun e : Example => (e.run chapter.name plan).outcome).map List.flatten := by
  rw [run, Journal.outcome_bind, Journal.outcome_mapM]
  rfl

theorem exists_first_overrun {examples : List Example} (overrun : ∃ e ∈ examples, e.Overruns limit strategies) :
    ∃ before e after, examples = before ++ e :: after ∧ (∀ earlier ∈ before, ¬earlier.Overruns limit strategies) ∧
      e.Overruns limit strategies := by
  classical
  obtain ⟨e, mem, overruns⟩ := overrun
  have found : (examples.find? fun e => decide (e.Overruns limit strategies)).isSome :=
    List.find?_isSome.mpr ⟨e, mem, decide_eq_true overruns⟩
  obtain ⟨first, isFirst⟩ := Option.isSome_iff_exists.mp found
  obtain ⟨here, before, after, split, earlier⟩ := List.find?_eq_some_iff_append.mp isFirst
  exact ⟨before, first, after, split, by simpa using earlier, of_decide_eq_true here⟩

section Outcomes

variable {chapter : Chapter} {plan : CheckPlan}
  (outcomes : ∀ e ∈ chapter.examples,
    e.Outcome limit strategies (e.Reports chapter.name strategies suffix) (e.run chapter.name plan).outcome)
include outcomes

theorem run_of_overruns {before after : List Example} {e : Example} (split : chapter.examples = before ++ e :: after)
    (within : ∀ earlier ∈ before, ¬earlier.Overruns limit strategies) (overruns : e.Overruns limit strategies) :
    ∃ l u, limit = some l ∧ e.term.atStep (l.toNat + 1) = some u ∧
      (chapter.run plan).outcome = .error (.evaluation (.limitExceeded l u)) := by
  rw [outcome_run, split]
  rw [split, List.forall_mem_append, List.forall_mem_cons] at outcomes
  obtain ⟨earlierOutcomes, outcome, _⟩ := outcomes
  obtain ⟨l, u, limited, past, failed⟩ := outcome.of_overruns overruns
  have stops : (before ++ e :: after).mapM (fun e : Example => (e.run chapter.name plan).outcome) =
      .error (.evaluation (.limitExceeded l u)) := by
    refine mapM_eq_error (fun earlier mem => ?_) failed
    obtain ⟨results, done, _⟩ := (earlierOutcomes earlier mem).of_not_overruns (within earlier mem)
    exact ⟨results, done⟩
  refine ⟨l, u, limited, past, ?_⟩
  rw [stops]
  rfl

theorem run_of_not_overruns (within : ∀ e ∈ chapter.examples, ¬e.Overruns limit strategies) :
    ∃ results, (chapter.run plan).outcome = .ok results.flatten ∧
      List.Forall₂ (fun e => e.Reports chapter.name strategies suffix) chapter.examples results := by
  obtain ⟨results, done, reports⟩ := exists_mapM_eq_ok fun e mem => (outcomes e mem).of_not_overruns (within e mem)
  refine ⟨results, ?_, reports⟩
  rw [outcome_run, done]
  rfl

end Outcomes

/-- A chapter of known terms, whose evaluations all end, fails exactly if the limit stops one of its examples, and then
with the error of the first one. Otherwise every example reports in its place: one check per strategy, all with the
same verdict, then the type, then the type error. -/
theorem run_reports_unless_limit_stops (chapter : Chapter) (limit : Option Int) (strategies : List Strategy)
    (usable : suffix ≠ "")
    (known : ∀ e ∈ chapter.examples,
      e.term.isKnown = true ∧ ∀ expected, e.result = some expected → expected.isKnown = true)
    (ends : ∀ e ∈ chapter.examples, e.result ≠ none → ∃ fuel, e.term.normalize fuel ≠ .error .outOfFuel) :
    ∃ enough, ∀ fuel, enough ≤ fuel →
      ((∃ error, (chapter.run ⟨⟨limit, fuel⟩, strategies, suffix⟩).outcome = .error error) ↔
        ∃ e ∈ chapter.examples, e.Overruns limit strategies) ∧
      (∀ before e after, chapter.examples = before ++ e :: after →
        (∀ earlier ∈ before, ¬earlier.Overruns limit strategies) → e.Overruns limit strategies →
        ∃ l u, limit = some l ∧ e.term.atStep (l.toNat + 1) = some u ∧
          (chapter.run ⟨⟨limit, fuel⟩, strategies, suffix⟩).outcome = .error (.evaluation (.limitExceeded l u))) ∧
      ((∀ e ∈ chapter.examples, ¬e.Overruns limit strategies) →
        ∃ results, (chapter.run ⟨⟨limit, fuel⟩, strategies, suffix⟩).outcome = .ok results.flatten ∧
          List.Forall₂ (fun e => e.Reports chapter.name strategies suffix) chapter.examples results) := by
  obtain ⟨enough, outcomes⟩ := exists_outcomes chapter.name limit strategies usable known ends
  refine ⟨enough, fun fuel le => ⟨⟨?_, ?_⟩, ?_, run_of_not_overruns (outcomes fuel le)⟩⟩
  · rintro ⟨error, failed⟩
    by_contra none
    obtain ⟨results, done, _⟩ := run_of_not_overruns (outcomes fuel le) fun e mem overruns => none ⟨e, mem, overruns⟩
    rw [failed] at done
    cases done
  · intro overrun
    obtain ⟨before, first, after, split, within, overruns⟩ := exists_first_overrun overrun
    obtain ⟨l, u, _, _, failed⟩ := run_of_overruns (outcomes fuel le) split within overruns
    exact ⟨_, failed⟩
  · intro before e after
    exact run_of_overruns (outcomes fuel le)

def twoChecks : Chapter where
  name := "checks"
  title := "Two checks"
  examples := [{ name := "ill-typed", term := .app .tru .zero, error := some .any },
    { name := "zero-test", term := .twoSteps, result := some .tru, ty := some .bool }]

/-- Both examples report if nothing limits them; a limit of one step stops the second one. -/
theorem run_reports_unless_limit_stops_twoChecks :
    (∃ fuel, (twoChecks.run ⟨⟨some 1, fuel⟩, [.fullReduction, .singleStep], "'"⟩).outcome =
      .error (.evaluation (.limitExceeded 1 .tru))) ∧
    ∃ fuel results, (twoChecks.run ⟨⟨none, fuel⟩, [.fullReduction, .singleStep], "'"⟩).outcome =
      .ok results.flatten ∧
      List.Forall₂ (fun e => e.Reports "checks" [.fullReduction, .singleStep] "'") twoChecks.examples results := by
  have usable : "'" ≠ "" := by decide
  have known : ∀ e ∈ twoChecks.examples,
      e.term.isKnown = true ∧ ∀ expected, e.result = some expected → expected.isKnown = true := by
    simp [twoChecks, Term.twoSteps, Term.isKnown]
  have ends : ∀ e ∈ twoChecks.examples, e.result ≠ none → ∃ fuel, e.term.normalize fuel ≠ .error .outOfFuel := by
    have settled : Term.twoSteps.normalize 4 ≠ .error .outOfFuel := by decide
    simpa [twoChecks] using ⟨4, settled⟩
  have run : Term.twoSteps.EndsIn 2 (.ok .tru) := .step rfl (.step rfl (.normal ⟨.tru, rfl⟩))
  constructor
  · obtain ⟨enough, runs⟩ :=
      run_reports_unless_limit_stops twoChecks (some 1) [.fullReduction, .singleStep] usable known ends
    obtain ⟨_, first, _⟩ := runs enough (Nat.le_refl enough)
    obtain ⟨l, u, limited, past, failed⟩ := first [_] _ [] rfl (by simp [Example.Overruns])
      ⟨by decide, by decide, 1, rfl, 2, .tru, run, by decide⟩
    cases limited
    cases past
    exact ⟨enough, failed⟩
  · obtain ⟨enough, runs⟩ :=
      run_reports_unless_limit_stops twoChecks none [.fullReduction, .singleStep] usable known ends
    obtain ⟨_, _, all⟩ := runs enough (Nat.le_refl enough)
    obtain ⟨results, done, reports⟩ := all (by simp [Example.Overruns])
    exact ⟨enough, results, done, reports⟩

end Chapter

end Calculi
