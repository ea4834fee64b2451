import Calculi.Chapter.Basic
import Calculi.Evaluation
import Calculi.Term.Named

/-!
Running examples. Each expectation gives one result per check; a type error is a verdict, while a step limit,
an unknown form or an unusable suffix ends the whole run.
-/
namespace Calculi

open Log

inductive Check where
  | evaluation (strategy : Strategy)
  | typing
  | typeError
  deriving DecidableEq

def Check.label : Check → String
  | .evaluation strategy => "eval:" ++ strategy.name
  | .typing => "type"
  | .typeError => "type-error"

structure CheckResult where
  chapter : String
  exampleName : String
  check : Check
  passed : Bool
  /-- What was expected and what came instead; empty when the check passed. -/
  detail : String
  deriving DecidableEq

inductive CheckError where
  | evaluation (error : EvalError)
  | rendering (error : RenderError)
  | unknownForm (form : UnknownForm)
  deriving DecidableEq

def CheckError.message : CheckError → String
  | .evaluation error => error.message
  | .rendering error => error.message
  | .unknownForm form => form.message

structure CheckPlan where
  machine : Machine
  strategies : List Strategy
  suffix : String

abbrev Checked := Journal Record CheckError

namespace Example

def textOf (e : Example) (suffix : String) (t : Term) : Except CheckError String :=
  (t.render suffix e.ctx).mapError .rendering

/-- The text of the expected term is needed even when the check passes, so a term that cannot be printed ends
the run either way. -/
def checkEvaluation (e : Example) (chapter : String) (plan : CheckPlan) (expected : Term)
    (strategy : Strategy) : Checked CheckResult := do
  let actual ← (plan.machine.evaluate strategy e.term).relabel (fun r => [r]) .evaluation
  let expectedText ← .ofExcept (e.textOf plan.suffix expected)
  if actual = expected then return ⟨chapter, e.name, .evaluation strategy, true, ""⟩
  else
    let actualText ← .ofExcept (e.textOf plan.suffix actual)
    return ⟨chapter, e.name, .evaluation strategy, false, s!"expected {expectedText}, got {actualText}"⟩

def checkTyping (e : Example) (chapter : String) (expected : Ty) : Except CheckError CheckResult :=
  match e.term.infer e.ctx with
  | .ok actual =>
    if actual = expected then .ok ⟨chapter, e.name, .typing, true, ""⟩
    else .ok ⟨chapter, e.name, .typing, false, s!"expected {expected.render}, got {actual.render}"⟩
  | .error (.illTyped error) => .ok ⟨chapter, e.name, .typing, false, error.message⟩
  | .error (.unknownForm form) => .error (.unknownForm form)

def checkTypeError (e : Example) (chapter : String) (expected : ExpectedError) :
    Except CheckError CheckResult :=
  match e.term.infer e.ctx with
  | .ok actual =>
    .ok ⟨chapter, e.name, .typeError, false, s!"expected {expected.name}, got type {actual.render}"⟩
  | .error (.illTyped error) =>
    if expected.covers error then .ok ⟨chapter, e.name, .typeError, true, ""⟩
    else .ok ⟨chapter, e.name, .typeError, false, s!"expected {expected.name}, got {error.kind.name}"⟩
  | .error (.unknownForm form) => .error (.unknownForm form)

def whenSet {α : Type} (expectation : Option α) (check : α → Checked (List CheckResult)) :
    Checked (List CheckResult) :=
  match expectation with
  | none => pure []
  | some expected => check expected

def run (e : Example) (chapter : String) (plan : CheckPlan) : Checked (List CheckResult) := do
  let evaluations ← whenSet e.result fun expected =>
    plan.strategies.mapM (e.checkEvaluation chapter plan expected)
  let types ← whenSet e.ty fun expected => return [← .ofExcept (e.checkTyping chapter expected)]
  let errors ← whenSet e.error fun expected => return [← .ofExcept (e.checkTypeError chapter expected)]
  return evaluations ++ types ++ errors

end Example

namespace Chapter

def doneRecord (chapter : Chapter) (results : List CheckResult) : Record :=
  let failed := results.countP fun r => !r.passed
  ⟨.debug, "tapl.chapters", "run_chapter",
    s!"chapter.done name={chapter.name} checks={results.length} failed={failed}"⟩

def run (chapter : Chapter) (plan : CheckPlan) : Checked (List CheckResult) := do
  let results ← chapter.examples.mapM fun e => e.run chapter.name plan
  .write [chapter.doneRecord results.flatten]
  return results.flatten

end Chapter

end Calculi
