import Calculi.Evaluation
import Calculi.Settings.Load

/-!
Evaluation as the settings say. They are looked for anew each time, and nothing is evaluated under bad ones.
-/
namespace Calculi.Settings

inductive EvaluateError where
  | settings (errors : List FieldError)
  | evaluation (error : EvalError)
  deriving DecidableEq

def machine (settings : Settings) (fuel : Nat) : Machine :=
  ⟨settings.stepLimit, fuel⟩

/-- A strategy that the caller gives takes the place of the configured one. -/
def evaluate (read : Reader) (environment : Entries String) (envFile : Option String) (fuel : Nat)
    (strategy : Option Strategy) (t : Term) : Journal Log.Record EvaluateError Term := do
  let around : Surroundings := { environment, envFile }
  let settings ← .ofExcept ((load (around.sources read)).mapError .settings)
  ((settings.machine fuel).evaluate (strategy.getD settings.strategy) t).relabel ([·]) .evaluation

end Calculi.Settings
