import Calculi.Journal
import Calculi.Log.Record
import Calculi.Reduction.Normalize
import Calculi.Strategy

/-!
Evaluation under a strategy, with the log records that tell how it went.
-/
namespace Calculi

open Log

/-- The limit counts single steps and may be any integer. Full reduction does not consult it; both strategies
are bounded by the fuel. -/
structure Machine where
  stepLimit : Option Int
  fuel : Nat

namespace Evaluation

def record (message : String) : Record :=
  ⟨.debug, "tapl.eval.strategy", "evaluate", message⟩

def reductionRecord (t : Term) : Record :=
  record s!"eval.full_reduction term={t.indexed}"

def stepRecord (n : Nat) (t : Term) : Record :=
  record s!"eval.step n={n} term={t.indexed}"

def normalFormRecord (steps : Nat) (t : Term) : Record :=
  record s!"eval.normal_form steps={steps} term={t.indexed}"

def traceRecords (trace : Trace) : List Record :=
  trace.terms.mapIdx stepRecord ++
    (if trace.failure.isNone then [normalFormRecord trace.rest.length trace.last] else [])

end Evaluation

namespace Machine

def run (machine : Machine) (t : Term) : Trace :=
  t.run machine.fuel machine.stepLimit

def evaluate (machine : Machine) (strategy : Strategy) (t : Term) : Journal Record EvalError Term :=
  match strategy with
  | .fullReduction => ⟨[Evaluation.reductionRecord t], t.normalize machine.fuel⟩
  | .singleStep =>
    let trace := machine.run t
    ⟨Evaluation.traceRecords trace, trace.outcome⟩

end Machine

end Calculi
