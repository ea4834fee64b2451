import Calculi.Reduction.Step

/-!
Single-step runs. A run shows every term it passes through and says why it ended; a step limit ends it at
the first term past the limit, which it names but does not show.
-/
namespace Calculi

inductive EvalError where
  | limitExceeded (limit : Int) (term : Term)
  | unknownForm (form : UnknownForm)
  /-- The fuel that bounds every evaluation ran out; more of it may give an answer. -/
  | outOfFuel
  deriving DecidableEq

def EvalError.message : EvalError → String
  | .limitExceeded limit _ => s!"Evaluation did not terminate within {limit} steps"
  | .unknownForm form => form.message
  | .outOfFuel => "Evaluation ran out of fuel"

structure Trace where
  first : Term
  rest : List Term
  failure : Option EvalError
  deriving DecidableEq

namespace Trace

def terms (trace : Trace) : List Term :=
  trace.first :: trace.rest

def last (trace : Trace) : Term :=
  trace.rest.getLastD trace.first

def prepend (t : Term) (trace : Trace) : Trace :=
  ⟨t, trace.terms, trace.failure⟩

def outcome (trace : Trace) : Except EvalError Term :=
  match trace.failure with
  | none => .ok trace.last
  | some error => .error error

end Trace

def pastLimit (limit : Option Int) (steps : Nat) : Option Int :=
  limit.filter fun l => l < steps

namespace Term

def runFrom (limit : Option Int) : Nat → Nat → Term → Trace
  | 0, _, t => ⟨t, [], some .outOfFuel⟩
  | fuel + 1, taken, t =>
    match t.step with
    | .error (.noRule _) => ⟨t, [], none⟩
    | .error (.unknownForm form) => ⟨t, [], some (.unknownForm form)⟩
    | .ok next =>
      match pastLimit limit (taken + 1) with
      | some l => ⟨t, [], some (.limitExceeded l next)⟩
      | none => (runFrom limit fuel (taken + 1) next).prepend t

/-- A limited run needs fuel for one step past its limit and no more, so only an unlimited run uses what it
is given. -/
def run (fuel : Nat) (limit : Option Int) (t : Term) : Trace :=
  match limit with
  | none => t.runFrom none fuel 0
  | some l => t.runFrom (some l) (l.toNat + 1) 0

end Term

end Calculi
