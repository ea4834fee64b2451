import Calculi.Reduction.Contraction
import Calculi.Term.Indexed

/-!
One step of call-by-value reduction: contract the term if it is a redex, else step inside the subterm that
evaluation has reached.
-/
namespace Calculi

inductive Stop where
  /-- No rule matches this subterm: it is a value, or evaluation is stuck there. -/
  | noRule (term : Term)
  | unknownForm (form : UnknownForm)
  deriving DecidableEq

def Stop.message : Stop → String
  | .noRule term => "No rule applies to " ++ term.indexed
  | .unknownForm form => form.message

namespace Term

/-- Contract a term at its root, or else do what `inside` says; it is not computed for a redex. -/
@[macro_inline] def contractOr (t : Term) (inside : Except Stop Term) : Except Stop Term :=
  match t.contract? with
  | some contractum => contractum.mapError .unknownForm
  | none => inside

def step : Term → Except Stop Term
  | .app fn arg =>
    contractOr (.app fn arg)
      (if fn.isValue then return .app fn (← step arg) else return .app (← step fn) arg)
  | .ite guard thn els => contractOr (.ite guard thn els) (return .ite (← step guard) thn els)
  | .succ arg => return .succ (← step arg)
  | .pred arg => contractOr (.pred arg) (return .pred (← step arg))
  | .isZero arg => contractOr (.isZero arg) (return .isZero (← step arg))
  | t => throw (.noRule t)

end Term

end Calculi
