import Calculi.Reduction.Trace

/-!
Full reduction by direct recursion. It visits subterms in the order in which single steps reach them and leaves
a term as it is from the first stuck subterm on.
-/
namespace Calculi.Term

def contractum? (t : Term) : Option (Except EvalError Term) :=
  t.contract?.map (·.mapError .unknownForm)

/-- Fuel bounds the depth of the recursion. The arguments of a stuck function stay unevaluated, and so do the
arms of a stuck conditional. -/
def normalize : Nat → Term → Except EvalError Term
  | 0, _ => throw .outOfFuel
  | fuel + 1, t =>
    match t with
    | .app fn arg => do
      let fn' ← normalize fuel fn
      if fn'.isValue then
        let arg' ← normalize fuel arg
        match (Term.app fn' arg').contractum? with
        | some contractum => normalize fuel (← contractum)
        | none => return .app fn' arg'
      else return .app fn' arg
    | .ite guard thn els => do
      let guard' ← normalize fuel guard
      match (Term.ite guard' thn els).contractum? with
      | some contractum => normalize fuel (← contractum)
      | none => return .ite guard' thn els
    | .succ arg => return .succ (← normalize fuel arg)
    | .pred arg => do
      let arg' ← normalize fuel arg
      match (Term.pred arg').contractum? with
      | some contractum => contractum
      | none => return .pred arg'
    | .isZero arg => do
      let arg' ← normalize fuel arg
      match (Term.isZero arg').contractum? with
      | some contractum => contractum
      | none => return .isZero arg'
    | t => return t

end Calculi.Term
