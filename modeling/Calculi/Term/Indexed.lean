import Calculi.Term

/-!
The written form of a term with its indices left bare. It needs no context and never fails, so messages
and log lines use it.
-/
namespace Calculi.Term

def indexed : Term → String
  | .var v => "x" ++ toString v.index
  | .abs hint none body => "λ" ++ hint ++ "." ++ body.indexed
  | .abs hint (some ty) body => "λ(" ++ hint ++ ":" ++ ty.render ++ ")." ++ body.indexed
  | .app fn arg => "(" ++ fn.indexed ++ " " ++ arg.indexed ++ ")"
  | .tru => "true"
  | .fls => "false"
  | .ite guard thn els => "(if " ++ guard.indexed ++ " then " ++ thn.indexed ++ " else " ++ els.indexed ++ ")"
  | .zero => "0"
  | .succ arg => "(succ " ++ arg.indexed ++ ")"
  | .pred arg => "(pred " ++ arg.indexed ++ ")"
  | .isZero arg => "(iszero " ++ arg.indexed ++ ")"
  | .foreign text => text

end Calculi.Term
