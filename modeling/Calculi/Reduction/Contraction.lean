import Calculi.Term.Substitution

/-!
The computation rules, each at the root of a term. Both ways of evaluating use them; they differ only in how
they reach a redex.
-/
namespace Calculi.Term

/-- The contractum, if the whole term is a redex. Only a value is passed to an abstraction, and only a numeric
value has a predecessor or is tested for zero. -/
def contract? : Term → Option (Except UnknownForm Term)
  | .app (.abs _ _ body) arg => if arg.isValue then some (body.instantiate arg) else none
  | .ite .tru thn _ => some (.ok thn)
  | .ite .fls _ els => some (.ok els)
  | .pred .zero => some (.ok .zero)
  | .pred (.succ n) => if n.isNumeric then some (.ok n) else none
  | .isZero .zero => some (.ok .tru)
  | .isZero (.succ n) => if n.isNumeric then some (.ok .fls) else none
  | _ => none

end Calculi.Term
