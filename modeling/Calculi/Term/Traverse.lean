import Calculi.Term

/-!
The one walk over terms that every operation on variables is built from. It rebuilds the term,
asks the visitor for each variable in left-to-right order, and tells it how many binders it has crossed.
-/
namespace Calculi.Term

/-- Replace every variable by the visitor's answer. The cutoff starts where the caller says and grows by
one under each abstraction; the leftmost unknown form ends the walk. -/
def mapVarsM {m : Type → Type} [Monad m] [MonadExceptOf UnknownForm m]
    (visit : Var → Int → m Term) : Int → Term → m Term
  | cutoff, .var v => visit v cutoff
  | cutoff, .abs hint ann body => return .abs hint ann (← mapVarsM visit (cutoff + 1) body)
  | cutoff, .app fn arg => return .app (← mapVarsM visit cutoff fn) (← mapVarsM visit cutoff arg)
  | _, .tru => return .tru
  | _, .fls => return .fls
  | cutoff, .ite guard thn els =>
    return .ite (← mapVarsM visit cutoff guard) (← mapVarsM visit cutoff thn) (← mapVarsM visit cutoff els)
  | _, .zero => return .zero
  | cutoff, .succ arg => return .succ (← mapVarsM visit cutoff arg)
  | cutoff, .pred arg => return .pred (← mapVarsM visit cutoff arg)
  | cutoff, .isZero arg => return .isZero (← mapVarsM visit cutoff arg)
  | _, .foreign text => throw (UnknownForm.mk text)

end Calculi.Term
