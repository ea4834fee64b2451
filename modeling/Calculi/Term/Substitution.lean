import Calculi.Term.Traverse

/-!
Shifting and substitution. A variable whose index is below the cutoff is bound inside the walked term;
the others are free where the walk began.
-/
namespace Calculi

/-- Every scope grows by `d`, and so does the index of a variable that is free at this cutoff. -/
def Var.shift (d cutoff : Int) (v : Var) : Var :=
  if cutoff ≤ v.index then ⟨v.index + d, v.scope + d⟩ else ⟨v.index, v.scope + d⟩

namespace Term

def shift (d : Int) (t : Term) : Except UnknownForm Term :=
  t.mapVarsM (fun v cutoff => return .var (v.shift d cutoff)) 0

/-- Put `s` for the free variable `j`; under binders the copy is shifted past them. -/
def substitute (t : Term) (j : Int) (s : Term) : Except UnknownForm Term :=
  t.mapVarsM (fun v cutoff => if v.index = j + cutoff then s.shift cutoff else return .var v) 0

/-- Put `s` for the variable of the abstraction whose body this is, and drop its binder: the argument
moves under the binder first, and everything left moves out from under it. -/
def instantiate (body s : Term) : Except UnknownForm Term := do
  let moved ← s.shift 1
  let replaced ← body.substitute 0 moved
  replaced.shift (-1)

end Term

end Calculi
