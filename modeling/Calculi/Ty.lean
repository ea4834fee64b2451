/-!
Types of the calculi and how they are written. Arrows associate to the right, so an arrow needs
parentheses only where it is itself the domain of an arrow.
-/
namespace Calculi

inductive Ty where
  | bool
  | nat
  | arrow (dom cod : Ty)
  deriving DecidableEq

namespace Ty

def isArrow : Ty → Bool
  | .arrow _ _ => true
  | _ => false

def render : Ty → String
  | .bool => "Bool"
  | .nat => "Nat"
  | .arrow dom cod =>
    (if dom.isArrow then "(" ++ dom.render ++ ")" else dom.render) ++ " -> " ++ cod.render

end Ty

end Calculi
