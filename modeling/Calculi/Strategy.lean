import Calculi.Text.Quoted

/-!
The two ways to reach a final term, by the names users give them.
-/
namespace Calculi

inductive Strategy where
  | singleStep
  | fullReduction
  deriving DecidableEq

structure UnknownStrategy where
  text : String
  deriving DecidableEq

def UnknownStrategy.message (e : UnknownStrategy) : String :=
  Text.quote e.text ++ " is not a valid Strategy"

namespace Strategy

def name : Strategy → String
  | .singleStep => "single-step"
  | .fullReduction => "full-reduction"

def all : List Strategy := [.singleStep, .fullReduction]

def ofName? (text : String) : Option Strategy :=
  all.find? fun strategy => strategy.name == text

def ofName (text : String) : Except UnknownStrategy Strategy :=
  match ofName? text with
  | some strategy => .ok strategy
  | none => .error ⟨text⟩

end Strategy

end Calculi
