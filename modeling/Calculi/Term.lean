import Calculi.Ty

/-!
Terms shared by the arithmetic, the untyped and the simply typed calculus, with variables as
de Bruijn indices, and the values among them.
-/
namespace Calculi

/-- A variable occurrence. Both numbers are plain integers: nothing forces an occurrence to be bound. -/
structure Var where
  /-- Binders between the occurrence and the one it names; the nearest binder is 0. -/
  index : Int
  /-- Binders in scope where the occurrence was written; printing compares it with the names at hand. -/
  scope : Int
  deriving DecidableEq

inductive Term where
  | var (v : Var)
  /-- The hint only proposes a name for printing; the untyped calculus gives no annotation. -/
  | abs (hint : String) (ann : Option Ty) (body : Term)
  | app (fn arg : Term)
  | tru
  | fls
  | ite (guard thn els : Term)
  | zero
  | succ (arg : Term)
  | pred (arg : Term)
  | isZero (arg : Term)
  /-- A form outside the calculi, known by its text alone. No rule of any kind applies to it. -/
  | foreign (text : String)
  deriving DecidableEq

structure UnknownForm where
  text : String
  deriving DecidableEq

def UnknownForm.message (form : UnknownForm) : String :=
  "Unknown term: " ++ form.text

structure NegativeNumeral where
  asked : Int
  deriving DecidableEq

def NegativeNumeral.message (e : NegativeNumeral) : String :=
  "numeric values are non-negative, got " ++ toString e.asked

namespace Term

def numeral : Nat → Term
  | 0 => .zero
  | n + 1 => .succ (numeral n)

def ofInt (n : Int) : Except NegativeNumeral Term :=
  if n < 0 then .error ⟨n⟩ else .ok (numeral n.toNat)

def isNumeric : Term → Bool
  | .zero => true
  | .succ arg => arg.isNumeric
  | _ => false

def isValue : Term → Bool
  | .abs _ _ _ | .tru | .fls => true
  | t => t.isNumeric

end Term

end Calculi
