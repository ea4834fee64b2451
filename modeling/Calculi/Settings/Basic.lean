import Calculi.Strategy

/-!
The settings of evaluation and printing, the values they may be given, and what can be wrong with one.
-/
namespace Calculi

structure Settings where
  strategy : Strategy := .fullReduction
  stepLimit : Option Int := none
  suffix : String := "'"
  deriving DecidableEq

namespace Settings

inductive Field where
  | strategy
  | stepLimit
  | suffix
  deriving DecidableEq

def Field.key : Field → String
  | .strategy => "strategy"
  | .stepLimit => "step_limit"
  | .suffix => "fresh_name_suffix"

def Field.variableName (field : Field) : String :=
  "tapl_" ++ field.key

inductive Value where
  | null
  | bool (b : Bool)
  | integer (n : Int)
  /-- The binary floating-point number `mantissa * 2 ^ exponent`. -/
  | real (mantissa exponent : Int)
  /-- A floating-point number past the largest one, of either sign. -/
  | infinite
  | text (s : String)
  /-- A list or a table; no setting takes one, so its contents do not matter. -/
  | collection
  deriving DecidableEq

inductive Flaw where
  | noStrategy
  | belowOne
  | infinite
  | fractional
  | tooLarge
  | noInteger
  | noNumber
  | noText
  | emptyText
  deriving DecidableEq

def Flaw.code : Flaw → String
  | .noStrategy => "enum"
  | .belowOne => "greater_than_equal"
  | .infinite => "finite_number"
  | .fractional => "int_from_float"
  | .tooLarge => "int_parsing_size"
  | .noInteger => "int_parsing"
  | .noNumber => "int_type"
  | .noText => "string_type"
  | .emptyText => "string_too_short"

def Flaw.message : Flaw → String
  | .noStrategy => "Input should be 'single-step' or 'full-reduction'"
  | .belowOne => "Input should be greater than or equal to 1"
  | .infinite => "Input should be a finite number"
  | .fractional => "Input should be a valid integer, got a number with a fractional part"
  | .tooLarge => "Unable to parse input string as an integer, exceeded maximum size"
  | .noInteger => "Input should be a valid integer, unable to parse string as an integer"
  | .noNumber => "Input should be a valid integer"
  | .noText => "Input should be a valid string"
  | .emptyText => "String should have at least 1 character"

structure FieldError where
  field : Field
  flaw : Flaw
  deriving DecidableEq

end Settings

end Calculi
