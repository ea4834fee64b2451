import Calculi.Settings.Assignment
import Calculi.Settings.Basic
import Calculi.Settings.IntegerText
import Calculi.Text.Casing

/-!
Settings from their sources. Each field takes its value from the first source that has one: what the caller
says, the environment, the file of variables, the default. Only the value that wins is looked at, and every
field with a bad one is reported.
-/
namespace Calculi.Settings

structure Sources where
  /-- Keyed by the fields' own keys; other keys are ignored. -/
  overrides : Entries Value := []
  environment : Entries String := []
  file : Entries (Option String) := []

structure Surroundings where
  overrides : Entries Value := []
  environment : Entries String := []
  envFile : Option String := none

def Surroundings.assignments (read : Reader) (around : Surroundings) : List Assignment :=
  (around.envFile.map read).getD []

def Surroundings.sources (read : Reader) (around : Surroundings) : Sources where
  overrides := around.overrides
  environment := around.environment
  file := Assignment.values around.environment (around.assignments read)

/-- Variables are text, and the text `null` stands for no value. -/
def Value.ofVariable (text : String) : Value :=
  if text = "null" then .null else .text text

/-- The last entry whose name is the field's variable in any letter case. -/
def lookupVariable {α : Type} (field : Field) (table : Entries α) : Option α :=
  (table.reverse.find? fun entry => String.ofList (Text.lower entry.1.toList) = field.variableName).map (·.2)

def Sources.value? (sources : Sources) (field : Field) : Option Value :=
  (sources.overrides.get? field.key)
    <|> (lookupVariable field sources.environment).map .ofVariable
    <|> (lookupVariable field sources.file).join.map .ofVariable

def readStrategy : Value → Except Flaw Strategy
  | .text s => match Strategy.ofName? s with
    | some strategy => .ok strategy
    | none => .error .noStrategy
  | _ => .error .noStrategy

def atLeastOne (n : Int) : Except Flaw (Option Int) :=
  if 1 ≤ n then .ok (some n) else .error .belowOne

def wholeReal? (mantissa exponent : Int) : Option Int :=
  if 0 ≤ exponent then some (mantissa * Int.pow 2 exponent.toNat)
  else
    let unit := Int.pow 2 (-exponent).toNat
    if mantissa % unit = 0 then some (mantissa / unit) else none

/-- Floating-point numbers have to lie strictly within the 64-bit range; other integers may be of any size. -/
def wordBound : Int := Int.pow 2 63

def readLimit : Value → Except Flaw (Option Int)
  | .null => .ok none
  | .bool b => atLeastOne (if b then 1 else 0)
  | .integer n => atLeastOne n
  | .real mantissa exponent =>
    match wholeReal? mantissa exponent with
    | some n => if -wordBound < n ∧ n < wordBound then atLeastOne n else .error .tooLarge
    | none => .error .fractional
  | .infinite => .error .infinite
  | .text s =>
    match readInteger s with
    | .ok n => atLeastOne n
    | .error .malformed => .error .noInteger
    | .error .tooLong => .error .tooLarge
  | .collection => .error .noNumber

def readSuffix : Value → Except Flaw String
  | .text s => if s.isEmpty then .error .emptyText else .ok s
  | _ => .error .noText

def Sources.field {α : Type} (sources : Sources) (field : Field) (read : Value → Except Flaw α) (unset : α) :
    Except FieldError α :=
  match sources.value? field with
  | none => .ok unset
  | some value => (read value).mapError fun flaw => ⟨field, flaw⟩

def errorOf? {α : Type} : Except FieldError α → Option FieldError
  | .ok _ => none
  | .error e => some e

/-- Fields do not affect each other: all are read, and the errors are those of the fields, in order. -/
def load (sources : Sources) : Except (List FieldError) Settings :=
  let defaults : Settings := {}
  let strategy := sources.field .strategy readStrategy defaults.strategy
  let stepLimit := sources.field .stepLimit readLimit defaults.stepLimit
  let suffix := sources.field .suffix readSuffix defaults.suffix
  match strategy, stepLimit, suffix with
  | .ok strategy, .ok stepLimit, .ok suffix => .ok { strategy, stepLimit, suffix }
  | _, _, _ => .error ([errorOf? strategy, errorOf? stepLimit, errorOf? suffix].filterMap id)

end Calculi.Settings
