import Calculi.Text.Blank
import Calculi.Text.Split

/-!
Integers as people write them: a sign, digits that single underscores may group, and decimal places that are
all zero. Leading zeros do not count, and neither does any grouping among them.
-/
namespace Calculi.Settings

inductive NumeralError where
  | malformed
  | tooLong
  deriving DecidableEq

def natOfDigits (digits : List Char) : Nat :=
  digits.foldl (fun n c => 10 * n + (c.toNat - '0'.toNat)) 0

def isLeadDigit (c : Char) : Bool :=
  c.isDigit && c ≠ '0'

/-- A plus sign is dropped, unless a minus sign follows it. -/
def dropPlus? : List Char → Option (List Char)
  | '+' :: '-' :: _ => none
  | '+' :: cs => some cs
  | cs => some cs

/-- A numeral from its first digit that counts on. A minus sign may also follow the zeros, and the last zero
stays if nothing or only decimal places follow. -/
def dropZeros? : List Char → Option (List Char)
  | [] => none
  | '0' :: cs =>
    let isFiller := fun c => c = '0' || c = '_'
    let last := (cs.takeWhile isFiller).getLastD '0'
    match cs.dropWhile isFiller with
    | [] => some [last]
    | '.' :: rest => some (last :: '.' :: rest)
    | c :: rest => if isLeadDigit c || c = '-' then some (c :: rest) else none
  | c :: cs => if isLeadDigit c || c = '-' then some (c :: cs) else none

def dropPlaces (cs : List Char) : List Char :=
  match Text.cutAt '.' cs with
  | some (whole, places) => if !places.isEmpty && places.all (· = '0') then whole else cs
  | none => cs

def ungroup (cs : List Char) : List Char :=
  let groups := Text.splitAt '_' cs
  if groups.all fun group => !group.isEmpty then groups.flatten else cs

def numeralLimit : Nat := 4300

/-- A plain numeral: a minus sign at most, and digits that do not start with a zero. Its length is looked at
before what follows the digits. -/
def readPlain (cs : List Char) : Except NumeralError Int :=
  let (negative, body) := match cs with
    | '-' :: rest => (true, rest)
    | _ => (false, cs)
  match body with
  | ['0'] => .ok 0
  | c :: _ =>
    let digits := body.takeWhile Char.isDigit
    if !isLeadDigit c then .error .malformed
    else if numeralLimit < digits.length + negative.toNat then .error .tooLong
    else if digits.length < body.length then .error .malformed
    else .ok (if negative then -(natOfDigits digits : Int) else natOfDigits digits)
  | [] => .error .malformed

def readInteger (text : String) : Except NumeralError Int :=
  match dropPlus? (Text.trimWith Text.isWhiteSpace text.toList) >>= dropZeros? with
  | some cs => readPlain (ungroup (dropPlaces cs))
  | none => .error .malformed

end Calculi.Settings
