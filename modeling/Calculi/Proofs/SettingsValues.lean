import Calculi.Proofs.NumeralText
import Calculi.Settings.Load
import Mathlib.Algebra.Order.Ring.Rat

/-!
The values that the fields of the settings can be given, and what the settings then say. Reading a value accepts exactly
these: the name of a strategy, a text that is not empty, and for a limit whatever stands for a positive integer.
-/
namespace Calculi.Settings

inductive Value.Limits : Value → Option Int → Prop
  | unlimited : Limits .null none
  | one : Limits (.bool true) (some 1)
  | integer {n : Int} (positive : 1 ≤ n) : Limits (.integer n) (some n)
  | real {mantissa exponent n : Int} (whole : (mantissa : ℚ) * 2 ^ exponent = n) (positive : 1 ≤ n)
      (small : n < 2 ^ 63) : Limits (.real mantissa exponent) (some n)
  | numeral {s : String} (numeral : Numeral) (written : Text.trimWith Text.isWhiteSpace s.toList = numeral.text) :
      Limits (.text s) (some numeral.value)

theorem Value.Limits.one_le {value : Value} {limit : Option Int} (limits : value.Limits limit) :
    ∀ n ∈ limit, 1 ≤ n := by
  cases limits with
  | unlimited => simp
  | one => simp
  | integer positive => simpa using positive
  | real _ positive _ => simpa using positive
  | numeral numeral _ =>
    have positive := numeral.value_pos
    simp only [Option.mem_def, Option.some.injEq, forall_eq']
    omega

def Takes (settings : Settings) (value : Value) : Field → Prop
  | .strategy => value = .text settings.strategy.name
  | .stepLimit => value.Limits settings.stepLimit
  | .suffix => value = .text settings.suffix ∧ settings.suffix ≠ ""

def Leaves (settings : Settings) : Field → Prop
  | .strategy => settings.strategy = .fullReduction
  | .stepLimit => settings.stepLimit = none
  | .suffix => settings.suffix = "'"

def Follows (settings : Settings) (field : Field) : Option Value → Prop
  | some value => settings.Takes value field
  | none => settings.Leaves field

def Field.Accepts (field : Field) (value : Value) : Prop :=
  ∃ settings : Settings, settings.Takes value field

theorem ofName?_eq_some_iff {text : String} {strategy : Strategy} :
    Strategy.ofName? text = some strategy ↔ text = strategy.name := by
  constructor
  · intro found
    rw [Strategy.ofName?] at found
    have named := List.find?_some found
    exact (beq_iff_eq.mp named).symm
  · rintro rfl
    cases strategy <;> decide

theorem readStrategy_eq_ok_iff {value : Value} {strategy : Strategy} :
    readStrategy value = .ok strategy ↔ value = .text strategy.name := by
  cases value with
  | text s =>
    rw [Value.text.injEq, ← ofName?_eq_some_iff, readStrategy]
    cases Strategy.ofName? s with
    | none => simp
    | some found => simp
  | _ => simp [readStrategy]

theorem readSuffix_eq_ok_iff {value : Value} {suffix : String} :
    readSuffix value = .ok suffix ↔ value = .text suffix ∧ suffix ≠ "" := by
  cases value with
  | text s =>
    by_cases empty : s = ""
    · subst empty
      simp [readSuffix]
    · have nonempty : ¬s.isEmpty = true := fun isEmpty => empty (String.isEmpty_iff.mp isEmpty)
      rw [readSuffix, if_neg nonempty, Except.ok.injEq, Value.text.injEq]
      constructor
      · rintro rfl
        exact ⟨rfl, empty⟩
      · exact fun same => same.1
  | _ => simp [readSuffix]

theorem atLeastOne_eq_ok_iff {n : Int} {limit : Option Int} : atLeastOne n = .ok limit ↔ 1 ≤ n ∧ limit = some n := by
  unfold atLeastOne
  split
  · simp_all [eq_comm]
  · simp_all

theorem wholeReal?_eq_some_iff {mantissa exponent n : Int} :
    wholeReal? mantissa exponent = some n ↔ (mantissa : ℚ) * 2 ^ exponent = n := by
  by_cases up : 0 ≤ exponent
  · obtain ⟨k, rfl⟩ := Int.eq_ofNat_of_zero_le up
    rw [wholeReal?, if_pos up, Option.some.injEq, zpow_natCast]
    change mantissa * 2 ^ k = n ↔ _
    norm_cast
  · obtain ⟨k, rfl⟩ : ∃ k : Nat, exponent = -k := ⟨(-exponent).toNat, by omega⟩
    have unit : (0 : Int) < 2 ^ k := Int.pow_pos (by decide)
    have moved : (mantissa : ℚ) * 2 ^ (-(k : Int)) = n ↔ mantissa = n * 2 ^ k := by
      rw [zpow_neg, zpow_natCast, ← div_eq_mul_inv, div_eq_iff (pow_ne_zero k two_ne_zero)]
      norm_cast
    rw [moved, wholeReal?, if_neg up, Int.neg_neg, Int.toNat_natCast]
    change (if mantissa % 2 ^ k = 0 then some (mantissa / 2 ^ k) else none) = some n ↔ _
    constructor
    · intro whole
      split at whole
      · rename_i divides
        cases whole
        exact (Int.ediv_mul_cancel (Int.dvd_of_emod_eq_zero divides)).symm
      · cases whole
    · rintro rfl
      rw [if_pos (Int.mul_emod_left _ _), Int.mul_ediv_cancel _ unit.ne']

theorem readLimit_real_eq_ok_iff {mantissa exponent : Int} {limit : Option Int} :
    readLimit (.real mantissa exponent) = .ok limit ↔
      ∃ n : Int, (mantissa : ℚ) * 2 ^ exponent = n ∧ 1 ≤ n ∧ n < 2 ^ 63 ∧ limit = some n := by
  simp only [← wholeReal?_eq_some_iff, readLimit]
  cases wholeReal? mantissa exponent with
  | none => simp
  | some n =>
    have bound : wordBound = 2 ^ 63 := rfl
    simp only [bound, Option.some.injEq, exists_eq_left']
    split
    · rename_i within
      rw [atLeastOne_eq_ok_iff]
      exact ⟨fun ⟨positive, same⟩ => ⟨positive, within.2, same⟩, fun ⟨positive, _, same⟩ => ⟨positive, same⟩⟩
    · rename_i beyond
      constructor
      · intro read
        cases read
      · rintro ⟨positive, small, _⟩
        exact absurd ⟨by omega, small⟩ beyond

theorem readLimit_text_eq_ok_iff {s : String} {limit : Option Int} :
    readLimit (.text s) = .ok limit ↔ ∃ numeral : Numeral,
      Text.trimWith Text.isWhiteSpace s.toList = numeral.text ∧ limit = some (numeral.value : Int) := by
  constructor
  · intro read
    simp only [readLimit] at read
    split at read
    · rename_i n isInteger
      obtain ⟨positive, rfl⟩ := atLeastOne_eq_ok_iff.mp read
      obtain ⟨numeral, written, rfl⟩ := (readInteger_eq_ok_iff (by omega)).mp isInteger
      exact ⟨numeral, written, rfl⟩
    · cases read
    · cases read
  · rintro ⟨numeral, written, rfl⟩
    have positive := numeral.value_pos
    simp only [readLimit, numeral.readInteger_eq written]
    exact atLeastOne_eq_ok_iff.mpr ⟨by omega, rfl⟩

theorem readLimit_eq_ok_iff {value : Value} {limit : Option Int} :
    readLimit value = .ok limit ↔ value.Limits limit := by
  constructor
  · intro read
    cases value with
    | null =>
      cases read
      exact .unlimited
    | bool b =>
      obtain ⟨positive, rfl⟩ := atLeastOne_eq_ok_iff.mp read
      cases b with
      | false => exact absurd positive (by decide)
      | true => exact .one
    | integer n =>
      obtain ⟨positive, rfl⟩ := atLeastOne_eq_ok_iff.mp read
      exact .integer positive
    | real mantissa exponent =>
      obtain ⟨n, whole, positive, small, rfl⟩ := readLimit_real_eq_ok_iff.mp read
      exact .real whole positive small
    | text s =>
      obtain ⟨numeral, written, rfl⟩ := readLimit_text_eq_ok_iff.mp read
      exact .numeral numeral written
    | infinite => cases read
    | collection => cases read
  · intro limits
    cases limits with
    | unlimited => rfl
    | one => rfl
    | integer positive => exact atLeastOne_eq_ok_iff.mpr ⟨positive, rfl⟩
    | real whole positive small => exact readLimit_real_eq_ok_iff.mpr ⟨_, whole, positive, small, rfl⟩
    | numeral numeral written => exact readLimit_text_eq_ok_iff.mpr ⟨numeral, written, rfl⟩

/-! Flaws -/

def flawOf? {α : Type} : Except Flaw α → Option Flaw
  | .ok _ => none
  | .error flaw => some flaw

theorem flawOf?_eq_none_iff {α : Type} {outcome : Except Flaw α} : flawOf? outcome = none ↔ ∃ a, outcome = .ok a := by
  cases outcome with
  | ok a => simp [flawOf?]
  | error flaw => simp [flawOf?]

def Field.flaw? (value : Value) : Field → Option Flaw
  | .strategy => flawOf? (readStrategy value)
  | .stepLimit => flawOf? (readLimit value)
  | .suffix => flawOf? (readSuffix value)

theorem Field.flaw?_eq_none_iff {field : Field} {value : Value} : field.flaw? value = none ↔ field.Accepts value := by
  cases field with
  | strategy =>
    simp only [flaw?, flawOf?_eq_none_iff, readStrategy_eq_ok_iff]
    exact ⟨fun ⟨chosen, same⟩ => ⟨{ strategy := chosen }, same⟩, fun ⟨settings, takes⟩ => ⟨settings.strategy, takes⟩⟩
  | stepLimit =>
    simp only [flaw?, flawOf?_eq_none_iff, readLimit_eq_ok_iff]
    exact ⟨fun ⟨limit, limits⟩ => ⟨{ stepLimit := limit }, limits⟩,
      fun ⟨settings, takes⟩ => ⟨settings.stepLimit, takes⟩⟩
  | suffix =>
    simp only [flaw?, flawOf?_eq_none_iff, readSuffix_eq_ok_iff]
    exact ⟨fun ⟨text, same⟩ => ⟨{ suffix := text }, same⟩, fun ⟨settings, takes⟩ => ⟨settings.suffix, takes⟩⟩

end Calculi.Settings
