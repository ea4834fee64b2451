import Calculi.Proofs.TextLaws
import Calculi.Settings.IntegerText

/-!
The texts that are read as positive integers. Such a text may start with a plus sign and with zeros, has digits with
single underscores between some of them, and may end in decimal places that are all zero; blanks around it do not count.
These are all: every other text is refused, or stands for zero or less.
-/
namespace Calculi.Settings

open Text

/-- Digits and the text that they make with single underscores between some of them. -/
inductive Grouped : List Char → List Char → Prop
  | last {c : Char} (isDigit : c.isDigit = true) : Grouped [c] [c]
  | digit {c : Char} {text digits : List Char} (isDigit : c.isDigit = true) (rest : Grouped text digits) :
      Grouped (c :: text) (c :: digits)
  | group {c : Char} {text digits : List Char} (isDigit : c.isDigit = true) (rest : Grouped text digits) :
      Grouped (c :: '_' :: text) (c :: digits)

def isFiller (c : Char) : Bool :=
  c = '0' || c = '_'

def plusSign (plus : Bool) : List Char :=
  if plus then ['+'] else []

def zeroPlaces (places : Nat) : List Char :=
  if places = 0 then [] else '.' :: List.replicate places '0'

structure Numeral where
  plus : Bool
  /-- Zeros in front of the digits that count, with any grouping among them. -/
  zeros : List Char
  body : List Char
  digits : List Char
  /-- How many decimal places follow. -/
  places : Nat
  fills : zeros.all isFiller = true
  starts : zeros.head? ≠ some '_'
  grouped : Grouped body digits
  leads : digits.head?.any isLeadDigit = true
  short : digits.length ≤ numeralLimit

namespace Numeral

def text (numeral : Numeral) : List Char :=
  plusSign numeral.plus ++ (numeral.zeros ++ (numeral.body ++ zeroPlaces numeral.places))

def value (numeral : Numeral) : Nat :=
  natOfDigits numeral.digits

end Numeral

/-! Digits -/

theorem ne_of_isDigit {c d : Char} (isDigit : c.isDigit = true) (other : d.isDigit = false) : c ≠ d := by
  rintro rfl
  rw [isDigit] at other
  cases other

theorem isDigit_of_isLeadDigit {c : Char} (leads : isLeadDigit c = true) : c.isDigit = true :=
  (Bool.and_eq_true_iff.mp leads).1

theorem ne_zero_of_isLeadDigit {c : Char} (leads : isLeadDigit c = true) : c ≠ '0' :=
  of_decide_eq_true (Bool.and_eq_true_iff.mp leads).2

namespace Grouped

variable {text digits : List Char}

theorem allDigits (grouped : Grouped text digits) : ∀ c ∈ digits, c.isDigit = true := by
  induction grouped with
  | last isDigit => simpa using isDigit
  | digit isDigit _ ih => exact List.forall_mem_cons.mpr ⟨isDigit, ih⟩
  | group isDigit _ ih => exact List.forall_mem_cons.mpr ⟨isDigit, ih⟩

theorem head_eq (grouped : Grouped text digits) : text.head? = digits.head? := by
  cases grouped <;> rfl

theorem not_mem (grouped : Grouped text digits) {c : Char} (other : c.isDigit = false) (apart : c ≠ '_') :
    c ∉ text := by
  induction grouped with
  | last isDigit => simpa using (ne_of_isDigit isDigit other).symm
  | digit isDigit _ ih => simpa using ⟨(ne_of_isDigit isDigit other).symm, ih⟩
  | group isDigit _ ih => simpa using ⟨(ne_of_isDigit isDigit other).symm, apart, ih⟩

theorem splitAt_eq (grouped : Grouped text digits) :
    (splitAt '_' text).all (fun group => !group.isEmpty) = true ∧ (splitAt '_' text).flatten = digits := by
  have apart {c : Char} (isDigit : c.isDigit = true) : ¬decide (c = '_') = true := by
    simpa using ne_of_isDigit isDigit (by decide)
  induction grouped with
  | last isDigit => simp [splitAt, splitWhere, apart isDigit]
  | @digit c text digits isDigit _ ih =>
    simp only [splitAt] at ih ⊢
    rw [splitWhere, if_neg (apart isDigit)]
    cases pieces : splitWhere (fun d => decide (d = '_')) text with
    | nil => exact absurd pieces (splitWhere_ne_nil text)
    | cons piece pieces' =>
      rw [pieces] at ih
      simp only [List.all_cons, Bool.and_eq_true] at ih
      simp [← ih.2, ih.1.2]
  | @group c text digits isDigit _ ih =>
    have split : splitAt '_' (c :: '_' :: text) = [c] :: splitAt '_' text := by
      simp [splitAt, splitWhere, apart isDigit]
    rw [split]
    simpa using ih

theorem ungroup_eq (grouped : Grouped text digits) : ungroup text = digits := by
  rw [ungroup, if_pos grouped.splitAt_eq.1, grouped.splitAt_eq.2]

end Grouped

theorem splitAt_cons_of_ne {sep c : Char} (apart : c ≠ sep) {text piece : List Char} {pieces : List (List Char)}
    (split : splitAt sep text = piece :: pieces) : splitAt sep (c :: text) = (c :: piece) :: pieces := by
  unfold splitAt at split ⊢
  rw [splitWhere, if_neg (by simpa using apart), split]

theorem grouped_of_splitAt : ∀ {text : List Char}, (∀ group ∈ splitAt '_' text, group ≠ []) →
    (∀ c ∈ (splitAt '_' text).flatten, c.isDigit = true) → Grouped text (splitAt '_' text).flatten
  | [], filled, _ => absurd rfl (filled [] List.mem_cons_self)
  | c :: text, filled, digits => by
    have apart : c ≠ '_' := by
      rintro rfl
      exact filled [] List.mem_cons_self rfl
    cases text with
    | nil =>
      have split : splitAt '_' [c] = [[c]] := splitAt_cons_of_ne apart rfl
      rw [split] at digits ⊢
      exact .last (digits c List.mem_cons_self)
    | cons d text =>
      by_cases grouping : d = '_'
      · subst grouping
        have split : splitAt '_' (c :: '_' :: text) = [c] :: splitAt '_' text := splitAt_cons_of_ne apart rfl
        rw [split, List.forall_mem_cons] at filled
        rw [split, List.flatten_cons, List.forall_mem_append] at digits
        rw [split]
        exact .group (digits.1 c List.mem_cons_self) (grouped_of_splitAt filled.2 digits.2)
      · cases pieces : splitAt '_' text with
        | nil => exact absurd pieces (splitWhere_ne_nil _)
        | cons piece rest =>
          have inner := splitAt_cons_of_ne grouping pieces
          have split := splitAt_cons_of_ne apart inner
          rw [split, List.forall_mem_cons] at filled
          rw [split, List.flatten_cons, List.cons_append, List.forall_mem_cons] at digits
          rw [split, List.flatten_cons, List.cons_append, ← List.flatten_cons, ← inner]
          rw [← List.flatten_cons, ← inner] at digits
          refine .digit digits.1 (grouped_of_splitAt ?_ digits.2)
          rw [inner, List.forall_mem_cons]
          exact ⟨List.cons_ne_nil d piece, filled.2⟩

theorem grouped_of_ungroup {text : List Char} (digits : ∀ c ∈ ungroup text, c.isDigit = true)
    (nonempty : ungroup text ≠ []) : Grouped text (ungroup text) := by
  by_cases filled : (splitAt '_' text).all (fun group => !group.isEmpty) = true
  · have ungrouped : ungroup text = (splitAt '_' text).flatten := if_pos filled
    rw [ungrouped] at digits ⊢
    apply grouped_of_splitAt _ digits
    intro group member empty
    have some := List.all_eq_true.mp filled group member
    simp [empty] at some
  · -- Such a text stays as it is. With digits alone it would be a single group, which is not empty.
    have ungrouped : ungroup text = text := if_neg filled
    rw [ungrouped] at digits nonempty
    have single : splitAt '_' text = [text] := by
      apply splitWhere_of_none
      intro c member
      exact decide_eq_false (ne_of_isDigit (digits c member) (by decide))
    rw [single] at filled
    simp [nonempty] at filled

/-! Reading a plain numeral -/

theorem zero_lt_of_isLeadDigit {c : Char} (leads : isLeadDigit c = true) : '0'.toNat < c.toNat := by
  obtain ⟨isDigit, apart⟩ := Bool.and_eq_true_iff.mp leads
  have least : '0'.toNat ≤ c.toNat := UInt32.le_iff_toNat_le.mp (of_decide_eq_true (Bool.and_eq_true_iff.mp isDigit).1)
  have differs : '0'.toNat ≠ c.toNat := fun same => of_decide_eq_true apart (Char.toNat_inj.mp same).symm
  omega

theorem le_foldl_digits (digits : List Char) (n : Nat) :
    n ≤ digits.foldl (fun n c => 10 * n + (c.toNat - '0'.toNat)) n := by
  induction digits generalizing n with
  | nil => exact Nat.le_refl n
  | cons c digits ih => exact Nat.le_trans (by omega) (ih (10 * n + (c.toNat - '0'.toNat)))

theorem natOfDigits_pos {c : Char} (leads : isLeadDigit c = true) (digits : List Char) :
    0 < natOfDigits (c :: digits) := by
  have first := zero_lt_of_isLeadDigit leads
  have bound := le_foldl_digits digits (10 * 0 + (c.toNat - '0'.toNat))
  rw [natOfDigits, List.foldl_cons]
  omega

theorem readPlain_unsigned {c : Char} (unsigned : c ≠ '-') (nonzero : c ≠ '0') (cs : List Char) :
    readPlain (c :: cs) =
      if !isLeadDigit c then .error .malformed
      else if numeralLimit < ((c :: cs).takeWhile Char.isDigit).length then .error .tooLong
      else if ((c :: cs).takeWhile Char.isDigit).length < (c :: cs).length then .error .malformed
      else .ok (natOfDigits ((c :: cs).takeWhile Char.isDigit) : Int) := by
  simp [readPlain, unsigned, nonzero]

theorem readPlain_digits {c : Char} {cs : List Char} (leads : isLeadDigit c = true)
    (all : ∀ d ∈ c :: cs, d.isDigit = true) (short : (c :: cs).length ≤ numeralLimit) :
    readPlain (c :: cs) = .ok (natOfDigits (c :: cs) : Int) := by
  have unsigned : c ≠ '-' := ne_of_isDigit (all c List.mem_cons_self) (by decide)
  have whole : (c :: cs).takeWhile Char.isDigit = c :: cs := List.takeWhile_eq_self_iff.mpr all
  rw [readPlain_unsigned unsigned (ne_zero_of_isLeadDigit leads), whole, leads, if_neg (by decide), if_neg (by omega),
    if_neg (by omega)]

theorem le_zero_of_readPlain {c : Char} {cs : List Char} {n : Int} (start : c = '-' ∨ c = '0')
    (read : readPlain (c :: cs) = .ok n) : n ≤ 0 := by
  rcases start with rfl | rfl
  · simp only [readPlain] at read
    split at read
    · cases read
      decide
    · grind
    · cases read
  · simp only [readPlain] at read
    split at read
    · cases read
      decide
    · rename_i d rest _ same
      obtain ⟨rfl, -⟩ := List.cons.inj (show '0' :: cs = d :: rest from same)
      rw [if_pos (by decide)] at read
      cases read
    · cases read

theorem of_readPlain {text : List Char} {n : Int} (read : readPlain text = .ok n) (positive : 0 < n) :
    ∃ c cs, text = c :: cs ∧ isLeadDigit c = true ∧ (∀ d ∈ text, d.isDigit = true) ∧ text.length ≤ numeralLimit ∧
      n = natOfDigits text := by
  cases text with
  | nil => cases read
  | cons c cs =>
    have unsigned : c ≠ '-' := fun minus => Int.not_lt.mpr (le_zero_of_readPlain (.inl minus) read) positive
    have nonzero : c ≠ '0' := fun zero => Int.not_lt.mpr (le_zero_of_readPlain (.inr zero) read) positive
    rw [readPlain_unsigned unsigned nonzero] at read
    split at read
    · cases read
    · split at read
      · cases read
      · split at read
        · cases read
        · rename_i leads short all
          have whole : (c :: cs).takeWhile Char.isDigit = c :: cs :=
            (List.takeWhile_prefix _).eq_of_length_le (Nat.not_lt.mp all)
          rw [whole] at read short
          cases read
          exact ⟨c, cs, rfl, by simpa using leads, List.takeWhile_eq_self_iff.mp whole, Nat.not_lt.mp short, rfl⟩

/-! Dropping what does not count -/

theorem dropPlaces_append {body : List Char} (apart : '.' ∉ body) (k : Nat) :
    dropPlaces (body ++ zeroPlaces k) = body := by
  cases k with
  | zero =>
    have none : zeroPlaces 0 = [] := rfl
    simp only [none, List.append_nil, dropPlaces, cutAt_eq_none_iff.mpr apart]
  | succ k =>
    have cut : cutAt '.' (body ++ zeroPlaces (k + 1)) = some (body, List.replicate (k + 1) '0') := cutAt_append apart _
    simp [dropPlaces, cut]

theorem exists_of_dropPlaces {text body : List Char} (dropped : dropPlaces text = body) (apart : '.' ∉ body) :
    ∃ k, text = body ++ zeroPlaces k := by
  unfold dropPlaces at dropped
  split at dropped
  · rename_i whole places cut
    obtain ⟨rfl, _⟩ := eq_of_cutAt cut
    split at dropped
    · rename_i zeros
      obtain ⟨filled, zero⟩ := Bool.and_eq_true_iff.mp zeros
      subst dropped
      refine ⟨places.length, ?_⟩
      have nonempty : places ≠ [] := by simpa using filled
      have same : places = List.replicate places.length '0' :=
        List.eq_replicate_of_mem fun c member => of_decide_eq_true (List.all_eq_true.mp zero c member)
      rw [zeroPlaces, if_neg (mt List.length_eq_zero_iff.mp nonempty), ← same]
    · subst dropped
      exact absurd List.mem_append_cons_self apart
  · subst dropped
    exact ⟨0, by simp [zeroPlaces]⟩

theorem not_isFiller {c : Char} (leads : isLeadDigit c = true) : ¬isFiller c = true := by
  simpa [isFiller] using ⟨ne_zero_of_isLeadDigit leads, ne_of_isDigit (isDigit_of_isLeadDigit leads) (by decide)⟩

theorem eq_zero_of_fills {c : Char} {fill : List Char} (fills : (c :: fill).all isFiller = true)
    (starts : (c :: fill).head? ≠ some '_') : c = '0' := by
  have first : isFiller c = true := List.all_eq_true.mp fills c List.mem_cons_self
  have either : c = '0' ∨ c = '_' := by simpa [isFiller] using first
  exact either.resolve_right fun underscore => starts (congrArg some underscore)

theorem dropZeros?_append {zeros : List Char} (fills : zeros.all isFiller = true) (starts : zeros.head? ≠ some '_')
    {c : Char} (leads : isLeadDigit c = true) (cs : List Char) : dropZeros? (zeros ++ c :: cs) = some (c :: cs) := by
  have counts : (isLeadDigit c || decide (c = '-')) = true := by rw [leads, Bool.true_or]
  have nonzero : c ≠ '0' := ne_zero_of_isLeadDigit leads
  have noPoint : c ≠ '.' := ne_of_isDigit (isDigit_of_isLeadDigit leads) (by decide)
  cases zeros with
  | nil => rw [List.nil_append, dropZeros?.eq_3 _ _ nonzero, if_pos counts]
  | cons d fill =>
    obtain rfl := eq_zero_of_fills fills starts
    rw [List.all_cons, Bool.and_eq_true] at fills
    have rest : (fill ++ c :: cs).dropWhile (fun c => decide (c = '0') || decide (c = '_')) = c :: cs := by
      change (fill ++ c :: cs).dropWhile isFiller = c :: cs
      rw [List.dropWhile_append_of_pos (List.all_eq_true.mp fills.2), List.dropWhile_cons_of_neg (not_isFiller leads)]
    rw [List.cons_append, dropZeros?, rest]
    split
    · cases ‹c :: cs = []›
    · exact absurd (List.cons.inj ‹_›).1 noPoint
    · cases ‹c :: cs = _›
      rw [if_pos counts]

theorem isFiller_getLastD (fill : List Char) (fills : ∀ c ∈ fill, isFiller c = true) :
    isFiller (fill.getLastD '0') = true := by
  rcases List.eq_nil_or_concat fill with rfl | ⟨front, c, rfl⟩
  · rfl
  · simpa using fills c (by simp)

theorem exists_of_dropZeros? {text : List Char} {c : Char} {cs : List Char} (dropped : dropZeros? text = some (c :: cs))
    (leads : isLeadDigit c = true) :
    ∃ zeros, zeros.all isFiller = true ∧ zeros.head? ≠ some '_' ∧ text = zeros ++ c :: cs := by
  unfold dropZeros? at dropped
  split at dropped
  · cases dropped
  · rename_i text
    have fills : ∀ d ∈ text.takeWhile isFiller, isFiller d = true := fun d => List.mem_takeWhile_imp
    have filler := isFiller_getLastD _ fills
    have whole := text.takeWhile_append_dropWhile (p := isFiller)
    dsimp only at dropped
    split at dropped
    · cases dropped
      exact absurd filler (not_isFiller leads)
    · cases dropped
      exact absurd filler (not_isFiller leads)
    · rename_i rest
      split at dropped
      · cases dropped
        rw [show text.dropWhile isFiller = _ from rest] at whole
        refine ⟨'0' :: text.takeWhile isFiller, ?_, by simp, by rw [List.cons_append, whole]⟩
        rw [List.all_cons]
        exact Bool.and_eq_true_iff.mpr ⟨rfl, List.all_eq_true.mpr fills⟩
      · cases dropped
  · split at dropped
    · cases dropped
      exact ⟨[], rfl, by simp, rfl⟩
    · cases dropped

theorem dropPlus?_append (plus : Bool) {c : Char} (isDigit : c.isDigit = true) (cs : List Char) :
    dropPlus? (plusSign plus ++ c :: cs) = some (c :: cs) := by
  have noPlus : c ≠ '+' := ne_of_isDigit isDigit (by decide)
  have noMinus : c ≠ '-' := ne_of_isDigit isDigit (by decide)
  cases plus with
  | true => simp [plusSign, dropPlus?, noMinus]
  | false => simp [plusSign, dropPlus?, noPlus]

theorem exists_of_dropPlus? {text rest : List Char} (dropped : dropPlus? text = some rest) :
    ∃ plus, text = plusSign plus ++ rest := by
  unfold dropPlus? at dropped
  split at dropped
  · cases dropped
  · cases dropped
    exact ⟨true, rfl⟩
  · cases dropped
    exact ⟨false, rfl⟩

/-! Numerals -/

theorem Numeral.exists_lead (numeral : Numeral) :
    ∃ c text digits, numeral.body = c :: text ∧ numeral.digits = c :: digits ∧ isLeadDigit c = true := by
  have leads := numeral.leads
  have grouped := numeral.grouped
  generalize numeral.body = body, numeral.digits = digits at leads grouped
  cases grouped with
  | last | digit | group => exact ⟨_, _, _, rfl, rfl, leads⟩

theorem Numeral.value_pos (numeral : Numeral) : 0 < numeral.value := by
  obtain ⟨c, _, digits, _, same, leads⟩ := numeral.exists_lead
  rw [value, same]
  exact natOfDigits_pos leads digits

theorem Numeral.readInteger_eq {s : String} (numeral : Numeral)
    (written : trimWith isWhiteSpace s.toList = numeral.text) : readInteger s = .ok (numeral.value : Int) := by
  obtain ⟨c, text, digits, body, same, leads⟩ := numeral.exists_lead
  have grouped := numeral.grouped
  have noPoint : '.' ∉ numeral.body := grouped.not_mem (by decide) (by decide)
  have plain : readPlain numeral.digits = .ok (numeral.value : Int) := by
    have all := grouped.allDigits
    have short := numeral.short
    rw [value]
    rw [same] at all short ⊢
    exact readPlain_digits leads all short
  have zeros : dropZeros? (numeral.zeros ++ (numeral.body ++ zeroPlaces numeral.places)) =
      some (numeral.body ++ zeroPlaces numeral.places) := by
    rw [body]
    exact dropZeros?_append numeral.fills numeral.starts leads _
  have plus : dropPlus? numeral.text = some (numeral.zeros ++ (numeral.body ++ zeroPlaces numeral.places)) := by
    have fills := numeral.fills
    have starts := numeral.starts
    rw [Numeral.text, body]
    cases zeros : numeral.zeros with
    | nil => exact dropPlus?_append numeral.plus (isDigit_of_isLeadDigit leads) _
    | cons d fill =>
      rw [zeros] at fills starts
      obtain rfl := eq_zero_of_fills fills starts
      exact dropPlus?_append numeral.plus (by decide) _
  have read : dropPlus? (trimWith isWhiteSpace s.toList) >>= dropZeros? =
      some (numeral.body ++ zeroPlaces numeral.places) := by
    rw [written, plus]
    exact zeros
  simp only [readInteger, read, dropPlaces_append noPoint, grouped.ungroup_eq, plain]

/-- A text is read as a positive number exactly if it is a numeral for it, with blanks around it or not. -/
theorem readInteger_eq_ok_iff {s : String} {n : Int} (positive : 0 < n) :
    readInteger s = .ok n ↔
      ∃ numeral : Numeral, trimWith isWhiteSpace s.toList = numeral.text ∧ n = numeral.value := by
  constructor
  · intro read
    unfold readInteger at read
    split at read
    · rename_i afterZeros dropped
      obtain ⟨afterPlus, dropped, zeros⟩ := Option.bind_eq_some_iff.mp dropped
      obtain ⟨c, cs, same, leads, all, short, value⟩ := of_readPlain read positive
      have grouped : Grouped (dropPlaces afterZeros) (ungroup (dropPlaces afterZeros)) :=
        grouped_of_ungroup all (by rw [same]; exact List.cons_ne_nil c cs)
      obtain ⟨places, fraction⟩ := exists_of_dropPlaces rfl (grouped.not_mem (by decide) (by decide))
      obtain ⟨text, body⟩ : ∃ text, dropPlaces afterZeros = c :: text := by
        have head := grouped.head_eq
        rw [same] at head
        exact List.head?_eq_some_iff.mp head
      rw [fraction, body, List.cons_append] at zeros
      obtain ⟨zeros, fills, starts, afterPlusSame⟩ := exists_of_dropZeros? zeros leads
      obtain ⟨plus, trimmed⟩ := exists_of_dropPlus? dropped
      have first : (ungroup (dropPlaces afterZeros)).head?.any isLeadDigit = true := by
        rw [same]
        exact leads
      rw [afterPlusSame, ← List.cons_append, ← body] at trimmed
      exact ⟨⟨plus, zeros, _, _, places, fills, starts, grouped, first, short⟩, trimmed, value⟩
    · cases read
  · rintro ⟨numeral, written, rfl⟩
    exact numeral.readInteger_eq written

end Calculi.Settings
