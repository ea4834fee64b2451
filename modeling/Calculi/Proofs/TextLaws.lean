import Calculi.Text.Blank
import Calculi.Text.Casing
import Calculi.Text.Split
import Mathlib.Data.List.DropRight

/-!
How cutting, trimming and casing of texts go together. Separators stay where they are when a text changes its case, and
what stands on one side of a comma has no part in the case of the other side.
-/
namespace Calculi.Text

/-! Splitting -/

section

variable {isSep : Char → Bool}

theorem splitWhere_ne_nil (cs : List Char) : splitWhere isSep cs ≠ [] := by
  cases cs with
  | nil => exact List.cons_ne_nil _ _
  | cons c cs =>
    rw [splitWhere]
    split
    · exact List.cons_ne_nil _ _
    · split
      · exact List.cons_ne_nil _ _
      · exact List.cons_ne_nil _ _

theorem splitWhere_append_sep {sep : Char} (isSeparator : isSep sep = true) (front back : List Char) :
    splitWhere isSep (front ++ sep :: back) = splitWhere isSep front ++ splitWhere isSep back := by
  induction front with
  | nil => simp [splitWhere, isSeparator]
  | cons c cs ih =>
    rw [List.cons_append, splitWhere, splitWhere, ih]
    by_cases here : isSep c = true
    · rw [if_pos here, if_pos here, List.cons_append]
    · rw [if_neg here, if_neg here]
      cases pieces : splitWhere isSep cs with
      | nil => exact absurd pieces (splitWhere_ne_nil cs)
      | cons piece pieces => rfl

theorem splitWhere_of_none {cs : List Char} (none : ∀ c ∈ cs, isSep c = false) : splitWhere isSep cs = [cs] := by
  induction cs with
  | nil => rfl
  | cons c cs ih =>
    rw [List.forall_mem_cons] at none
    rw [splitWhere, if_neg (Bool.eq_false_iff.mp none.1), ih none.2]

theorem mem_of_mem_splitWhere {cs piece : List Char} (isPiece : piece ∈ splitWhere isSep cs) {c : Char}
    (inside : c ∈ piece) : c ∈ cs ∧ isSep c = false := by
  induction cs generalizing piece with
  | nil =>
    obtain rfl := List.mem_singleton.mp isPiece
    cases inside
  | cons d cs ih =>
    rw [splitWhere] at isPiece
    by_cases here : isSep d = true
    · rw [if_pos here] at isPiece
      rcases List.mem_cons.mp isPiece with rfl | later
      · cases inside
      · exact ⟨List.mem_cons_of_mem d (ih later inside).1, (ih later inside).2⟩
    · rw [if_neg here] at isPiece
      cases pieces : splitWhere isSep cs with
      | nil => exact absurd pieces (splitWhere_ne_nil cs)
      | cons first rest =>
        rw [pieces] at ih isPiece
        rcases List.mem_cons.mp isPiece with rfl | later
        · rcases List.mem_cons.mp inside with rfl | further
          · exact ⟨List.mem_cons_self, Bool.eq_false_iff.mpr here⟩
          · obtain ⟨mem, apart⟩ := ih List.mem_cons_self further
            exact ⟨List.mem_cons_of_mem d mem, apart⟩
        · obtain ⟨mem, apart⟩ := ih (List.mem_cons_of_mem first later) inside
          exact ⟨List.mem_cons_of_mem d mem, apart⟩

theorem exists_mem_splitWhere {cs : List Char} {c : Char} (mem : c ∈ cs) (apart : isSep c = false) :
    ∃ piece ∈ splitWhere isSep cs, c ∈ piece := by
  induction cs with
  | nil => cases mem
  | cons d cs ih =>
    rw [splitWhere]
    by_cases here : isSep d = true
    · rw [if_pos here]
      rcases List.mem_cons.mp mem with rfl | later
      · rw [here] at apart
        cases apart
      · obtain ⟨piece, isPiece, inside⟩ := ih later
        exact ⟨piece, List.mem_cons_of_mem _ isPiece, inside⟩
    · rw [if_neg here]
      cases pieces : splitWhere isSep cs with
      | nil => exact absurd pieces (splitWhere_ne_nil cs)
      | cons first rest =>
        rw [pieces] at ih
        rcases List.mem_cons.mp mem with rfl | later
        · exact ⟨c :: first, List.mem_cons_self, List.mem_cons_self⟩
        · obtain ⟨piece, isPiece, inside⟩ := ih later
          rcases List.mem_cons.mp isPiece with rfl | further
          · exact ⟨d :: piece, List.mem_cons_self, List.mem_cons_of_mem d inside⟩
          · exact ⟨piece, List.mem_cons_of_mem _ further, inside⟩

theorem splitWhere_map {f : Char → Char} {cs : List Char} (kept : ∀ c ∈ cs, isSep (f c) = isSep c) :
    splitWhere isSep (cs.map f) = (splitWhere isSep cs).map (List.map f) := by
  induction cs with
  | nil => rfl
  | cons c cs ih =>
    rw [List.forall_mem_cons] at kept
    rw [List.map_cons, splitWhere, splitWhere, kept.1, ih kept.2]
    by_cases here : isSep c = true
    · rw [if_pos here, if_pos here]
      rfl
    · rw [if_neg here, if_neg here]
      cases splitWhere isSep cs with
      | nil => rfl
      | cons piece pieces => rfl

end

/-! Cutting -/

theorem cutAt_append {sep : Char} {front : List Char} (apart : sep ∉ front) (back : List Char) :
    cutAt sep (front ++ sep :: back) = some (front, back) := by
  induction front with
  | nil => simp [cutAt]
  | cons c cs ih =>
    rw [List.mem_cons, not_or] at apart
    rw [List.cons_append, cutAt, if_neg (Ne.symm apart.1), ih apart.2]
    rfl

theorem cutAt_eq_none_iff {sep : Char} {cs : List Char} : cutAt sep cs = none ↔ sep ∉ cs := by
  induction cs with
  | nil => simp [cutAt]
  | cons c cs ih =>
    by_cases here : c = sep
    · simp [cutAt, here]
    · simp [cutAt, here, ih, Ne.symm here]

theorem eq_of_cutAt {sep : Char} {cs before after : List Char} (cut : cutAt sep cs = some (before, after)) :
    cs = before ++ sep :: after ∧ sep ∉ before := by
  induction cs generalizing before with
  | nil => cases cut
  | cons c cs ih =>
    rw [cutAt] at cut
    by_cases here : c = sep
    · rw [if_pos here] at cut
      cases cut
      exact ⟨by rw [here]; rfl, List.not_mem_nil⟩
    · rw [if_neg here] at cut
      obtain ⟨⟨front, back⟩, found, same⟩ := Option.map_eq_some_iff.mp cut
      cases same
      obtain ⟨rfl, apart⟩ := ih found
      exact ⟨rfl, by rw [List.mem_cons, not_or]; exact ⟨Ne.symm here, apart⟩⟩

/-! Trimming -/

structure Neat (cs : List Char) : Prop where
  start : ∀ c ∈ cs.head?, isBlank c = false
  finish : ∀ c ∈ cs.getLast?, isBlank c = false

theorem trim_eq_rdropWhile (cs : List Char) : trim cs = (cs.dropWhile isBlank).rdropWhile isBlank := rfl

theorem neat_trim (cs : List Char) : Neat (trim cs) := by
  rw [trim_eq_rdropWhile]
  constructor
  · intro c first
    obtain ⟨rest, whole⟩ := List.rdropWhile_prefix isBlank (cs.dropWhile isBlank)
    have head : (cs.dropWhile isBlank).head? = some c := by
      rw [← whole, List.head?_append, first]
      rfl
    have notBlank := List.head?_dropWhile_not isBlank cs
    rw [head] at notBlank
    exact Bool.eq_false_iff.mpr (by simpa using notBlank)
  · intro c last
    have nonempty : (cs.dropWhile isBlank).rdropWhile isBlank ≠ [] := by
      intro empty
      rw [empty] at last
      cases last
    have notBlank := List.rdropWhile_last_not isBlank _ nonempty
    rw [List.getLast?_eq_some_getLast nonempty] at last
    cases last
    exact Bool.eq_false_iff.mpr notBlank

theorem Neat.trim_eq {cs : List Char} (neat : Neat cs) : trim cs = cs := by
  have front : cs.dropWhile isBlank = cs := by
    cases cs with
    | nil => rfl
    | cons c cs => exact List.dropWhile_cons_of_neg (Bool.eq_false_iff.mp (neat.start c rfl))
  rw [trim_eq_rdropWhile, front, List.rdropWhile_eq_self_iff]
  intro nonempty
  exact Bool.eq_false_iff.mp (neat.finish _ (List.getLast?_eq_some_getLast nonempty))

theorem Neat.append_cons {front back : List Char} (neatFront : Neat front) (neatBack : Neat back) {c : Char}
    (visible : isBlank c = false) : Neat (front ++ c :: back) := by
  constructor
  · intro d first
    cases front with
    | nil =>
      cases first
      exact visible
    | cons e front => exact neatFront.start d first
  · intro d last
    cases back with
    | nil =>
      rw [List.getLast?_concat] at last
      cases last
      exact visible
    | cons e back =>
      apply neatBack.finish d
      rw [List.getLast?_append_of_ne_nil _ (List.cons_ne_nil _ _), List.getLast?_cons_cons] at last
      exact last

theorem mem_of_mem_trim {cs : List Char} {c : Char} (mem : c ∈ trim cs) : c ∈ cs :=
  List.dropWhile_sublist isBlank |>.subset ((List.rdropWhile_prefix isBlank _).subset mem)

theorem mem_dropWhile_of_visible {cs : List Char} {c : Char} (mem : c ∈ cs) (visible : isBlank c = false) :
    c ∈ cs.dropWhile isBlank := by
  rw [← List.takeWhile_append_dropWhile (p := isBlank) (l := cs), List.mem_append] at mem
  rcases mem with dropped | kept
  · rw [List.mem_takeWhile_imp dropped] at visible
    cases visible
  · exact kept

theorem mem_trimRight_of_visible {cs : List Char} {c : Char} (mem : c ∈ cs) (visible : isBlank c = false) :
    c ∈ trimRight cs :=
  List.mem_reverse.mpr (mem_dropWhile_of_visible (List.mem_reverse.mpr mem) visible)

theorem mem_trim_iff {cs : List Char} {c : Char} (visible : isBlank c = false) : c ∈ trim cs ↔ c ∈ cs := by
  constructor
  · exact mem_of_mem_trim
  · intro mem
    exact mem_trimRight_of_visible (mem_dropWhile_of_visible mem visible) visible

theorem trim_eq_nil_iff {cs : List Char} : trim cs = [] ↔ cs.all isBlank = true := by
  constructor
  · intro empty
    rw [List.all_eq_true]
    intro c mem
    cases blank : isBlank c with
    | true => rfl
    | false =>
      have kept := (mem_trim_iff blank).mpr mem
      rw [empty] at kept
      cases kept
  · intro blank
    rw [trim_eq_rdropWhile, List.dropWhile_eq_nil_iff.mpr (List.all_eq_true.mp blank), List.rdropWhile_nil]

/-! Case across a comma -/

theorem meetsCased_append_comma (near far : List Char) : meetsCased (near ++ ',' :: far) = meetsCased near := by
  have notIgnorable : isCaseIgnorable ',' = false := by decide +kernel
  have notCased : inRanges casedRanges ',' = false := by decide +kernel
  rw [meetsCased, meetsCased, List.dropWhile_append]
  cases rest : near.dropWhile isCaseIgnorable with
  | nil => simp [notIgnorable, notCased]
  | cons c rest => rfl

theorem lowerAfter_append_comma (passed far cs : List Char) :
    lowerAfter (passed ++ ',' :: far) cs = lowerAfter passed cs := by
  induction cs generalizing passed with
  | nil => rfl
  | cons c cs ih => rw [lowerAfter, lowerAfter, meetsCased_append_comma, ← List.cons_append, ih]

/-- Lower case of a text that was already passed does not look beyond the next comma. -/
theorem lowerAfter_comma (passed front back : List Char) :
    lowerAfter passed (front ++ ',' :: back) = lowerAfter passed front ++ ',' :: lower back := by
  induction front generalizing passed with
  | nil =>
    have comma : lowerChar ',' = [','] := by decide +kernel
    have first : lowerAfter passed (',' :: back) = lowerChar ',' ++ lowerAfter (',' :: passed) back := by
      rw [lowerAfter, if_neg (by decide)]
    have forgotten : lowerAfter (',' :: passed) back = lower back := lowerAfter_append_comma [] passed back
    rw [List.nil_append, first, comma, forgotten]
    rfl
  | cons c cs ih => rw [List.cons_append, lowerAfter, lowerAfter, ih, meetsCased_append_comma, List.append_assoc]

theorem lower_append_comma (front back : List Char) :
    lower (front ++ ',' :: back) = lower front ++ ',' :: lower back :=
  lowerAfter_comma [] front back

/-! Case of ASCII texts -/

/-- What holds of the first 128 characters holds of every ASCII character. -/
theorem of_isAscii {p : Char → Bool} (all : (List.range 0x80).all (fun n => p (Char.ofNat n)) = true) {c : Char}
    (ascii : isAscii c = true) : p c = true := by
  have inside : c.toNat ∈ List.range 0x80 := List.mem_range.mpr (by simpa [isAscii] using ascii)
  have holds := List.all_eq_true.mp all c.toNat inside
  rwa [Char.ofNat_toNat] at holds

theorem isBlank_toLower {c : Char} (ascii : isAscii c = true) : isBlank c.toLower = isBlank c := by
  have all := of_isAscii (p := fun c => isBlank c.toLower == isBlank c) (by decide +kernel) ascii
  exact beq_iff_eq.mp all

theorem toLower_eq_separator_iff {c sep : Char} (ascii : isAscii c = true) (separator : sep = ',' ∨ sep = '=') :
    c.toLower = sep ↔ c = sep := by
  have all := of_isAscii (p := fun c => (c.toLower == ',') == (c == ',') && (c.toLower == '=') == (c == '='))
    (by decide +kernel) ascii
  rw [Bool.and_eq_true, beq_iff_eq, beq_iff_eq] at all
  rcases separator with rfl | rfl
  · rw [← beq_iff_eq, all.1, beq_iff_eq]
  · rw [← beq_iff_eq, all.2, beq_iff_eq]

theorem lower_of_ascii {cs : List Char} (ascii : cs.all isAscii = true) : lower cs = cs.map Char.toLower := by
  have anywhere : ∀ passed, lowerAfter passed cs = cs.map Char.toLower := by
    induction cs with
    | nil => exact fun _ => rfl
    | cons c cs ih =>
      intro passed
      rw [List.all_cons, Bool.and_eq_true] at ascii
      have notSigma : c ≠ capitalSigma := by
        rintro rfl
        exact absurd ascii.1 (by decide)
      rw [lowerAfter, if_neg notSigma, lowerChar, if_pos ascii.1, ih ascii.2]
      rfl
  exact anywhere []

theorem lower_append_of_ascii {front back : List Char} (asciiFront : front.all isAscii = true)
    (asciiBack : back.all isAscii = true) : lower (front ++ back) = lower front ++ lower back := by
  rw [lower_of_ascii asciiFront, lower_of_ascii asciiBack, lower_of_ascii, List.map_append]
  rw [List.all_append, asciiFront, asciiBack, Bool.and_self]

theorem upper_of_ascii {cs : List Char} (ascii : cs.all isAscii = true) : upper cs = cs.map Char.toUpper := by
  induction cs with
  | nil => rfl
  | cons c cs ih =>
    rw [List.all_cons, Bool.and_eq_true] at ascii
    have rest : cs.flatMap upperChar = cs.map Char.toUpper := ih ascii.2
    rw [upper, List.flatMap_cons, rest, upperChar, if_pos ascii.1]
    rfl

def isLowered (c : Char) : Bool :=
  isAscii c && c.toLower == c

theorem isLowered_toLower {c : Char} (ascii : isAscii c = true) : isLowered c.toLower = true :=
  of_isAscii (p := fun c => isLowered c.toLower) (by decide +kernel) ascii

theorem toUpper_of_isLowered {c : Char} (lowered : isLowered c = true) :
    isAscii c.toUpper = true ∧ c.toUpper.toLower = c := by
  have ascii : isAscii c = true := (Bool.and_eq_true_iff.mp lowered).1
  have all := of_isAscii (p := fun c => !isLowered c || isAscii c.toUpper && c.toUpper.toLower == c)
    (by decide +kernel) ascii
  rw [lowered, Bool.not_true, Bool.false_or, Bool.and_eq_true, beq_iff_eq] at all
  exact all

variable {cs : List Char}

theorem isAscii_of_lowered (lowered : cs.all isLowered = true) : cs.all isAscii = true := by
  rw [List.all_eq_true] at lowered ⊢
  exact fun c mem => (Bool.and_eq_true_iff.mp (lowered c mem)).1

theorem lowered_lower (ascii : cs.all isAscii = true) : (lower cs).all isLowered = true := by
  rw [lower_of_ascii ascii, List.all_map]
  rw [List.all_eq_true] at ascii ⊢
  exact fun c mem => isLowered_toLower (ascii c mem)

theorem lower_eq_self (lowered : cs.all isLowered = true) : lower cs = cs := by
  rw [lower_of_ascii (isAscii_of_lowered lowered)]
  rw [List.all_eq_true] at lowered
  calc
    cs.map Char.toLower = cs.map id :=
      List.map_congr_left fun c mem => beq_iff_eq.mp (Bool.and_eq_true_iff.mp (lowered c mem)).2
    _ = cs := List.map_id cs

theorem lower_upper (lowered : cs.all isLowered = true) :
    (upper cs).all isAscii = true ∧ lower (upper cs) = cs := by
  have capitals := upper_of_ascii (isAscii_of_lowered lowered)
  rw [List.all_eq_true] at lowered
  have ascii : (upper cs).all isAscii = true := by
    rw [capitals, List.all_map, List.all_eq_true]
    exact fun c mem => (toUpper_of_isLowered (lowered c mem)).1
  refine ⟨ascii, ?_⟩
  calc
    lower (upper cs) = cs.map (Char.toLower ∘ Char.toUpper) := by rw [lower_of_ascii ascii, capitals, List.map_map]
    _ = cs.map id := List.map_congr_left fun c mem => (toUpper_of_isLowered (lowered c mem)).2
    _ = cs := List.map_id cs

end Calculi.Text
