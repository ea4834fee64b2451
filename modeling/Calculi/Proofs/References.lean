import Calculi.Settings.Interpolation
import Mathlib.Data.List.Forall2
import Mathlib.Data.List.TakeWhile

/-!
Texts with references. A text is read as single characters and references, from left to right and in one way only, and
expanding it puts something in the place of each reference. Only the names that are read there are looked up.
-/
namespace Calculi.Settings

/-! How a reference is written -/

section

variable {p : Char → Bool} {stop : Char} {cs rest : List Char}

theorem takeWhile_append_stop (inside : ∀ c ∈ cs, p c = true) (stops : p stop = false) :
    (cs ++ stop :: rest).takeWhile p = cs := by
  rw [List.takeWhile_append_of_pos inside, List.takeWhile_cons_of_neg (by simp [stops]), List.append_nil]

theorem dropWhile_append_stop (inside : ∀ c ∈ cs, p c = true) (stops : p stop = false) :
    (cs ++ stop :: rest).dropWhile p = stop :: rest := by
  rw [List.dropWhile_append_of_pos inside, List.dropWhile_cons_of_neg (by simp [stops])]

theorem exists_eq_takeWhile_append (mem : stop ∈ cs) : ∃ rest, cs = cs.takeWhile (· != stop) ++ stop :: rest := by
  obtain ⟨before, rest, rfl, first⟩ := List.eq_append_cons_of_mem mem
  have inside : ∀ c ∈ before, (c != stop) = true := by
    intro c isBefore
    exact bne_iff_ne.mpr fun same => first (same ▸ isBefore)
  exact ⟨rest, by rw [takeWhile_append_stop inside (bne_self_eq_false stop)]⟩

end

namespace Reference

def written (reference : Reference) : List Char :=
  '$' :: '\x7b' :: (reference.name.toList ++ match reference.fallback with
    | none => ['\x7d']
    | some text => ':' :: '-' :: (text.toList ++ ['\x7d']))

structure WellFormed (reference : Reference) : Prop where
  name : ∀ c ∈ reference.name.toList, isNameEnd c = false
  fallback : ∀ text ∈ reference.fallback, '\x7d' ∉ text.toList

theorem reference?_written_append {reference : Reference} (wellFormed : reference.WellFormed) (rest : List Char) :
    reference? (reference.written ++ rest) = some (reference, reference.written.length) := by
  obtain ⟨name, fallback⟩ := reference
  have inName : ∀ c ∈ name.toList, (!isNameEnd c) = true := by simpa using wellFormed.name
  cases fallback with
  | none =>
    have text : written ⟨name, none⟩ ++ rest = '$' :: '\x7b' :: (name.toList ++ '\x7d' :: rest) := by simp [written]
    rw [text, reference?, takeWhile_append_stop inName (by decide), dropWhile_append_stop inName (by decide)]
    simp [written]
  | some fallback =>
    have inFallback : ∀ c ∈ fallback.toList, (c != '\x7d') = true := by
      intro c mem
      exact bne_iff_ne.mpr fun closing => wellFormed.fallback fallback rfl (closing ▸ mem)
    have text : written ⟨name, some fallback⟩ ++ rest =
        '$' :: '\x7b' :: (name.toList ++ ':' :: '-' :: (fallback.toList ++ '\x7d' :: rest)) := by simp [written]
    have readFallback : (fallback.toList ++ '\x7d' :: rest).takeWhile (· != '\x7d') = fallback.toList :=
      takeWhile_append_stop inFallback (by decide)
    rw [text, reference?, takeWhile_append_stop inName (by decide), dropWhile_append_stop inName (by decide)]
    simp [readFallback, written]
    omega

theorem written_of_reference? {cs : List Char} {reference : Reference} {length : Nat}
    (found : reference? cs = some (reference, length)) :
    reference.WellFormed ∧ length = reference.written.length ∧ ∃ rest, cs = reference.written ++ rest := by
  unfold reference? at found
  split at found
  · rename_i cs
    have inName : ∀ c ∈ cs.takeWhile fun c => !isNameEnd c, isNameEnd c = false := by
      intro c mem
      simpa using List.mem_takeWhile_imp mem
    have whole := cs.takeWhile_append_dropWhile (p := fun c => !isNameEnd c)
    split at found
    · rename_i rest left
      cases found
      refine ⟨⟨by simpa using inName, fun text impossible => by cases impossible⟩, by simp [written], rest, ?_⟩
      simp [written, ← left, whole]
    · rename_i rest left
      split at found
      · rename_i closed
        cases found
        have inFallback : '\x7d' ∉ rest.takeWhile (· != '\x7d') := fun mem => by
          simpa using List.mem_takeWhile_imp mem
        obtain ⟨after, wholeRest⟩ := exists_eq_takeWhile_append closed
        refine ⟨⟨by simpa using inName, ?_⟩, ?_, after, ?_⟩
        · intro text same
          cases same
          simpa using inFallback
        · simp [written]
          omega
        · simp [written, ← wholeRest, ← left, whole]
      · cases found
    · cases found
  · cases found

theorem written_ne_nil (reference : Reference) : reference.written ≠ [] := by
  simp [written]

end Reference

/-! Reading a text -/

/-- A reference is read wherever one is written; any other character stands for itself. -/
inductive Reads : List Char → List Piece → Prop
  | done : Reads [] []
  | reference {reference : Reference} {rest : List Char} {pieces : List Piece} (wellFormed : reference.WellFormed)
      (reads : Reads rest pieces) : Reads (reference.written ++ rest) (.reference reference :: pieces)
  | plain {c : Char} {cs : List Char} {pieces : List Piece}
      (none : ∀ reference : Reference, reference.WellFormed → ¬reference.written <+: c :: cs)
      (reads : Reads cs pieces) : Reads (c :: cs) (.plain c :: pieces)

theorem piecesFrom_length_append (front rest : List Char) :
    piecesFrom front.length (front ++ rest) = piecesFrom 0 rest := by
  induction front with
  | nil => rfl
  | cons c front ih => rw [List.length_cons, List.cons_append, piecesFrom, ih]

theorem piecesFrom_written_append {reference : Reference} (wellFormed : reference.WellFormed) (rest : List Char) :
    piecesFrom 0 (reference.written ++ rest) = .reference reference :: piecesFrom 0 rest := by
  have found := Reference.reference?_written_append wellFormed rest
  cases text : reference.written with
  | nil => exact absurd text reference.written_ne_nil
  | cons c front =>
    rw [text, List.cons_append] at found
    rw [List.cons_append, piecesFrom, found, ← piecesFrom_length_append front rest]
    rfl

theorem piecesFrom_cons_of_plain {c : Char} {cs : List Char}
    (none : ∀ reference : Reference, reference.WellFormed → ¬reference.written <+: c :: cs) :
    piecesFrom 0 (c :: cs) = .plain c :: piecesFrom 0 cs := by
  cases found : reference? (c :: cs) with
  | none => rw [piecesFrom, found]
  | some read =>
    obtain ⟨wellFormed, _, rest, text⟩ := Reference.written_of_reference? found
    exact absurd ⟨rest, text.symm⟩ (none _ wellFormed)

theorem reads_piecesFrom (cs : List Char) : Reads cs (piecesFrom 0 cs) := by
  induction size : cs.length using Nat.strong_induction_on generalizing cs with
  | h size ih =>
    subst size
    by_cases starts : ∃ reference : Reference, reference.WellFormed ∧ reference.written <+: cs
    · obtain ⟨reference, wellFormed, rest, rfl⟩ := starts
      rw [piecesFrom_written_append wellFormed]
      have shorter : rest.length < (reference.written ++ rest).length := by
        have positive := List.length_pos_iff.mpr reference.written_ne_nil
        rw [List.length_append]
        omega
      exact .reference wellFormed (ih _ shorter rest rfl)
    · cases cs with
      | nil => exact .done
      | cons c cs =>
        have none := fun reference wellFormed starting => starts ⟨reference, wellFormed, starting⟩
        rw [piecesFrom_cons_of_plain none]
        exact .plain none (ih _ (Nat.lt_succ_self _) cs rfl)

theorem reads_iff {cs : List Char} {pieces : List Piece} : Reads cs pieces ↔ piecesFrom 0 cs = pieces := by
  constructor
  · intro reads
    induction reads with
    | done => rfl
    | reference wellFormed _ ih => rw [piecesFrom_written_append wellFormed, ih]
    | plain none _ ih => rw [piecesFrom_cons_of_plain none, ih]
  · rintro rfl
    exact reads_piecesFrom cs

/-! Expanding it -/

/-- What stands in the place of a piece: the value of the variable where it is known, else the fallback if there is
one. -/
inductive Piece.Means (lookup : String → Option (Option String)) : Piece → List Char → Prop
  | plain (c : Char) : Means lookup (.plain c) [c]
  | value {reference : Reference} {text : String} (known : lookup reference.name = some (some text)) :
      Means lookup (.reference reference) text.toList
  | valueless {reference : Reference} (known : lookup reference.name = some none) :
      Means lookup (.reference reference) []
  | fallback {name text : String} (unknown : lookup name = none) :
      Means lookup (.reference ⟨name, some text⟩) text.toList
  | nothing {name : String} (unknown : lookup name = none) : Means lookup (.reference ⟨name, none⟩) []

def Expands (lookup : String → Option (Option String)) (text out : String) : Prop :=
  ∃ pieces parts, Reads text.toList pieces ∧ List.Forall₂ (Piece.Means lookup) pieces parts ∧ out.toList = parts.flatten

def RefersTo (text name : String) : Prop :=
  ∃ pieces reference, Reads text.toList pieces ∧ .reference reference ∈ pieces ∧ reference.name = name

section

variable {lookup lookup' : String → Option (Option String)} {text : String}

theorem Piece.means_iff {piece : Piece} {part : List Char} : piece.Means lookup part ↔ piece.expand lookup = part := by
  constructor
  · intro means
    cases means with
    | plain => rfl
    | value known => simp [expand, Reference.resolve, known]
    | valueless known => simp [expand, Reference.resolve, known]
    | fallback unknown => simp [expand, Reference.resolve, unknown]
    | nothing unknown => simp [expand, Reference.resolve, unknown]
  · rintro rfl
    cases piece with
    | plain c => exact .plain c
    | reference reference =>
      obtain ⟨name, fallback⟩ := reference
      rw [expand, Reference.resolve]
      cases known : lookup name with
      | some value =>
        cases value with
        | some text => exact .value known
        | none => exact .valueless known
      | none =>
        cases fallback with
        | some text => exact .fallback known
        | none => exact .nothing known

theorem expands_iff {out : String} : Expands lookup text out ↔ interpolate lookup text = out := by
  have means : Piece.Means lookup = fun piece part => piece.expand lookup = part := by
    funext piece part
    exact propext Piece.means_iff
  have parts : ∀ pieces parts, List.Forall₂ (Piece.Means lookup) pieces parts ↔
      pieces.map (Piece.expand lookup) = parts := by
    intro pieces parts
    rw [means, ← List.forall₂_map_left_iff, List.forall₂_eq_eq_eq]
  simp only [Expands, parts, reads_iff, exists_and_left, exists_eq_left', interpolate, List.flatMap_def]
  rw [← String.toList_inj, String.toList_ofList, eq_comm]

theorem interpolate_congr (same : ∀ name, RefersTo text name → lookup name = lookup' name) :
    interpolate lookup text = interpolate lookup' text := by
  refine congrArg String.ofList (List.flatMap_congr fun piece mem => ?_)
  cases piece with
  | plain c => rfl
  | reference reference =>
    have agree := same _ ⟨_, reference, reads_piecesFrom _, mem, rfl⟩
    rw [Piece.expand, Piece.expand, Reference.resolve, Reference.resolve, agree]

theorem refersTo_iff {name : String} :
    RefersTo text name ↔ ∃ reference, .reference reference ∈ piecesFrom 0 text.toList ∧ reference.name = name := by
  simp only [RefersTo, reads_iff]
  constructor
  · rintro ⟨_, reference, rfl, mem, named⟩
    exact ⟨reference, mem, named⟩
  · rintro ⟨reference, mem, named⟩
    exact ⟨_, reference, rfl, mem, named⟩

end

end Calculi.Settings
