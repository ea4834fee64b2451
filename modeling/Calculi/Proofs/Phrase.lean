import Calculi.Proofs.TypeText

/-!
Phrases are what a printed text is made of: words, two phrases in parentheses, conditionals and binders. Their text is
unambiguous. It tells the phrase and where the phrase ends, as long as no word contains one of the few characters that
stand between words.
-/
namespace Calculi

/-! Words -/

def isSeparator (c : Char) : Bool :=
  [' ', '(', ')', '.', ':'].contains c

def IsWord (text : String) : Prop :=
  text ≠ "" ∧ text.toList.any isSeparator = false

instance (text : String) : Decidable (IsWord text) :=
  inferInstanceAs (Decidable (_ ∧ _))

theorem IsWord.append {front back : String} (frontWord : IsWord front) (backWord : IsWord back) :
    IsWord (front ++ back) := by
  refine ⟨fun empty => frontWord.1 (String.append_eq_empty_iff.mp empty).1, ?_⟩
  rw [String.toList_append, List.any_append, frontWord.2, backWord.2, Bool.or_self]

theorem IsWord.not_separator {word : String} (isWord : IsWord word) {c : Char} (member : c ∈ word.toList) :
    isSeparator c = false :=
  Bool.of_not_eq_true (List.any_eq_false.mp isWord.2 c member)

def Breaks (rest : List Char) : Prop :=
  ∀ c ∈ rest.head?, isSeparator c = true

theorem breaks_nil : Breaks [] := by
  simp [Breaks]

theorem breaks_cons {c : Char} (separates : isSeparator c = true) (rest : List Char) : Breaks (c :: rest) := by
  simpa [Breaks] using separates

theorem takeWhile_word {word : String} (isWord : IsWord word) {rest : List Char} (breaks : Breaks rest) :
    (word.toList ++ rest).takeWhile (fun c => !isSeparator c) = word.toList := by
  have inside : ∀ c ∈ word.toList, (!isSeparator c) = true := by
    intro c member
    rw [isWord.not_separator member]
    rfl
  have outside : rest.takeWhile (fun c => !isSeparator c) = [] := by
    cases rest with
    | nil => rfl
    | cons c rest =>
      have separates : isSeparator c = true := breaks c rfl
      simp [separates]
  rw [List.takeWhile_append_of_pos inside, outside, List.append_nil]

theorem word_append_injective {word word' : String} (isWord : IsWord word) (isWord' : IsWord word')
    {rest rest' : List Char} (breaks : Breaks rest) (breaks' : Breaks rest')
    (same : word.toList ++ rest = word'.toList ++ rest') : word = word' ∧ rest = rest' := by
  have letters : word.toList = word'.toList := by
    rw [← takeWhile_word isWord breaks, same, takeWhile_word isWord' breaks']
  rw [letters] at same
  exact ⟨String.toList_inj.mp letters, List.append_cancel_left same⟩

/-! Phrases -/

inductive Phrase where
  | word (written : String)
  | pair (head tail : Phrase)
  | choice (guard thn els : Phrase)
  | binder (name : String) (ann : Option Ty) (body : Phrase)

namespace Phrase

def annText : Option Ty → List Char
  | none => []
  | some ty => ':' :: ty.render.toList

def text : Phrase → List Char
  | .word written => written.toList
  | .pair head tail => '(' :: (head.text ++ ' ' :: (tail.text ++ [')']))
  | .choice guard thn els =>
    '(' :: ("if".toList ++ ' ' :: (guard.text ++ ' ' :: ("then".toList ++ ' ' ::
      (thn.text ++ ' ' :: ("else".toList ++ ' ' :: (els.text ++ [')']))))))
  | .binder name ann body =>
    '(' :: ("lambda".toList ++ ' ' :: (name.toList ++ (annText ann ++ '.' :: ' ' :: (body.text ++ [')']))))

def Spelled : Phrase → Prop
  | .word written => IsWord written
  | .pair head tail => head.Spelled ∧ tail.Spelled
  | .choice guard thn els => guard.Spelled ∧ thn.Spelled ∧ els.Spelled
  | .binder name _ body => IsWord name ∧ body.Spelled

section

variable (rest : List Char)

theorem text_pair_append (head tail : Phrase) :
    (pair head tail).text ++ rest = '(' :: (head.text ++ ' ' :: (tail.text ++ ')' :: rest)) := by
  simp [text]

theorem text_choice_append (guard thn els : Phrase) :
    (choice guard thn els).text ++ rest =
      '(' :: ("if".toList ++ ' ' :: (guard.text ++ ' ' :: ("then".toList ++ ' ' ::
        (thn.text ++ ' ' :: ("else".toList ++ ' ' :: (els.text ++ ')' :: rest)))))) := by
  simp [text]

theorem text_binder_append (name : String) (ann : Option Ty) (body : Phrase) :
    (binder name ann body).text ++ rest =
      '(' :: ("lambda".toList ++ ' ' :: (name.toList ++ (annText ann ++ '.' :: ' ' :: (body.text ++ ')' :: rest)))) := by
  simp [text]

end

theorem breaks_annText (ann : Option Ty) (rest : List Char) : Breaks (annText ann ++ '.' :: rest) := by
  cases ann with
  | none => exact breaks_cons rfl rest
  | some ty => exact breaks_cons rfl _

theorem annText_append_injective {ann ann' : Option Ty} {rest rest' : List Char}
    (same : annText ann ++ '.' :: rest = annText ann' ++ '.' :: rest') : ann = ann' ∧ rest = rest' := by
  cases ann with
  | none =>
    cases ann' with
    | none => exact ⟨rfl, List.tail_eq_of_cons_eq same⟩
    | some ty' => cases same
  | some ty =>
    cases ann' with
    | none => cases same
    | some ty' =>
      obtain ⟨rfl, follow⟩ := Ty.render_append_injective rfl rfl (List.tail_eq_of_cons_eq same)
      exact ⟨rfl, List.tail_eq_of_cons_eq follow⟩

/-- A text that begins with a word is that of no phrase but the word itself: all others begin with a parenthesis. -/
theorem eq_word_of_text {word : String} {phrase : Phrase} (isWord : IsWord word) (spelled : phrase.Spelled)
    {rest rest' : List Char} (breaks : Breaks rest) (breaks' : Breaks rest')
    (same : word.toList ++ rest = phrase.text ++ rest') : phrase = .word word ∧ rest = rest' := by
  have noParen : ∀ text : List Char, word.toList ++ rest ≠ '(' :: text := by
    intro text begins
    cases letters : word.toList with
    | nil => exact isWord.1 (String.toList_eq_nil_iff.mp letters)
    | cons c tail =>
      rw [letters] at begins
      have separates := isWord.not_separator (c := c) (by simp [letters])
      rw [List.head_eq_of_cons_eq begins] at separates
      exact absurd separates (by decide)
  cases phrase with
  | word written =>
    obtain ⟨rfl, follow⟩ := word_append_injective isWord spelled breaks breaks' same
    exact ⟨rfl, follow⟩
  | pair head tail => exact absurd same (noParen _)
  | choice guard thn els => exact absurd same (noParen _)
  | binder name ann body => exact absurd same (noParen _)

/-- The text of this phrase, followed by anything that ends a word, is no other phrase's, and what follows is told apart
from it. -/
def Unambiguous (p : Phrase) : Prop :=
  ∀ {q : Phrase} {rest rest' : List Char}, p.Spelled → q.Spelled → Breaks rest → Breaks rest' →
    p.text ++ rest = q.text ++ rest' → p = q ∧ rest = rest'

theorem space_breaks (rest : List Char) : Breaks (' ' :: rest) :=
  breaks_cons rfl rest

theorem closing_breaks (rest : List Char) : Breaks (')' :: rest) :=
  breaks_cons rfl rest

theorem isWord_if : IsWord "if" := by decide

theorem isWord_lambda : IsWord "lambda" := by decide

theorem unambiguous_word (written : String) : (word written).Unambiguous := by
  intro q rest rest' spelled spelled' breaks breaks' same
  obtain ⟨rfl, follow⟩ := eq_word_of_text spelled spelled' breaks breaks' same
  exact ⟨rfl, follow⟩

section

variable {head tail guard thn els body : Phrase}

-- A pair may begin with a word that also begins a conditional or a binder. The text then goes on differently after the
-- next phrase, which is why the part in that place has to be unambiguous before the two can be told apart.

theorem Unambiguous.pair (headOnly : head.Unambiguous) (tailOnly : tail.Unambiguous) :
    (Phrase.pair head tail).Unambiguous := by
  intro q rest rest' spelled spelled' breaks breaks' same
  cases q with
  | word written =>
    obtain ⟨impossible, _⟩ := eq_word_of_text spelled' spelled breaks' breaks same.symm
    cases impossible
  | pair head' tail' =>
    rw [text_pair_append, text_pair_append] at same
    obtain ⟨rfl, atTail⟩ :=
      headOnly spelled.1 spelled'.1 (space_breaks _) (space_breaks _) (List.tail_eq_of_cons_eq same)
    obtain ⟨rfl, atEnd⟩ :=
      tailOnly spelled.2 spelled'.2 (closing_breaks _) (closing_breaks _) (List.tail_eq_of_cons_eq atTail)
    exact ⟨rfl, List.tail_eq_of_cons_eq atEnd⟩
  | choice guard thn els =>
    rw [text_pair_append, text_choice_append] at same
    obtain ⟨_, atTail⟩ :=
      eq_word_of_text isWord_if spelled.1 (space_breaks _) (space_breaks _) (List.tail_eq_of_cons_eq same).symm
    obtain ⟨_, impossible⟩ :=
      tailOnly spelled.2 spelled'.1 (closing_breaks _) (space_breaks _) (List.tail_eq_of_cons_eq atTail).symm
    cases impossible
  | binder name ann body =>
    rw [text_pair_append, text_binder_append] at same
    obtain ⟨_, atTail⟩ :=
      eq_word_of_text isWord_lambda spelled.1 (space_breaks _) (space_breaks _) (List.tail_eq_of_cons_eq same).symm
    obtain ⟨_, impossible⟩ :=
      eq_word_of_text spelled'.1 spelled.2 (breaks_annText ann _) (closing_breaks _) (List.tail_eq_of_cons_eq atTail)
    cases ann <;> cases impossible

theorem Unambiguous.choice (guardOnly : guard.Unambiguous) (thnOnly : thn.Unambiguous) (elsOnly : els.Unambiguous) :
    (Phrase.choice guard thn els).Unambiguous := by
  intro q rest rest' spelled spelled' breaks breaks' same
  cases q with
  | word written =>
    obtain ⟨impossible, _⟩ := eq_word_of_text spelled' spelled breaks' breaks same.symm
    cases impossible
  | pair head tail =>
    rw [text_choice_append, text_pair_append] at same
    obtain ⟨_, atTail⟩ :=
      eq_word_of_text isWord_if spelled'.1 (space_breaks _) (space_breaks _) (List.tail_eq_of_cons_eq same)
    obtain ⟨_, impossible⟩ :=
      guardOnly spelled.1 spelled'.2 (space_breaks _) (closing_breaks _) (List.tail_eq_of_cons_eq atTail)
    cases impossible
  | choice guard' thn' els' =>
    rw [text_choice_append, text_choice_append] at same
    have atGuard := List.append_cancel_left (List.tail_eq_of_cons_eq same)
    obtain ⟨rfl, afterGuard⟩ :=
      guardOnly spelled.1 spelled'.1 (space_breaks _) (space_breaks _) (List.tail_eq_of_cons_eq atGuard)
    have atThn := List.append_cancel_left (List.tail_eq_of_cons_eq afterGuard)
    obtain ⟨rfl, afterThn⟩ :=
      thnOnly spelled.2.1 spelled'.2.1 (space_breaks _) (space_breaks _) (List.tail_eq_of_cons_eq atThn)
    have atEls := List.append_cancel_left (List.tail_eq_of_cons_eq afterThn)
    obtain ⟨rfl, atEnd⟩ :=
      elsOnly spelled.2.2 spelled'.2.2 (closing_breaks _) (closing_breaks _) (List.tail_eq_of_cons_eq atEls)
    exact ⟨rfl, List.tail_eq_of_cons_eq atEnd⟩
  | binder name ann body =>
    rw [text_choice_append, text_binder_append] at same
    cases same

theorem Unambiguous.binder (name : String) (ann : Option Ty) (bodyOnly : body.Unambiguous) :
    (Phrase.binder name ann body).Unambiguous := by
  intro q rest rest' spelled spelled' breaks breaks' same
  cases q with
  | word written =>
    obtain ⟨impossible, _⟩ := eq_word_of_text spelled' spelled breaks' breaks same.symm
    cases impossible
  | pair head tail =>
    rw [text_binder_append, text_pair_append] at same
    obtain ⟨_, atTail⟩ :=
      eq_word_of_text isWord_lambda spelled'.1 (space_breaks _) (space_breaks _) (List.tail_eq_of_cons_eq same)
    obtain ⟨_, impossible⟩ :=
      eq_word_of_text spelled.1 spelled'.2 (breaks_annText ann _) (closing_breaks _) (List.tail_eq_of_cons_eq atTail)
    cases ann <;> cases impossible
  | choice guard thn els =>
    rw [text_binder_append, text_choice_append] at same
    cases same
  | binder name' ann' body' =>
    rw [text_binder_append, text_binder_append] at same
    have atName := List.append_cancel_left (List.tail_eq_of_cons_eq same)
    obtain ⟨rfl, atAnn⟩ := word_append_injective spelled.1 spelled'.1 (breaks_annText ann _) (breaks_annText ann' _)
      (List.tail_eq_of_cons_eq atName)
    obtain ⟨rfl, atBody⟩ := annText_append_injective atAnn
    obtain ⟨rfl, atEnd⟩ :=
      bodyOnly spelled.2 spelled'.2 (closing_breaks _) (closing_breaks _) (List.tail_eq_of_cons_eq atBody)
    exact ⟨rfl, List.tail_eq_of_cons_eq atEnd⟩

end

theorem unambiguous (p : Phrase) : p.Unambiguous := by
  induction p with
  | word written => exact unambiguous_word written
  | pair head tail headOnly tailOnly => exact headOnly.pair tailOnly
  | choice guard thn els guardOnly thnOnly elsOnly => exact guardOnly.choice thnOnly elsOnly
  | binder name ann body bodyOnly => exact bodyOnly.binder name ann

theorem eq_of_text_eq {p q : Phrase} (spelled : p.Spelled) (spelled' : q.Spelled) (same : p.text = q.text) : p = q := by
  have followed : p.text ++ [] = q.text ++ [] := by rw [same]
  exact (p.unambiguous spelled spelled' breaks_nil breaks_nil followed).1

end Phrase

end Calculi
