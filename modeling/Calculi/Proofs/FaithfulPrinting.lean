import Calculi.Proofs.FreshNames
import Calculi.Proofs.Outcome
import Calculi.Proofs.Phrase
import Calculi.Proofs.WellFormed

/-!
Printing is faithful. The printed text is that of a phrase, and the phrase can be read back in a context with distinct
names: every binder on the page has a name that nothing in scope has, so a name tells which binder it means. What is read
is the term up to the hints of its abstractions, so terms with the same text differ in nothing else.
-/
namespace Calculi

namespace Term

def withoutHints : Term → Term
  | .abs _ ann body => .abs "" ann body.withoutHints
  | .app fn arg => .app fn.withoutHints arg.withoutHints
  | .ite guard thn els => .ite guard.withoutHints thn.withoutHints els.withoutHints
  | .succ arg => .succ arg.withoutHints
  | .pred arg => .pred arg.withoutHints
  | .isZero arg => .isZero arg.withoutHints
  | t => t

def hints : Term → List String
  | .abs hint _ body => hint :: body.hints
  | .app fn arg => fn.hints ++ arg.hints
  | .ite guard thn els => guard.hints ++ thn.hints ++ els.hints
  | .succ arg | .pred arg | .isZero arg => arg.hints
  | .var _ | .tru | .fls | .zero | .foreign _ => []

def shownNames (suffix : String) : Context → Term → List String
  | ctx, .var v => [varName ctx v]
  | ctx, .abs hint _ body =>
    let name := ctx.freshName hint suffix
    name :: shownNames suffix (ctx.extend name .name) body
  | ctx, .app fn arg => shownNames suffix ctx fn ++ shownNames suffix ctx arg
  | ctx, .ite guard thn els =>
    shownNames suffix ctx guard ++ shownNames suffix ctx thn ++ shownNames suffix ctx els
  | ctx, .succ arg | ctx, .pred arg | ctx, .isZero arg => shownNames suffix ctx arg
  | _, .tru | _, .fls | _, .zero | _, .foreign _ => []

def keywords : List String :=
  ["true", "false", "0", "if", "then", "else", "succ", "pred", "iszero", "lambda"]

/-! Printed phrases -/

/-- What is printed for a term, before it is written out. The operators on numbers stand where a function would. -/
def phrase (suffix : String) : Context → Term → Phrase
  | ctx, .var v => .word (varName ctx v)
  | ctx, .abs hint ann body =>
    let name := ctx.freshName hint suffix
    .binder name ann (phrase suffix (ctx.extend name .name) body)
  | ctx, .app fn arg => .pair (phrase suffix ctx fn) (phrase suffix ctx arg)
  | _, .tru => .word "true"
  | _, .fls => .word "false"
  | ctx, .ite guard thn els => .choice (phrase suffix ctx guard) (phrase suffix ctx thn) (phrase suffix ctx els)
  | _, .zero => .word "0"
  | ctx, .succ arg => .pair (.word "succ") (phrase suffix ctx arg)
  | ctx, .pred arg => .pair (.word "pred") (phrase suffix ctx arg)
  | ctx, .isZero arg => .pair (.word "iszero") (phrase suffix ctx arg)
  | _, .foreign text => .word text

variable {suffix : String} {ctx : Context} {t : Term}

theorem toList_of_render {text : String} (printed : t.render suffix ctx = .ok text) :
    t.isKnown = true ∧ text.toList = (t.phrase suffix ctx).text := by
  induction t generalizing ctx text with
  | var v => cases printed; exact ⟨rfl, rfl⟩
  | abs hint ann body ih =>
    by_cases empty : suffix.isEmpty = true
    · simp only [render, Context.pickFresh, if_pos empty] at printed
      cases printed
    · simp only [render, Context.pickFresh, if_neg empty] at printed
      obtain ⟨bodyText, bodyPrinted, written⟩ := bind_eq_ok_iff.mp printed
      cases written
      obtain ⟨bodyKnown, bodyWritten⟩ := ih bodyPrinted
      refine ⟨bodyKnown, ?_⟩
      cases ann <;> simp [phrase, Phrase.text, Phrase.annText, bodyWritten]
  | app fn arg fnIH argIH =>
    obtain ⟨fnText, fnPrinted, printed⟩ := bind_eq_ok_iff.mp printed
    obtain ⟨argText, argPrinted, written⟩ := bind_eq_ok_iff.mp printed
    cases written
    obtain ⟨fnKnown, fnWritten⟩ := fnIH fnPrinted
    obtain ⟨argKnown, argWritten⟩ := argIH argPrinted
    refine ⟨by simp only [isKnown, fnKnown, argKnown, Bool.and_self], ?_⟩
    simp [phrase, Phrase.text, fnWritten, argWritten]
  | ite guard thn els guardIH thnIH elsIH =>
    obtain ⟨guardText, guardPrinted, printed⟩ := bind_eq_ok_iff.mp printed
    obtain ⟨thnText, thnPrinted, printed⟩ := bind_eq_ok_iff.mp printed
    obtain ⟨elsText, elsPrinted, written⟩ := bind_eq_ok_iff.mp printed
    cases written
    obtain ⟨guardKnown, guardWritten⟩ := guardIH guardPrinted
    obtain ⟨thnKnown, thnWritten⟩ := thnIH thnPrinted
    obtain ⟨elsKnown, elsWritten⟩ := elsIH elsPrinted
    refine ⟨by simp only [isKnown, guardKnown, thnKnown, elsKnown, Bool.and_self], ?_⟩
    simp [phrase, Phrase.text, guardWritten, thnWritten, elsWritten]
  | succ arg ih | pred arg ih | isZero arg ih =>
    obtain ⟨argText, argPrinted, written⟩ := bind_eq_ok_iff.mp printed
    cases written
    obtain ⟨argKnown, argWritten⟩ := ih argPrinted
    refine ⟨argKnown, ?_⟩
    simp [phrase, Phrase.text, argWritten]
  | foreign form => cases printed
  | _ => cases printed; exact ⟨rfl, rfl⟩

/-! Words on the page -/

theorem exists_name_of_fits {v : Var} (fits : v.FitsIn ctx.length) :
    ∃ i : Nat, v = ⟨i, ctx.length⟩ ∧ ctx.names[i]? = some (varName ctx v) := by
  obtain ⟨nonneg, below, inScope⟩ := fits
  obtain ⟨name, found⟩ := (ctx.exists_nameAt_iff v.index).mpr ⟨nonneg, by omega⟩
  have shown : varName ctx v = name := by simp only [varName, if_pos inScope, found]
  cases looked : ctx.entryAt v.index with
  | error error => simp [Context.nameAt, looked, Except.map] at found
  | ok entry =>
    simp only [Context.nameAt, looked, Except.map, Except.ok.injEq] at found
    obtain ⟨i, position, present⟩ := Context.entryAt_eq_ok_iff.mp looked
    refine ⟨i, ?_, ?_⟩
    · rw [← position, ← inScope]
    · rw [shown, ← found, Context.names, List.getElem?_map, present, Option.map_some]

theorem WellFormed.under_binder {hint : String} {ann : Option Ty} {body : Term}
    (fits : (Term.abs hint ann body).WellFormed ctx.length) (name : String) (binding : Binding) :
    body.WellFormed (ctx.extend name binding).length := by
  have deeper : ((ctx.extend name binding).length : Int) = ctx.length + 1 := by simp [Context.extend]
  rw [deeper]
  exact wellFormed_abs.mp fits

theorem isWord_candidate {hint : String} (hintWord : IsWord hint) (suffixWord : IsWord suffix) (k : Nat) :
    IsWord (Context.candidate hint suffix k) := by
  induction k with
  | zero => exact hintWord
  | succ k ih => exact ih.append suffixWord

theorem isWord_freshName {hint : String} (hintWord : IsWord hint) (suffixWord : IsWord suffix) :
    IsWord (ctx.freshName hint suffix) := by
  obtain ⟨k, _, same, _, _⟩ := ctx.freshName_eq_candidate hint suffixWord.1
  rw [same]
  exact isWord_candidate hintWord suffixWord k

theorem spelled_phrase (suffixWord : IsWord suffix) (namesWords : ∀ name ∈ ctx.names, IsWord name)
    (hintsWords : ∀ hint ∈ t.hints, IsWord hint) (known : t.isKnown = true) (fits : t.WellFormed ctx.length) :
    (t.phrase suffix ctx).Spelled := by
  induction t generalizing ctx with
  | var v =>
    obtain ⟨i, _, present⟩ := exists_name_of_fits (wellFormed_var.mp fits)
    exact namesWords _ (List.mem_of_getElem? present)
  | abs hint ann body ih =>
    obtain ⟨hintWord, bodyWords⟩ := List.forall_mem_cons.mp hintsWords
    have nameWord : IsWord (ctx.freshName hint suffix) := isWord_freshName hintWord suffixWord
    refine ⟨nameWord, ih ?_ bodyWords known (fits.under_binder _ .name)⟩
    rw [Context.names_extend]
    exact List.forall_mem_cons.mpr ⟨nameWord, namesWords⟩
  | app fn arg fnIH argIH =>
    simp only [isKnown, Bool.and_eq_true] at known
    obtain ⟨fnWords, argWords⟩ := List.forall_mem_append.mp hintsWords
    obtain ⟨fnFits, argFits⟩ := wellFormed_app.mp fits
    exact ⟨fnIH namesWords fnWords known.1 fnFits, argIH namesWords argWords known.2 argFits⟩
  | ite guard thn els guardIH thnIH elsIH =>
    simp only [isKnown, Bool.and_eq_true] at known
    obtain ⟨frontWords, elsWords⟩ := List.forall_mem_append.mp hintsWords
    obtain ⟨guardWords, thnWords⟩ := List.forall_mem_append.mp frontWords
    obtain ⟨⟨guardFits, thnFits⟩, elsFits⟩ := wellFormed_ite.mp fits
    exact ⟨guardIH namesWords guardWords known.1.1 guardFits, thnIH namesWords thnWords known.1.2 thnFits,
      elsIH namesWords elsWords known.2 elsFits⟩
  | succ arg ih | pred arg ih | isZero arg ih =>
    exact ⟨show IsWord _ by decide, ih namesWords hintsWords known fits⟩
  | foreign form => cases known
  | _ => exact show IsWord _ by decide

end Term

/-! Reading back -/

namespace Phrase

def operator? : Phrase → Option (Term → Term)
  | .word written =>
    if written = "succ" then some .succ
    else if written = "pred" then some .pred
    else if written = "iszero" then some .isZero
    else none
  | _ => none

def readWord (names : List String) (written : String) : Term :=
  if written = "true" then .tru
  else if written = "false" then .fls
  else if written = "0" then .zero
  else .var ⟨names.idxOf written, names.length⟩

def read : List String → Phrase → Term
  | names, .word written => readWord names written
  | names, .pair head tail =>
    match head.operator? with
    | some operator => operator (read names tail)
    | none => .app (read names head) (read names tail)
  | names, .choice guard thn els => .ite (read names guard) (read names thn) (read names els)
  | names, .binder name ann body => .abs "" ann (read (name :: names) body)

end Phrase

namespace Term

variable {suffix : String} {ctx : Context} {t : Term}

theorem ne_of_not_keyword {name keyword : String} (free : name ∉ keywords) (reserved : keyword ∈ keywords) :
    name ≠ keyword := by
  rintro rfl
  exact free reserved

theorem operator?_phrase (known : t.isKnown = true) (free : ∀ name ∈ t.shownNames suffix ctx, name ∉ keywords) :
    (t.phrase suffix ctx).operator? = none := by
  cases t with
  | var v =>
    have nameFree := free (varName ctx v) (List.mem_singleton.mpr rfl)
    rw [phrase, Phrase.operator?, if_neg (ne_of_not_keyword nameFree (by decide)),
      if_neg (ne_of_not_keyword nameFree (by decide)), if_neg (ne_of_not_keyword nameFree (by decide))]
  | foreign form => cases known
  | _ => rfl

theorem readWord_varName {v : Var} (distinct : ctx.names.Nodup) (fits : v.FitsIn ctx.length)
    (free : varName ctx v ∉ keywords) : Phrase.readWord ctx.names (varName ctx v) = .var v := by
  obtain ⟨i, position, present⟩ := exists_name_of_fits fits
  obtain ⟨within, here⟩ := List.getElem?_eq_some_iff.mp present
  have found : ctx.names.idxOf (varName ctx v) = i := by
    rw [← here]
    exact distinct.idxOf_getElem i within
  rw [Phrase.readWord, if_neg (ne_of_not_keyword free (by decide)), if_neg (ne_of_not_keyword free (by decide)),
    if_neg (ne_of_not_keyword free (by decide)), found, Context.length_names, position]

/-- Reading undoes printing, up to hints. Contexts keep their names distinct under every binder, because its name is
fresh. -/
theorem read_phrase (usable : suffix ≠ "") (distinct : ctx.names.Nodup) (known : t.isKnown = true)
    (fits : t.WellFormed ctx.length) (free : ∀ name ∈ t.shownNames suffix ctx, name ∉ keywords) :
    (t.phrase suffix ctx).read ctx.names = t.withoutHints := by
  induction t generalizing ctx with
  | var v => exact readWord_varName distinct (wellFormed_var.mp fits) (free _ (List.mem_singleton.mpr rfl))
  | abs hint ann body ih =>
    have distinct' : (ctx.extend (ctx.freshName hint suffix) .name).names.Nodup :=
      List.nodup_cons.mpr ⟨ctx.freshName_not_mem hint usable, distinct⟩
    obtain ⟨_, bodyFree⟩ := List.forall_mem_cons.mp free
    have bodyRead := ih distinct' known (fits.under_binder _ .name) bodyFree
    rw [Context.names_extend] at bodyRead
    simp only [phrase, Phrase.read, withoutHints, bodyRead]
  | app fn arg fnIH argIH =>
    simp only [isKnown, Bool.and_eq_true] at known
    obtain ⟨fnFits, argFits⟩ := wellFormed_app.mp fits
    obtain ⟨fnFree, argFree⟩ := List.forall_mem_append.mp free
    simp only [phrase, Phrase.read, operator?_phrase known.1 fnFree, withoutHints,
      fnIH distinct known.1 fnFits fnFree, argIH distinct known.2 argFits argFree]
  | ite guard thn els guardIH thnIH elsIH =>
    simp only [isKnown, Bool.and_eq_true] at known
    obtain ⟨⟨guardFits, thnFits⟩, elsFits⟩ := wellFormed_ite.mp fits
    obtain ⟨frontFree, elsFree⟩ := List.forall_mem_append.mp free
    obtain ⟨guardFree, thnFree⟩ := List.forall_mem_append.mp frontFree
    simp only [phrase, Phrase.read, withoutHints, guardIH distinct known.1.1 guardFits guardFree,
      thnIH distinct known.1.2 thnFits thnFree, elsIH distinct known.2 elsFits elsFree]
  | succ arg ih | pred arg ih | isZero arg ih =>
    have argRead := ih distinct known fits free
    rw [withoutHints, ← argRead]
    rfl
  | foreign form => cases known
  | _ => rfl

/-- What a term needs so that its text can be read back: its variables are those of the context, its hints can be written
as words, and no name shown looks like a word of the printer's own. -/
structure Readable (suffix : String) (ctx : Context) (t : Term) : Prop where
  fits : t.WellFormed ctx.length
  words : ∀ hint ∈ t.hints, IsWord hint
  free : ∀ name ∈ t.shownNames suffix ctx, name ∉ keywords

/-- Printing is faithful: terms with the same text differ in nothing but the hints of their abstractions. -/
theorem render_determines_term {suffix text : String} {ctx : Context} {t u : Term} (distinct : ctx.names.Nodup)
    (namesWords : ∀ name ∈ ctx.names, IsWord name) (suffixWord : IsWord suffix)
    (readable : t.Readable suffix ctx) (readable' : u.Readable suffix ctx)
    (printed : t.render suffix ctx = .ok text) (printed' : u.render suffix ctx = .ok text) :
    t.withoutHints = u.withoutHints := by
  obtain ⟨known, written⟩ := toList_of_render printed
  obtain ⟨known', written'⟩ := toList_of_render printed'
  have phrases : t.phrase suffix ctx = u.phrase suffix ctx :=
    Phrase.eq_of_text_eq (spelled_phrase suffixWord namesWords readable.words known readable.fits)
      (spelled_phrase suffixWord namesWords readable'.words known' readable'.fits) (written.symm.trans written')
  calc
    t.withoutHints = (t.phrase suffix ctx).read ctx.names :=
      (read_phrase suffixWord.1 distinct known readable.fits readable.free).symm
    _ = (u.phrase suffix ctx).read ctx.names := by rw [phrases]
    _ = u.withoutHints := read_phrase suffixWord.1 distinct known' readable'.fits readable'.free

def appliedOutside (hint : String) : Term :=
  .abs hint (some (.arrow .nat .bool)) (.app (.var ⟨0, 2⟩) (.var ⟨1, 2⟩))

/-- One hint is taken and gets a suffix, the other has the suffix already: the texts are the same, and so are the terms
without their hints. -/
theorem render_determines_term_appliedOutside :
    (appliedOutside "x").render "'" [("x", .name)] = .ok "(lambda x':Nat -> Bool. (x' x))" ∧
      (appliedOutside "x'").render "'" [("x", .name)] = .ok "(lambda x':Nat -> Bool. (x' x))" ∧
      (appliedOutside "x").withoutHints = (appliedOutside "x'").withoutHints := by
  have printed : (appliedOutside "x").render "'" [("x", .name)] = .ok "(lambda x':Nat -> Bool. (x' x))" := by decide
  have printed' : (appliedOutside "x'").render "'" [("x", .name)] = .ok "(lambda x':Nat -> Bool. (x' x))" := by decide
  have readable : (appliedOutside "x").Readable "'" [("x", .name)] := ⟨by decide, by decide, by decide⟩
  have readable' : (appliedOutside "x'").Readable "'" [("x", .name)] := ⟨by decide, by decide, by decide⟩
  exact ⟨printed, printed', render_determines_term (by decide) (by decide) (by decide) readable readable' printed printed'⟩

end Term

end Calculi
