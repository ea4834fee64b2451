import Calculi.Proofs.Erasure
import Calculi.Proofs.HasType
import Calculi.Proofs.SubstitutionLaws

/-!
What inference goes by: the form of the term, its annotations, and the types of the entries that its variables name.
Main statements: a term that moves under more binders keeps its verdict, a type or a kind of error, and so does a term
whose hints and scopes change, in any context that has the same types where the term has free variables.
-/
namespace Calculi

/-- Two inferences give the same type, or report type errors of the same kind. -/
inductive SameVerdict : Except TypingFailure Ty → Except TypingFailure Ty → Prop where
  | typed (ty : Ty) : SameVerdict (.ok ty) (.ok ty)
  | illTyped {e e' : TypingError} (kinds : e.kind = e'.kind) :
      SameVerdict (.error (.illTyped e)) (.error (.illTyped e'))

namespace SameVerdict

theorem eq_ok_iff {x y : Except TypingFailure Ty} (same : SameVerdict x y) (ty : Ty) : x = .ok ty ↔ y = .ok ty := by
  cases same with
  | typed other => exact Iff.rfl
  | illTyped kinds => constructor <;> intro impossible <;> cases impossible

theorem bind {x y : Except TypingFailure Ty} {f g : Ty → Except TypingFailure Ty} (first : SameVerdict x y)
    (rest : ∀ ty, SameVerdict (f ty) (g ty)) : SameVerdict (x >>= f) (y >>= g) := by
  cases first with
  | typed ty => exact rest ty
  | illTyped kinds => exact .illTyped kinds

theorem applyType (whole whole' : Term) (fnType argType : Ty) :
    SameVerdict (Term.applyType whole fnType argType) (Term.applyType whole' fnType argType) := by
  cases fnType with
  | arrow dom cod =>
    by_cases accepted : dom = argType
    · simp only [Term.applyType, if_pos accepted]
      exact .typed cod
    · simp only [Term.applyType, if_neg accepted]
      exact .illTyped rfl
  | bool => exact .illTyped rfl
  | nat => exact .illTyped rfl

/-! The verdict on a term comes from the verdicts on its parts -/

variable {ctx ctx' : Context}

theorem var {v w : Var} (types : ∀ ty, ctx.typeAt v.index = .ok ty ↔ ctx'.typeAt w.index = .ok ty) :
    SameVerdict ((Term.var v).infer ctx) ((Term.var w).infer ctx') := by
  cases found : ctx.typeAt v.index with
  | ok ty =>
    have found' : ctx'.typeAt w.index = .ok ty := (types ty).mp found
    simp only [Term.infer, found, found']
    exact .typed ty
  | error cause =>
    cases found' : ctx'.typeAt w.index with
    | ok ty =>
      rw [(types ty).mpr found'] at found
      cases found
    | error cause' =>
      simp only [Term.infer, found, found']
      exact .illTyped rfl

theorem abs {hint hint' : String} {ann : Option Ty} {body body' : Term}
    (bodies : ∀ dom, SameVerdict (body.infer (ctx.extend hint (.typed dom)))
      (body'.infer (ctx'.extend hint' (.typed dom)))) :
    SameVerdict ((Term.abs hint ann body).infer ctx) ((Term.abs hint' ann body').infer ctx') := by
  cases ann with
  | none => exact .illTyped rfl
  | some dom =>
    simp only [Term.infer]
    exact (bodies dom).bind fun cod => .typed (.arrow dom cod)

theorem app {fn fn' arg arg' : Term} (fns : SameVerdict (fn.infer ctx) (fn'.infer ctx'))
    (args : SameVerdict (arg.infer ctx) (arg'.infer ctx')) :
    SameVerdict ((Term.app fn arg).infer ctx) ((Term.app fn' arg').infer ctx') := by
  simp only [Term.infer]
  exact fns.bind fun fnType => args.bind fun argType => applyType _ _ fnType argType

theorem ite {guard guard' thn thn' els els' : Term} (guards : SameVerdict (guard.infer ctx) (guard'.infer ctx'))
    (thns : SameVerdict (thn.infer ctx) (thn'.infer ctx')) (elses : SameVerdict (els.infer ctx) (els'.infer ctx')) :
    SameVerdict ((Term.ite guard thn els).infer ctx) ((Term.ite guard' thn' els').infer ctx') := by
  simp only [Term.infer]
  apply guards.bind
  intro guardType
  by_cases isBool : guardType = .bool
  · simp only [if_pos isBool]
    apply thns.bind
    intro thenType
    apply elses.bind
    intro elseType
    by_cases agree : thenType = elseType
    · simp only [if_pos agree]
      exact .typed thenType
    · simp only [if_neg agree]
      exact .illTyped rfl
  · simp only [if_neg isBool]
    exact .illTyped rfl

theorem operator {arg arg' : Term} (args : SameVerdict (arg.infer ctx) (arg'.infer ctx')) (whole whole' : Term)
    (result : Ty) :
    SameVerdict (arg.infer ctx >>= Term.expectNat whole result) (arg'.infer ctx' >>= Term.expectNat whole' result) := by
  apply args.bind
  intro actual
  by_cases number : actual = .nat
  · simp only [Term.expectNat, if_pos number]
    exact .typed result
  · simp only [Term.expectNat, if_neg number]
    exact .illTyped rfl

theorem mapVars {t : Term} (known : t.isKnown = true) {visit : Var → Int → Term} {cutoff : Int}
    (answers : ∀ (inner : Context) (v : Var), SameVerdict ((Term.var v).infer (inner ++ ctx))
      ((visit v (cutoff + inner.length)).infer (inner ++ ctx'))) :
    SameVerdict (t.infer ctx) ((t.mapVars visit cutoff).infer ctx') := by
  induction t generalizing ctx ctx' cutoff with
  | var v => simpa [Term.mapVars] using answers [] v
  | abs hint ann body ih =>
    apply SameVerdict.abs
    intro dom
    apply ih known
    intro inner v
    rw [Context.append_extend, Context.append_extend, Context.cutoff_append_singleton]
    exact answers _ v
  | app fn arg fnIH argIH =>
    simp only [Term.isKnown, Bool.and_eq_true] at known
    exact (fnIH known.1 answers).app (argIH known.2 answers)
  | tru => exact .typed .bool
  | fls => exact .typed .bool
  | ite guard thn els guardIH thnIH elsIH =>
    simp only [Term.isKnown, Bool.and_eq_true] at known
    exact (guardIH known.1.1 answers).ite (thnIH known.1.2 answers) (elsIH known.2 answers)
  | zero => exact .typed .nat
  | succ arg ih => exact (ih known answers).operator _ _ .nat
  | pred arg ih => exact (ih known answers).operator _ _ .nat
  | isZero arg ih => exact (ih known answers).operator _ _ .bool
  | foreign text => cases known

end SameVerdict

theorem Context.typeAt_congr {ctx ctx' : Context} (bindings : ctx.map Prod.snd = ctx'.map Prod.snd) (index : Int) (ty : Ty) :
    ctx.typeAt index = .ok ty ↔ ctx'.typeAt index = .ok ty := by
  have named (other : Context) (n : Nat) :
      (∃ name, other[n]? = some (name, .typed ty)) ↔ (other.map Prod.snd)[n]? = some (.typed ty) := by
    simp [List.getElem?_map]
  simp only [typeAt_eq_ok_iff, exists_and_left, named, bindings]

namespace Term

/-- The verdict on a term does not change when it moves under more binders, whatever these bind: it has the same types
there, and where it has none, the errors are of one kind. Its indices may be any integers; none comes to name an entry that
was added. -/
theorem infer_shift_verdict {t : Term} (known : t.isKnown = true) (added outer : Context) :
    ∃ moved, t.shift added.length = .ok moved ∧
      (∀ ty, moved.infer (added ++ outer) = .ok ty ↔ t.infer outer = .ok ty) ∧
      SameVerdict (t.infer outer) (moved.infer (added ++ outer)) := by
  have kept : SameVerdict (t.infer outer) ((t.shiftFrom added.length 0).infer (added ++ outer)) := by
    apply SameVerdict.mapVars known
    intro inner v
    apply SameVerdict.var
    intro ty
    rw [Int.zero_add]
    exact Context.typeAt_shift inner added outer v ty
  exact ⟨_, shift_eq_shiftFrom known added.length, fun ty => (kept.eq_ok_iff ty).symm, kept⟩

/-- None of the added entries has the type that the free variable needs. A negative index names no entry before and none
after. -/
theorem infer_shift_verdict_negatedTwice :
    (∃ moved, negatedTwice.shift 2 = .ok moved ∧
      moved.infer [("m", .typed .nat), ("n", .name), ("y", .typed .bool)] = .ok .bool) ∧
    ∃ moved, (Term.var ⟨-1, 1⟩).shift 2 = .ok moved ∧
      SameVerdict (.error (.illTyped (.variableNotFound (-1) (.var ⟨-1, 1⟩) (.outOfRange (-1) 1))))
        (moved.infer [("m", .typed .nat), ("n", .name), ("y", .typed .bool)]) := by
  have known : negatedTwice.isKnown = true := rfl
  have varKnown : (Term.var ⟨-1, 1⟩).isKnown = true := rfl
  obtain ⟨moved, shifted, types, _⟩ :=
    infer_shift_verdict known [("m", .typed .nat), ("n", .name)] [("y", .typed .bool)]
  obtain ⟨moved', shifted', _, verdict⟩ :=
    infer_shift_verdict varKnown [("m", .typed .nat), ("n", .name)] [("y", .typed .bool)]
  exact ⟨⟨moved, shifted, (types .bool).mpr (infer_negatedTwice [])⟩, moved', shifted', verdict⟩

abbrev Relabelled : Term → Term → Prop :=
  Alike (fun v w => v.index = w.index) (fun ann ann' => ann = ann')

/-- Under binders with the same types, the contexts need to agree only where the term has free variables. -/
theorem Relabelled.sameVerdict {t t' : Term} (alike : t.Relabelled t') {inner inner' ctx ctx' : Context}
    (binders : inner.map Prod.snd = inner'.map Prod.snd)
    (agree : ∀ occurrence ∈ t.occurrences inner.length, ∀ ty,
      ctx.typeAt (occurrence.1.index - occurrence.2) = .ok ty ↔
        ctx'.typeAt (occurrence.1.index - occurrence.2) = .ok ty) :
    SameVerdict (t.infer (inner ++ ctx)) (t'.infer (inner' ++ ctx')) := by
  induction alike generalizing inner inner' with
  | @var v w same =>
    apply SameVerdict.var
    intro ty
    have depth : inner.length = inner'.length := by simpa using congrArg List.length binders
    rw [← same]
    by_cases free : (inner.length : Int) ≤ v.index
    · rw [Context.typeAt_append_of_le free, Context.typeAt_append_of_le (by omega), ← depth]
      exact agree (v, inner.length) (List.mem_singleton.mpr rfl) ty
    · rw [Context.typeAt_append_of_lt (by omega), Context.typeAt_append_of_lt (by omega)]
      exact Context.typeAt_congr binders v.index ty
  | @abs hint hint' ann ann' body body' same _ ih =>
    subst same
    apply SameVerdict.abs
    intro dom
    have entered : (((hint, Binding.typed dom) :: inner).map Prod.snd) =
        (((hint', Binding.typed dom) :: inner').map Prod.snd) := by
      simp only [List.map_cons, binders]
    exact ih entered agree
  | app _ _ fnIH argIH =>
    obtain ⟨inFn, inArg⟩ := List.forall_mem_append.mp agree
    exact (fnIH binders inFn).app (argIH binders inArg)
  | tru => exact .typed .bool
  | fls => exact .typed .bool
  | ite _ _ _ guardIH thnIH elsIH =>
    obtain ⟨inFront, inEls⟩ := List.forall_mem_append.mp agree
    obtain ⟨inGuard, inThn⟩ := List.forall_mem_append.mp inFront
    exact (guardIH binders inGuard).ite (thnIH binders inThn) (elsIH binders inEls)
  | zero => exact .typed .nat
  | succ _ ih => exact (ih binders agree).operator _ _ .nat
  | pred _ ih => exact (ih binders agree).operator _ _ .nat
  | isZero _ ih => exact (ih binders agree).operator _ _ .bool

/-- Inference depends on what the term uses and nothing else. Change the hints and the scopes, and take any other
context with the same types, or none, where the term has free variables: the verdict stays. -/
theorem infer_depends_on_free {t t' : Term} (alike : t.Relabelled t') {ctx ctx' : Context}
    (agree : ∀ k, t.OccursFree k → ∀ ty, ctx.typeAt k = .ok ty ↔ ctx'.typeAt k = .ok ty) :
    SameVerdict (t.infer ctx) (t'.infer ctx') := by
  have within : SameVerdict (t.infer ([] ++ ctx)) (t'.infer ([] ++ ctx')) := by
    apply alike.sameVerdict rfl
    intro occurrence member
    exact agree _ ⟨occurrence, member, by omega⟩
  exact within

def appliesSecond (hint : String) (scope : Int) : Term :=
  .abs hint (some .bool) (.app (.var ⟨2, scope⟩) (.var ⟨0, scope⟩))

/-- The contexts share nothing but the type of their second entries. -/
theorem infer_depends_on_free_appliesSecond :
    (appliesSecond "x" 3).infer [("n", .name), ("f", .typed (.arrow .bool .nat))] = .ok (.arrow .bool .nat) ∧
      (appliesSecond "" (-7)).infer [("m", .typed .nat), ("g", .typed (.arrow .bool .nat)), ("k", .name)] =
        .ok (.arrow .bool .nat) := by
  have inferred : (appliesSecond "x" 3).infer [("n", .name), ("f", .typed (.arrow .bool .nat))] =
      .ok (.arrow .bool .nat) := rfl
  have alike : (appliesSecond "x" 3).Relabelled (appliesSecond "" (-7)) := .abs rfl (.app (.var rfl) (.var rfl))
  have agree : ∀ k, (appliesSecond "x" 3).OccursFree k → ∀ ty,
      Context.typeAt [("n", .name), ("f", .typed (.arrow .bool .nat))] k = .ok ty ↔
        Context.typeAt [("m", .typed .nat), ("g", .typed (.arrow .bool .nat)), ("k", .name)] k = .ok ty := by
    rintro k ⟨occurrence, member, named⟩ ty
    have places : occurrence = (⟨2, 3⟩, 1) ∨ occurrence = (⟨0, 3⟩, 1) := by
      simpa [appliesSecond, occurrences] using member
    rcases places with rfl | rfl
    · obtain rfl : k = 1 := by simp only at named; omega
      exact Iff.rfl
    · obtain rfl : k = -1 := by simp only at named; omega
      constructor <;> intro impossible <;> cases impossible
  exact ⟨inferred, ((infer_depends_on_free alike agree).eq_ok_iff _).mp inferred⟩

end Term

end Calculi
