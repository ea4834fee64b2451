import Calculi.Proofs.Outcome
import Calculi.Proofs.Walk
import Calculi.Typing

/-!
The type system as a relation. Inference returns a type exactly when the relation has it, so facts about typing
are proved by induction on derivations. Main statements: moving a term under more binders keeps its type, and so
does putting an argument of the right type for a variable.
-/
namespace Calculi

/-- The rules of the simply typed calculus with booleans and numbers. Position 0 of the context is the binder
introduced last. -/
inductive HasType : Context → Term → Ty → Prop where
  | var {ctx : Context} {index : Nat} {scope : Int} {name : String} {ty : Ty}
      (entry : ctx[index]? = some (name, .typed ty)) : HasType ctx (.var ⟨index, scope⟩) ty
  | abs {ctx : Context} {hint : String} {dom cod : Ty} {body : Term}
      (typed : HasType (ctx.extend hint (.typed dom)) body cod) :
      HasType ctx (.abs hint (some dom) body) (.arrow dom cod)
  | app {ctx : Context} {fn arg : Term} {dom cod : Ty} (fnTyped : HasType ctx fn (.arrow dom cod))
      (argTyped : HasType ctx arg dom) : HasType ctx (.app fn arg) cod
  | tru {ctx : Context} : HasType ctx .tru .bool
  | fls {ctx : Context} : HasType ctx .fls .bool
  | ite {ctx : Context} {guard thn els : Term} {ty : Ty} (guardTyped : HasType ctx guard .bool)
      (thnTyped : HasType ctx thn ty) (elsTyped : HasType ctx els ty) : HasType ctx (.ite guard thn els) ty
  | zero {ctx : Context} : HasType ctx .zero .nat
  | succ {ctx : Context} {arg : Term} (typed : HasType ctx arg .nat) : HasType ctx (.succ arg) .nat
  | pred {ctx : Context} {arg : Term} (typed : HasType ctx arg .nat) : HasType ctx (.pred arg) .nat
  | isZero {ctx : Context} {arg : Term} (typed : HasType ctx arg .nat) : HasType ctx (.isZero arg) .bool

namespace Context

theorem append_extend (inner ctx : Context) (name : String) (binding : Binding) :
    inner ++ ctx.extend name binding = inner ++ [(name, binding)] ++ ctx := by
  simp [extend]

theorem cutoff_append_singleton (cutoff : Int) (inner : Context) (entry : String × Binding) :
    cutoff + 1 + (inner.length : Int) = cutoff + ((inner ++ [entry]).length : Int) := by
  simp only [List.length_append, List.length_singleton]
  omega

theorem entryAt_eq_ok_iff {ctx : Context} {index : Int} {entry : String × Binding} :
    ctx.entryAt index = .ok entry ↔ ∃ n : Nat, index = n ∧ ctx[n]? = some entry := by
  constructor
  · intro found
    by_cases negative : index < 0
    · simp [entryAt, negative] at found
    · refine ⟨index.toNat, by omega, ?_⟩
      cases looked : ctx[index.toNat]? with
      | none => simp [entryAt, negative, looked] at found
      | some other =>
        simp only [entryAt, negative, looked, if_false, Except.ok.injEq] at found
        rw [found]
  · rintro ⟨n, rfl, looked⟩
    simp [entryAt, looked, show ¬((n : Int) < 0) by omega]

theorem typeAt_eq_ok_iff {ctx : Context} {index : Int} {ty : Ty} :
    ctx.typeAt index = .ok ty ↔
      ∃ (n : Nat) (name : String), index = n ∧ ctx[n]? = some (name, .typed ty) := by
  simp only [typeAt, bind_eq_ok_iff, entryAt_eq_ok_iff]
  constructor
  · rintro ⟨⟨name, binding⟩, ⟨n, rfl, looked⟩, found⟩
    cases binding with
    | name => cases found
    | typed other =>
      cases found
      exact ⟨n, name, rfl, looked⟩
  · rintro ⟨n, name, rfl, looked⟩
    exact ⟨(name, .typed ty), ⟨n, rfl, looked⟩, rfl⟩

section

variable {inner outer : Context} {index : Int} {ty : Ty}

theorem typeAt_append_of_lt (bound : index < inner.length) :
    (inner ++ outer).typeAt index = .ok ty ↔ inner.typeAt index = .ok ty := by
  rw [typeAt_eq_ok_iff, typeAt_eq_ok_iff]
  constructor
  · rintro ⟨n, name, rfl, entry⟩
    rw [List.getElem?_append_left (by omega)] at entry
    exact ⟨n, name, rfl, entry⟩
  · rintro ⟨n, name, rfl, entry⟩
    refine ⟨n, name, rfl, ?_⟩
    rw [List.getElem?_append_left (by omega)]
    exact entry

theorem typeAt_append_of_le (free : inner.length ≤ index) :
    (inner ++ outer).typeAt index = .ok ty ↔ outer.typeAt (index - inner.length) = .ok ty := by
  rw [typeAt_eq_ok_iff, typeAt_eq_ok_iff]
  constructor
  · rintro ⟨n, name, rfl, entry⟩
    rw [List.getElem?_append_right (by omega)] at entry
    exact ⟨n - inner.length, name, by omega, entry⟩
  · rintro ⟨n, name, distance, entry⟩
    refine ⟨inner.length + n, name, by omega, ?_⟩
    rw [List.getElem?_append_right (by omega), Nat.add_sub_cancel_left]
    exact entry

theorem typeAt_shift (inner added outer : Context) (v : Var) (ty : Ty) :
    (inner ++ outer).typeAt v.index = .ok ty ↔
      (inner ++ (added ++ outer)).typeAt (v.shift added.length inner.length).index = .ok ty := by
  by_cases free : (inner.length : Int) ≤ v.index
  · simp only [Var.shift, if_pos free]
    rw [typeAt_append_of_le free, typeAt_append_of_le (by omega), typeAt_append_of_le (by omega)]
    have distance : v.index + added.length - inner.length - added.length = v.index - inner.length := by omega
    rw [distance]
  · simp only [Var.shift, if_neg free]
    rw [typeAt_append_of_lt (by omega), typeAt_append_of_lt (by omega)]

end

end Context

namespace Term

theorem applyType_eq_ok_iff {whole : Term} {fnType argType ty : Ty} :
    applyType whole fnType argType = .ok ty ↔ fnType = .arrow argType ty := by
  cases fnType with
  | arrow dom cod =>
    simp only [applyType, Ty.arrow.injEq]
    split <;> simp_all
  | _ => simp [applyType]

theorem expectNat_eq_ok_iff {whole : Term} {result actual ty : Ty} :
    expectNat whole result actual = .ok ty ↔ actual = .nat ∧ result = ty := by
  unfold expectNat
  split <;> simp_all

theorem hasType_of_infer {ctx : Context} {t : Term} {ty : Ty} (inferred : t.infer ctx = .ok ty) :
    HasType ctx t ty := by
  induction t generalizing ctx ty with
  | var v =>
    obtain ⟨index, scope⟩ := v
    cases looked : ctx.typeAt index with
    | error cause => simp [infer, looked] at inferred
    | ok other =>
      simp only [infer, looked, Except.ok.injEq] at inferred
      obtain ⟨n, name, rfl, entry⟩ := Context.typeAt_eq_ok_iff.mp looked
      exact inferred ▸ .var entry
  | abs hint ann body ih =>
    cases ann with
    | none => simp [infer] at inferred
    | some dom =>
      simp only [infer] at inferred
      obtain ⟨cod, bodyInferred, same⟩ := bind_eq_ok_iff.mp inferred
      cases same
      exact .abs (ih bodyInferred)
  | app fn arg fnIH argIH =>
    simp only [infer] at inferred
    obtain ⟨fnType, fnInferred, rest⟩ := bind_eq_ok_iff.mp inferred
    obtain ⟨argType, argInferred, applied⟩ := bind_eq_ok_iff.mp rest
    obtain rfl := applyType_eq_ok_iff.mp applied
    exact .app (fnIH fnInferred) (argIH argInferred)
  | tru => cases inferred; exact .tru
  | fls => cases inferred; exact .fls
  | ite guard thn els guardIH thnIH elsIH =>
    simp only [infer] at inferred
    obtain ⟨guardType, guardInferred, rest⟩ := bind_eq_ok_iff.mp inferred
    split at rest
    next isBool =>
      obtain ⟨thnType, thnInferred, rest⟩ := bind_eq_ok_iff.mp rest
      obtain ⟨elsType, elsInferred, rest⟩ := bind_eq_ok_iff.mp rest
      split at rest
      next same =>
        cases rest
        exact .ite (guardIH (isBool ▸ guardInferred)) (thnIH thnInferred) (elsIH (same ▸ elsInferred))
      next => cases rest
    next => cases rest
  | zero => cases inferred; exact .zero
  | succ arg ih =>
    simp only [infer] at inferred
    obtain ⟨argType, argInferred, expected⟩ := bind_eq_ok_iff.mp inferred
    obtain ⟨rfl, rfl⟩ := expectNat_eq_ok_iff.mp expected
    exact .succ (ih argInferred)
  | pred arg ih =>
    simp only [infer] at inferred
    obtain ⟨argType, argInferred, expected⟩ := bind_eq_ok_iff.mp inferred
    obtain ⟨rfl, rfl⟩ := expectNat_eq_ok_iff.mp expected
    exact .pred (ih argInferred)
  | isZero arg ih =>
    simp only [infer] at inferred
    obtain ⟨argType, argInferred, expected⟩ := bind_eq_ok_iff.mp inferred
    obtain ⟨rfl, rfl⟩ := expectNat_eq_ok_iff.mp expected
    exact .isZero (ih argInferred)
  | foreign text => cases inferred

end Term

theorem HasType.infer {ctx : Context} {t : Term} {ty : Ty} (typed : HasType ctx t ty) :
    t.infer ctx = .ok ty := by
  induction typed with
  | @var ctx index scope name ty entry =>
    have looked : ctx.typeAt index = .ok ty := Context.typeAt_eq_ok_iff.mpr ⟨index, name, rfl, entry⟩
    simp only [Term.infer, looked]
  | abs _ ih => simp only [Term.infer, ih]; rfl
  | app _ _ fnIH argIH =>
    simp only [Term.infer, fnIH, argIH]
    exact Term.applyType_eq_ok_iff.mpr rfl
  | ite _ _ _ guardIH thnIH elsIH =>
    simp only [Term.infer, guardIH, thnIH, elsIH, bind, Except.bind, if_true]
    rfl
  | succ _ ih => simp only [Term.infer, ih]; rfl
  | pred _ ih => simp only [Term.infer, ih]; rfl
  | isZero _ ih => simp only [Term.infer, ih]; rfl
  | _ => rfl

theorem infer_eq_ok_iff {ctx : Context} {t : Term} {ty : Ty} : t.infer ctx = .ok ty ↔ HasType ctx t ty :=
  ⟨Term.hasType_of_infer, HasType.infer⟩

namespace Term

theorem applyType_error {whole : Term} {fnType argType : Ty} {failure : TypingFailure}
    (failed : applyType whole fnType argType = .error failure) : ∃ error, failure = .illTyped error := by
  unfold applyType at failed
  split at failed
  · split at failed
    · cases failed
    · cases failed
      exact ⟨_, rfl⟩
  · cases failed
    exact ⟨_, rfl⟩

theorem expectNat_error {whole : Term} {result actual : Ty} {failure : TypingFailure}
    (failed : expectNat whole result actual = .error failure) : ∃ error, failure = .illTyped error := by
  unfold expectNat at failed
  split at failed
  · cases failed
  · cases failed
    exact ⟨_, rfl⟩

/-- On terms of known forms inference fails only because the term is ill-typed. The failure of a subterm is the
failure of the whole, so the induction is on the term. -/
theorem illTyped_of_infer_error {ctx : Context} {t : Term} {failure : TypingFailure}
    (known : t.isKnown = true) (failed : t.infer ctx = .error failure) :
    ∃ error, failure = .illTyped error := by
  induction t generalizing ctx with
  | var v =>
    simp only [infer] at failed
    split at failed
    · cases failed
    · cases failed
      exact ⟨_, rfl⟩
  | abs hint ann body ih =>
    cases ann with
    | none =>
      cases failed
      exact ⟨_, rfl⟩
    | some dom =>
      simp only [infer] at failed
      rcases bind_eq_error_iff.mp failed with bodyFailed | ⟨cod, _, impossible⟩
      · exact ih known bodyFailed
      · cases impossible
  | app fn arg fnIH argIH =>
    simp only [isKnown, Bool.and_eq_true] at known
    simp only [infer] at failed
    rcases bind_eq_error_iff.mp failed with fnFailed | ⟨fnType, _, rest⟩
    · exact fnIH known.1 fnFailed
    rcases bind_eq_error_iff.mp rest with argFailed | ⟨argType, _, applied⟩
    · exact argIH known.2 argFailed
    · exact applyType_error applied
  | ite guard thn els guardIH thnIH elsIH =>
    simp only [isKnown, Bool.and_eq_true] at known
    simp only [infer] at failed
    rcases bind_eq_error_iff.mp failed with guardFailed | ⟨guardType, _, rest⟩
    · exact guardIH known.1.1 guardFailed
    split at rest
    next =>
      rcases bind_eq_error_iff.mp rest with thnFailed | ⟨thnType, _, rest⟩
      · exact thnIH known.1.2 thnFailed
      rcases bind_eq_error_iff.mp rest with elsFailed | ⟨elsType, _, rest⟩
      · exact elsIH known.2 elsFailed
      split at rest
      · cases rest
      · cases rest
        exact ⟨_, rfl⟩
    next =>
      cases rest
      exact ⟨_, rfl⟩
  | succ arg ih | pred arg ih | isZero arg ih =>
    simp only [infer] at failed
    rcases bind_eq_error_iff.mp failed with argFailed | ⟨argType, _, expected⟩
    · exact ih known argFailed
    · exact expectNat_error expected
  | foreign text => cases known
  | _ => cases failed

end Term

namespace HasType

theorem isKnown {ctx : Context} {t : Term} {ty : Ty} (typed : HasType ctx t ty) : t.isKnown = true := by
  induction typed with
  | app _ _ fnIH argIH => simp only [Term.isKnown, fnIH, argIH, Bool.and_self]
  | ite _ _ _ guardIH thnIH elsIH => simp only [Term.isKnown, guardIH, thnIH, elsIH, Bool.and_self]
  | var _ => rfl
  | tru => rfl
  | fls => rfl
  | zero => rfl
  | abs _ ih => exact ih
  | succ _ ih => exact ih
  | pred _ ih => exact ih
  | isZero _ ih => exact ih

theorem mapVars {ctx ctx' : Context} {t : Term} {ty : Ty} (typed : HasType ctx t ty)
    {visit : Var → Int → Term} {cutoff : Int}
    (answers : ∀ (inner : Context) (v : Var) (ty : Ty), HasType (inner ++ ctx) (.var v) ty →
      HasType (inner ++ ctx') (visit v (cutoff + inner.length)) ty) :
    HasType ctx' (t.mapVars visit cutoff) ty := by
  induction typed generalizing ctx' cutoff with
  | var entry => simpa [Term.mapVars] using answers [] _ _ (.var entry)
  | @abs ctx hint dom cod body _ ih =>
    apply HasType.abs
    apply ih
    intro inner v ty typedVar
    rw [Context.append_extend] at typedVar ⊢
    rw [Context.cutoff_append_singleton]
    exact answers _ v ty typedVar
  | app _ _ fnIH argIH => exact .app (fnIH answers) (argIH answers)
  | tru => exact .tru
  | fls => exact .fls
  | ite _ _ _ guardIH thnIH elsIH => exact .ite (guardIH answers) (thnIH answers) (elsIH answers)
  | zero => exact .zero
  | succ _ ih => exact .succ (ih answers)
  | pred _ ih => exact .pred (ih answers)
  | isZero _ ih => exact .isZero (ih answers)

theorem var_iff {ctx : Context} {v : Var} {ty : Ty} :
    HasType ctx (.var v) ty ↔ ctx.typeAt v.index = .ok ty := by
  rw [Context.typeAt_eq_ok_iff]
  constructor
  · intro typed
    cases typed with
    | var entry => exact ⟨_, _, rfl, entry⟩
  · intro found
    obtain ⟨index, scope⟩ := v
    obtain ⟨n, name, same, entry⟩ := found
    cases same
    exact .var entry

/-- Weakening: binders may be added anywhere, and the variables from there on move past them. -/
theorem shiftFrom {pre outer : Context} {t : Term} {ty : Ty} (typed : HasType (pre ++ outer) t ty)
    (added : Context) :
    HasType (pre ++ (added ++ outer)) (t.shiftFrom added.length pre.length) ty := by
  apply typed.mapVars
  intro inner v ty typedVar
  have depth : (pre.length : Int) + inner.length = (inner ++ pre).length := by
    simp only [List.length_append]
    omega
  rw [depth]
  rw [← List.append_assoc] at typedVar ⊢
  have found := var_iff.mp typedVar
  exact var_iff.mpr ((Context.typeAt_shift (inner ++ pre) added outer v ty).mp found)

theorem shift {outer : Context} {t : Term} {ty : Ty} (typed : HasType outer t ty) (added : Context) :
    HasType (added ++ outer) (t.shiftFrom added.length 0) ty := by
  have within : HasType ([] ++ outer) t ty := typed
  exact within.shiftFrom added

theorem fill {pre outer : Context} {name : String} {dom ty : Ty} {t arg : Term}
    (typed : HasType (pre ++ (name, .typed dom) :: outer) t ty) (argTyped : HasType outer arg dom) :
    HasType (pre ++ outer) (t.fill [arg] pre.length) ty := by
  apply typed.mapVars
  intro inner v ty typedVar
  have depth : (pre.length : Int) + inner.length = (inner ++ pre).length := by
    simp only [List.length_append]
    omega
  rw [depth]
  rw [← List.append_assoc] at typedVar ⊢
  generalize inner ++ pre = front at typedVar
  have found := var_iff.mp typedVar
  rcases Int.lt_trichotomy v.index front.length with bound | here | free
  · rw [Context.typeAt_append_of_lt bound] at found
    rw [Term.fillVar_bound bound]
    exact var_iff.mpr ((Context.typeAt_append_of_lt bound).mpr found)
  · rw [Context.typeAt_append_of_le (by omega), here, Int.sub_self] at found
    cases found
    rw [Term.fillVar_arg 0 (by omega) rfl]
    exact argTyped.shift front
  · have past : (([(name, .typed dom)] : Context).length : Int) ≤ v.index - front.length := by
      simp only [List.length_singleton]
      omega
    rw [Context.typeAt_append_of_le (by omega), ← List.singleton_append, Context.typeAt_append_of_le past] at found
    rw [Term.fillVar_free (by simp only [List.length_singleton]; omega)]
    apply var_iff.mpr
    simp only [List.length_singleton] at found ⊢
    have distance : v.index - (1 : Nat) - front.length = v.index - front.length - (1 : Nat) := by omega
    rw [Context.typeAt_append_of_le (by omega), distance]
    exact found

theorem instantiate {outer : Context} {name : String} {dom ty : Ty} {body arg : Term}
    (typed : HasType (outer.extend name (.typed dom)) body ty) (argTyped : HasType outer arg dom) :
    HasType outer (body.fill [arg] 0) ty := by
  have within : HasType ([] ++ (name, .typed dom) :: outer) body ty := typed
  exact within.fill argTyped

/-- The binder may also stay: the argument has a type where the variable does, and wherever the variable is named both
have moved past the same binders. -/
theorem replace {ctx : Context} {t arg : Term} {j : Int} {dom ty : Ty} (typed : HasType ctx t ty)
    (lookup : ctx.typeAt j = .ok dom) (argTyped : HasType ctx arg dom) : HasType ctx (t.replace j arg 0) ty := by
  obtain ⟨slot, _, position, _⟩ := Context.typeAt_eq_ok_iff.mp lookup
  apply typed.mapVars
  intro inner v ty typedVar
  rw [Int.zero_add]
  by_cases named : v.index = j + inner.length
  · have found := var_iff.mp typedVar
    rw [Context.typeAt_append_of_le (by omega), named, Int.add_sub_cancel, lookup] at found
    cases found
    rw [Term.replaceVar, if_pos named]
    exact argTyped.shift inner
  · rw [Term.replaceVar, if_neg named]
    exact typedVar

end HasType

namespace Term

def negation : Term :=
  .abs "x" (some .bool) (.ite (.var ⟨0, 1⟩) .fls .tru)

def negatedTwice : Term :=
  .app
    (.abs "f" (some (.arrow .bool .bool))
      (.ite (.app (.var ⟨0, 2⟩) (.app (.var ⟨0, 2⟩) .tru)) (.var ⟨1, 2⟩) .fls))
    negation

theorem infer_negatedTwice (outer : Context) :
    negatedTwice.infer (("y", .typed .bool) :: outer) = .ok .bool := rfl

end Term

/-- Inference decides the type system: it returns the types that have a derivation, and it reports a type error,
and nothing else, when there is none. -/
theorem infer_decides_hasType {t : Term} (known : t.isKnown = true) (ctx : Context) :
    (∀ ty, t.infer ctx = .ok ty ↔ HasType ctx t ty) ∧
    ((∃ error, t.infer ctx = .error (.illTyped error)) ↔ ¬∃ ty, HasType ctx t ty) ∧
    ∀ failure, t.infer ctx = .error failure → ∃ error, failure = .illTyped error := by
  refine ⟨fun ty => infer_eq_ok_iff, ⟨?_, fun untypable => ?_⟩, fun failure => Term.illTyped_of_infer_error known⟩
  · rintro ⟨error, failed⟩ ⟨ty, typed⟩
    rw [typed.infer] at failed
    cases failed
  · cases outcome : t.infer ctx with
    | ok ty => exact absurd ⟨ty, Term.hasType_of_infer outcome⟩ untypable
    | error failure =>
      obtain ⟨error, rfl⟩ := Term.illTyped_of_infer_error known outcome
      exact ⟨error, rfl⟩

/-- The free variable decides: with a type for it the term has one, with a bare name it has none. -/
theorem infer_decides_negatedTwice :
    Term.negatedTwice.isKnown = true ∧
      HasType [("y", .typed .bool)] .negatedTwice .bool ∧
      ¬∃ ty, HasType [("y", .name)] .negatedTwice ty := by
  have known : Term.negatedTwice.isKnown = true := rfl
  refine ⟨known, ((infer_decides_hasType known _).1 .bool).mp rfl, ?_⟩
  exact (infer_decides_hasType known [("y", .name)]).2.1.mp ⟨_, rfl⟩

/-- Substitution does not fail on terms that have types, and it keeps them. The term put in need not be a value and may
have free variables, the one it is put for among them. -/
theorem infer_kept_by_substitution {ctx : Context} {s : Term} {dom : Ty} (argInferred : s.infer ctx = .ok dom) :
    (∀ (j : Int) (t : Term) (ty : Ty), ctx.typeAt j = .ok dom → t.infer ctx = .ok ty →
      ∃ replaced, t.substitute j s = .ok replaced ∧ replaced.infer ctx = .ok ty) ∧
    ∀ (name : String) (body : Term) (ty : Ty), body.infer (ctx.extend name (.typed dom)) = .ok ty →
      ∃ next, body.instantiate s = .ok next ∧ next.infer ctx = .ok ty := by
  have argTyped := infer_eq_ok_iff.mp argInferred
  refine ⟨fun j t ty lookup inferred => ?_, fun name body ty inferred => ?_⟩
  · have typed := infer_eq_ok_iff.mp inferred
    have replaced := Term.substitute_eq_replace typed.isKnown argTyped.isKnown j
    exact ⟨_, replaced, (typed.replace lookup argTyped).infer⟩
  · have typed := infer_eq_ok_iff.mp inferred
    have instantiated := Term.instantiate_eq_fill typed.isKnown argTyped.isKnown
    exact ⟨_, instantiated, (typed.instantiate argTyped).infer⟩

/-- What is put for the free variable mentions that variable and is no value. -/
theorem infer_kept_by_substitution_negatedTwice :
    ∃ replaced, Term.negatedTwice.substitute 0 (.ite (.var ⟨0, 1⟩) .fls .tru) = .ok replaced ∧
      replaced ≠ .negatedTwice ∧ replaced.infer [("y", .typed .bool)] = .ok .bool := by
  have argInferred : (Term.ite (.var ⟨0, 1⟩) .fls .tru).infer [("y", .typed .bool)] = .ok .bool := rfl
  obtain ⟨replaced, substituted, inferred⟩ :=
    (infer_kept_by_substitution argInferred).1 0 _ .bool rfl (Term.infer_negatedTwice [])
  refine ⟨replaced, substituted, ?_, inferred⟩
  cases substituted
  decide

end Calculi
