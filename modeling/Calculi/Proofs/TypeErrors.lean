import Calculi.Proofs.HasType

/-!
Which occurrence a type error is about. Inference visits the premises of a term's rule in their order and stops at the
first that fails, so an error comes from one occurrence: its own rule failed on premises that had types, and everything
visited on the way to it had a type. There is no other such occurrence.
-/
namespace Calculi

namespace Term

/-- Inference goes on from a term to its `i`-th child, in the context that the child is visited in. Each rule says what
the children before have given. An abstraction without annotation is not entered. -/
inductive Enters (ctx : Context) : Term → Nat → Context → Term → Prop where
  | body {hint : String} {dom : Ty} {body : Term} :
      Enters ctx (.abs hint (some dom) body) 0 (ctx.extend hint (.typed dom)) body
  | function {fn arg : Term} : Enters ctx (.app fn arg) 0 ctx fn
  | argument {fn arg : Term} {fnType : Ty} (fnTyped : fn.infer ctx = .ok fnType) :
      Enters ctx (.app fn arg) 1 ctx arg
  | guard {guard thn els : Term} : Enters ctx (.ite guard thn els) 0 ctx guard
  | thn {guard thn els : Term} (guardTyped : guard.infer ctx = .ok .bool) :
      Enters ctx (.ite guard thn els) 1 ctx thn
  | els {guard thn els : Term} {thenType : Ty} (guardTyped : guard.infer ctx = .ok .bool)
      (thnTyped : thn.infer ctx = .ok thenType) : Enters ctx (.ite guard thn els) 2 ctx els
  | succ {arg : Term} : Enters ctx (.succ arg) 0 ctx arg
  | pred {arg : Term} : Enters ctx (.pred arg) 0 ctx arg
  | isZero {arg : Term} : Enters ctx (.isZero arg) 0 ctx arg

inductive ComesTo : Context → Term → List Nat → Context → Term → Prop where
  | here {ctx : Context} {t : Term} : ComesTo ctx t [] ctx t
  | child {ctx inner final : Context} {t child occurrence : Term} {i : Nat} {path : List Nat}
      (enters : Enters ctx t i inner child) (rest : ComesTo inner child path final occurrence) :
      ComesTo ctx t (i :: path) final occurrence

end Term

/-- A term's own rule fails. The children that the rule has looked at by then have types, and the error reports those
that it is about. -/
inductive TypingError.Fails (ctx : Context) : TypingError → Prop where
  | variableNotFound {v : Var} {cause : LookupError} (lookup : ctx.typeAt v.index = .error cause) :
      Fails ctx (.variableNotFound v.index (.var v) cause)
  | unannotated {hint : String} {body : Term} : Fails ctx (.unannotated hint (.abs hint none body))
  | parameterMismatch {fn arg : Term} {dom cod actual : Ty} (fnTyped : fn.infer ctx = .ok (.arrow dom cod))
      (argTyped : arg.infer ctx = .ok actual) (differ : dom ≠ actual) :
      Fails ctx (.parameterMismatch dom actual (.app fn arg))
  | unexpectedType {fn arg : Term} {actual argType : Ty} (fnTyped : fn.infer ctx = .ok actual)
      (argTyped : arg.infer ctx = .ok argType) (noArrow : ∀ dom cod, actual ≠ .arrow dom cod) :
      Fails ctx (.unexpectedType actual (.app fn arg))
  | guardNotBool {guard thn els : Term} {actual : Ty} (guardTyped : guard.infer ctx = .ok actual)
      (noBool : actual ≠ .bool) : Fails ctx (.guardNotBool actual (.ite guard thn els))
  | armsMismatch {guard thn els : Term} {thenType elseType : Ty} (guardTyped : guard.infer ctx = .ok .bool)
      (thnTyped : thn.infer ctx = .ok thenType) (elsTyped : els.infer ctx = .ok elseType)
      (differ : thenType ≠ elseType) : Fails ctx (.armsMismatch thenType elseType (.ite guard thn els))
  | argumentNotNat {whole arg : Term} {actual : Ty}
      (operator : whole = .succ arg ∨ whole = .pred arg ∨ whole = .isZero arg)
      (argTyped : arg.infer ctx = .ok actual) (noNat : actual ≠ .nat) : Fails ctx (.argumentNotNat actual whole)

structure TypingError.Concerns (e : TypingError) (ctx : Context) (t : Term) (path : List Nat) (inner : Context) :
    Prop where
  reached : t.ComesTo ctx path inner e.term
  own : e.Fails inner

/-! Where errors go -/

namespace TypingError

open Term (applyType expectNat)

variable {ctx : Context} {e : TypingError}

theorem Fails.infer (fails : e.Fails ctx) : e.term.infer ctx = .error (.illTyped e) := by
  cases fails with
  | variableNotFound lookup => simp only [term, Term.infer, lookup]
  | unannotated => rfl
  | parameterMismatch fnTyped argTyped differ =>
    simp only [term, Term.infer, fnTyped, argTyped, bind, Except.bind, applyType, if_neg differ]
  | @unexpectedType fn arg actual argType fnTyped argTyped noArrow =>
    simp only [term, Term.infer, fnTyped, argTyped, bind, Except.bind]
    cases actual with
    | arrow dom cod => exact absurd rfl (noArrow dom cod)
    | bool => rfl
    | nat => rfl
  | guardNotBool guardTyped noBool =>
    simp only [term, Term.infer, guardTyped, bind, Except.bind, if_neg noBool]
    rfl
  | armsMismatch guardTyped thnTyped elsTyped differ =>
    simp only [term, Term.infer, guardTyped, thnTyped, elsTyped, bind, Except.bind, if_true, if_neg differ]
    rfl
  | argumentNotNat operator argTyped noNat =>
    rcases operator with rfl | rfl | rfl <;>
      simp only [term, Term.infer, argTyped, bind, Except.bind, expectNat, if_neg noNat]

end TypingError

namespace Term

variable {ctx inner inner' : Context} {t child child' : Term} {i j : Nat}

theorem Enters.infer_error {failure : TypingFailure} (enters : t.Enters ctx i inner child)
    (failed : child.infer inner = .error failure) : t.infer ctx = .error failure := by
  cases enters with
  | argument fnTyped => simp only [infer, fnTyped, failed, bind, Except.bind]
  | thn guardTyped => simp only [infer, guardTyped, failed, bind, Except.bind, if_true]
  | els guardTyped thnTyped => simp only [infer, guardTyped, thnTyped, failed, bind, Except.bind, if_true]
  | _ => simp only [infer, failed, bind, Except.bind]

theorem Enters.earlier_typed (earlier : t.Enters ctx i inner child) (later : t.Enters ctx j inner' child')
    (before : i < j) : ∃ ty, child.infer inner = .ok ty := by
  cases later with
  | argument fnTyped =>
    cases earlier with
    | function => exact ⟨_, fnTyped⟩
    | argument _ => omega
  | thn guardTyped =>
    cases earlier with
    | guard => exact ⟨_, guardTyped⟩
    | thn _ => omega
    | els _ _ => omega
  | els guardTyped thnTyped =>
    cases earlier with
    | guard => exact ⟨_, guardTyped⟩
    | thn _ => exact ⟨_, thnTyped⟩
    | els _ _ => omega
  | _ => omega

theorem Enters.deterministic (first : t.Enters ctx i inner child) (second : t.Enters ctx i inner' child') :
    inner = inner' ∧ child = child' := by
  cases first <;> cases second <;> exact ⟨rfl, rfl⟩

theorem Enters.typed_of_fails {e : TypingError} (enters : e.term.Enters ctx i inner child) (fails : e.Fails ctx) :
    ∃ ty, child.infer inner = .ok ty := by
  cases fails with
  | variableNotFound lookup => cases enters
  | unannotated => cases enters
  | parameterMismatch fnTyped argTyped differ =>
    cases enters with
    | function => exact ⟨_, fnTyped⟩
    | argument _ => exact ⟨_, argTyped⟩
  | unexpectedType fnTyped argTyped noArrow =>
    cases enters with
    | function => exact ⟨_, fnTyped⟩
    | argument _ => exact ⟨_, argTyped⟩
  | guardNotBool guardTyped noBool =>
    cases enters with
    | guard => exact ⟨_, guardTyped⟩
    | thn isBool =>
      rw [guardTyped] at isBool
      cases isBool
      exact absurd rfl noBool
    | els isBool _ =>
      rw [guardTyped] at isBool
      cases isBool
      exact absurd rfl noBool
  | armsMismatch guardTyped thnTyped elsTyped differ =>
    cases enters with
    | guard => exact ⟨_, guardTyped⟩
    | thn _ => exact ⟨_, thnTyped⟩
    | els _ _ => exact ⟨_, elsTyped⟩
  | argumentNotNat operator argTyped noNat =>
    rcases operator with rfl | rfl | rfl <;>
    · cases enters
      exact ⟨_, argTyped⟩

theorem ComesTo.infer_error {path : List Nat} {occurrence : Term} {failure : TypingFailure}
    (reached : t.ComesTo ctx path inner occurrence) (failed : occurrence.infer inner = .error failure) :
    t.infer ctx = .error failure := by
  induction reached with
  | here => exact failed
  | child enters _ ih => exact enters.infer_error (ih failed)

end Term

namespace TypingError.Concerns

variable {ctx inner : Context} {t : Term} {path : List Nat} {e : TypingError}

theorem infer_error (concerns : e.Concerns ctx t path inner) : t.infer ctx = .error (.illTyped e) :=
  concerns.reached.infer_error concerns.own.infer

theorem untyped (concerns : e.Concerns ctx t path inner) : ¬∃ ty, t.infer ctx = .ok ty := by
  rintro ⟨ty, typed⟩
  rw [concerns.infer_error] at typed
  cases typed

end TypingError.Concerns

/-! Where errors come from -/

namespace Term

variable {ctx inner : Context} {t child : Term} {i : Nat} {e : TypingError}

theorem exists_concerns_here (same : e.term = t) (own : e.Fails ctx) : ∃ path final, e.Concerns ctx t path final :=
  ⟨[], ctx, same ▸ .here, own⟩

theorem Enters.exists_concerns (enters : t.Enters ctx i inner child)
    (deeper : ∃ path final, e.Concerns inner child path final) : ∃ path final, e.Concerns ctx t path final := by
  obtain ⟨path, final, reached, own⟩ := deeper
  exact ⟨i :: path, final, .child enters reached, own⟩

theorem fails_of_applyType {fn arg : Term} {fnType argType : Ty} (fnTyped : fn.infer ctx = .ok fnType)
    (argTyped : arg.infer ctx = .ok argType)
    (failed : applyType (.app fn arg) fnType argType = .error (.illTyped e)) :
    e.term = .app fn arg ∧ e.Fails ctx := by
  cases fnType with
  | arrow dom cod =>
    by_cases same : dom = argType
    · simp [applyType, same] at failed
    · simp only [applyType, if_neg same] at failed
      cases failed
      exact ⟨rfl, .parameterMismatch fnTyped argTyped same⟩
  | bool | nat =>
    cases failed
    refine ⟨rfl, .unexpectedType fnTyped argTyped ?_⟩
    intro dom cod impossible
    cases impossible

theorem fails_of_expectNat {whole arg : Term} {result argType : Ty}
    (operator : whole = .succ arg ∨ whole = .pred arg ∨ whole = .isZero arg) (argTyped : arg.infer ctx = .ok argType)
    (failed : expectNat whole result argType = .error (.illTyped e)) : e.term = whole ∧ e.Fails ctx := by
  by_cases isNat : argType = .nat
  · simp [expectNat, isNat] at failed
  · simp only [expectNat, if_neg isNat] at failed
    cases failed
    exact ⟨rfl, .argumentNotNat operator argTyped isNat⟩

/-- The cases are those of inference: a child fails, and the error comes from there, or all have types and the
term's own rule fails on them. -/
theorem exists_concerns (failed : t.infer ctx = .error (.illTyped e)) : ∃ path final, e.Concerns ctx t path final := by
  induction t generalizing ctx with
  | var v =>
    cases looked : ctx.typeAt v.index with
    | ok ty => simp [infer, looked] at failed
    | error cause =>
      simp only [infer, looked] at failed
      cases failed
      exact exists_concerns_here rfl (.variableNotFound looked)
  | abs hint ann body ih =>
    cases ann with
    | none =>
      cases failed
      exact exists_concerns_here rfl .unannotated
    | some dom =>
      simp only [infer] at failed
      rcases bind_eq_error_iff.mp failed with bodyFailed | ⟨cod, _, impossible⟩
      · exact Enters.body.exists_concerns (ih bodyFailed)
      · cases impossible
  | app fn arg fnIH argIH =>
    simp only [infer] at failed
    rcases bind_eq_error_iff.mp failed with fnFailed | ⟨fnType, fnTyped, rest⟩
    · exact Enters.function.exists_concerns (fnIH fnFailed)
    rcases bind_eq_error_iff.mp rest with argFailed | ⟨argType, argTyped, applied⟩
    · exact (Enters.argument fnTyped).exists_concerns (argIH argFailed)
    · obtain ⟨same, own⟩ := fails_of_applyType fnTyped argTyped applied
      exact exists_concerns_here same own
  | ite guard thn els guardIH thnIH elsIH =>
    simp only [infer] at failed
    rcases bind_eq_error_iff.mp failed with guardFailed | ⟨guardType, guardTyped, rest⟩
    · exact Enters.guard.exists_concerns (guardIH guardFailed)
    by_cases isBool : guardType = .bool
    · subst isBool
      rw [if_pos rfl] at rest
      rcases bind_eq_error_iff.mp rest with thnFailed | ⟨thnType, thnTyped, rest⟩
      · exact (Enters.thn guardTyped).exists_concerns (thnIH thnFailed)
      rcases bind_eq_error_iff.mp rest with elsFailed | ⟨elsType, elsTyped, rest⟩
      · exact (Enters.els guardTyped thnTyped).exists_concerns (elsIH elsFailed)
      by_cases same : thnType = elsType
      · rw [if_pos same] at rest
        cases rest
      · rw [if_neg same] at rest
        cases rest
        exact exists_concerns_here rfl (.armsMismatch guardTyped thnTyped elsTyped same)
    · rw [if_neg isBool] at rest
      cases rest
      exact exists_concerns_here rfl (.guardNotBool guardTyped isBool)
  | succ arg ih =>
    simp only [infer] at failed
    rcases bind_eq_error_iff.mp failed with argFailed | ⟨argType, argTyped, expected⟩
    · exact Enters.succ.exists_concerns (ih argFailed)
    · obtain ⟨same, own⟩ := fails_of_expectNat (.inl rfl) argTyped expected
      exact exists_concerns_here same own
  | pred arg ih =>
    simp only [infer] at failed
    rcases bind_eq_error_iff.mp failed with argFailed | ⟨argType, argTyped, expected⟩
    · exact Enters.pred.exists_concerns (ih argFailed)
    · obtain ⟨same, own⟩ := fails_of_expectNat (.inr (.inl rfl)) argTyped expected
      exact exists_concerns_here same own
  | isZero arg ih =>
    simp only [infer] at failed
    rcases bind_eq_error_iff.mp failed with argFailed | ⟨argType, argTyped, expected⟩
    · exact Enters.isZero.exists_concerns (ih argFailed)
    · obtain ⟨same, own⟩ := fails_of_expectNat (.inr (.inr rfl)) argTyped expected
      exact exists_concerns_here same own
  | foreign text => cases failed
  | _ => cases failed

end Term

/-! There is one such occurrence -/

namespace TypingError.Concerns

variable {ctx final final' : Context} {t : Term} {path path' : List Nat} {e e' : TypingError}

/-- Two paths part at a child that one of them passes, so that it has a type, and the other one enters, so that it has
none. -/
theorem path_unique (first : e.Concerns ctx t path final) (second : e'.Concerns ctx t path' final') :
    path = path' ∧ final = final' := by
  obtain ⟨reached, own⟩ := first
  generalize found : e.term = occurrence at reached
  induction reached generalizing path' with
  | @here ctx t =>
    subst found
    obtain ⟨reached', own'⟩ := second
    generalize found' : e'.term = occurrence' at reached'
    cases reached' with
    | here => exact ⟨rfl, rfl⟩
    | child enters rest =>
      have concerns : e'.Concerns _ _ _ _ := ⟨found' ▸ rest, own'⟩
      exact absurd (enters.typed_of_fails own) concerns.untyped
  | @child ctx inner final t child occurrence i path enters rest ih =>
    have concerns : e.Concerns inner child path final := ⟨found ▸ rest, own⟩
    obtain ⟨reached', own'⟩ := second
    generalize found' : e'.term = occurrence' at reached'
    cases reached' with
    | here =>
      subst found'
      exact absurd (enters.typed_of_fails own') concerns.untyped
    | @child _ inner' _ _ child' _ i' path' enters' rest' =>
      have concerns' : e'.Concerns inner' child' path' final' := ⟨found' ▸ rest', own'⟩
      rcases Nat.lt_trichotomy i i' with before | rfl | after
      · exact absurd (enters.earlier_typed enters' before) concerns.untyped
      · obtain ⟨rfl, rfl⟩ := enters.deterministic enters'
        obtain ⟨rfl, rfl⟩ := ih concerns' own found
        exact ⟨rfl, rfl⟩
      · exact absurd (enters'.earlier_typed enters after) concerns'.untyped

theorem error_unique (first : e.Concerns ctx t path final) (second : e'.Concerns ctx t path' final') : e = e' := by
  have same := first.infer_error.symm.trans second.infer_error
  cases same
  rfl

end TypingError.Concerns

/-- A type error is about one occurrence. Inference comes to it under annotated abstractions only, past children that
all have types, guards `Bool`; there it fails with the same error, and by a rule of the occurrence itself, on the types
that the error reports. No other occurrence is one of which this holds, for this error or for another. -/
theorem infer_error_iff_concerns (ctx : Context) (t : Term) (e : TypingError) :
    t.infer ctx = .error (.illTyped e) ↔
      ∃ path inner, t.ComesTo ctx path inner e.term ∧ e.term.infer inner = .error (.illTyped e) ∧ e.Fails inner ∧
        ∀ path' inner' e', t.ComesTo ctx path' inner' e'.term → e'.Fails inner' →
          path' = path ∧ inner' = inner ∧ e' = e := by
  constructor
  · intro failed
    obtain ⟨path, inner, concerns⟩ := Term.exists_concerns failed
    refine ⟨path, inner, concerns.reached, concerns.own.infer, concerns.own, fun path' inner' e' reached own => ?_⟩
    have other : e'.Concerns ctx t path' inner' := ⟨reached, own⟩
    obtain ⟨samePath, sameContext⟩ := other.path_unique concerns
    exact ⟨samePath, sameContext, other.error_unique concerns⟩
  · rintro ⟨path, inner, reached, failed, _⟩
    exact reached.infer_error failed

/-- A flag stands where a number is expected, under one binder and past one guard. The other arm is ill-typed too, but
inference does not come to it. -/
def Term.misplacedFlag : Term :=
  .abs "x" (some .bool) (.ite (.var ⟨0, 1⟩) (.succ (.var ⟨0, 1⟩)) (.pred .tru))

theorem infer_error_iff_concerns_misplacedFlag :
    Term.misplacedFlag.infer [] = .error (.illTyped (.argumentNotNat .bool (.succ (.var ⟨0, 1⟩)))) ∧
      Term.misplacedFlag.ComesTo [] [0, 1] [("x", .typed .bool)] (.succ (.var ⟨0, 1⟩)) ∧
      ∀ path inner (e : TypingError), Term.misplacedFlag.ComesTo [] path inner e.term → e.Fails inner →
        path = [0, 1] := by
  have failed : Term.misplacedFlag.infer [] = .error (.illTyped (.argumentNotNat .bool (.succ (.var ⟨0, 1⟩)))) := rfl
  obtain ⟨path, inner, _, _, _, only⟩ := (infer_error_iff_concerns _ _ _).mp failed
  have reached : Term.misplacedFlag.ComesTo [] [0, 1] [("x", .typed .bool)] (.succ (.var ⟨0, 1⟩)) :=
    .child .body (.child (.thn rfl) .here)
  have own : TypingError.Fails [("x", .typed .bool)] (.argumentNotNat .bool (.succ (.var ⟨0, 1⟩))) :=
    .argumentNotNat (.inl rfl) rfl (by decide)
  obtain ⟨here, _⟩ := only _ _ _ reached own
  refine ⟨failed, reached, fun path' inner' e reached' own' => ?_⟩
  rw [here]
  exact (only _ _ _ reached' own').1

end Calculi
