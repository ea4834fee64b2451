import Calculi.Proofs.Normalization
import Calculi.Proofs.Preservation
import Mathlib.Logic.ExistsUnique

/-!
What a well-typed term can do next, in every context. It is a value of the shape that its type prescribes, or it
takes a step, or evaluation waits for a variable of the context. Closed terms wait for nothing, so both strategies
take them to a value.
-/
namespace Calculi

namespace Term

/-- Evaluation has come to an occurrence of a variable that the context binds; the occurrence lies under no
binder of the term, so its index is a position of the context. -/
def Blocked (ctx : Context) (t : Term) : Prop :=
  ∃ v : Var, t.step = .error (.noRule (.var v)) ∧ (v, 0) ∈ t.occurrences 0 ∧ 0 ≤ v.index ∧
    ∃ ty, ctx.typeAt v.index = .ok ty

def Canonical : Ty → Term → Prop
  | .bool, v => v = .tru ∨ v = .fls
  | .nat, v => ∃ n, v = numeral n
  | .arrow dom _, v => ∃ hint body, v = .abs hint (some dom) body

theorem exists_numeral_of_isNumeric {t : Term} (numeric : t.isNumeric = true) : ∃ n, t = numeral n := by
  induction t with
  | zero => exact ⟨0, rfl⟩
  | succ arg ih =>
    obtain ⟨n, rfl⟩ := ih numeric
    exact ⟨n + 1, rfl⟩
  | _ => cases numeric

theorem isNumeric_numeral (n : Nat) : (numeral n).isNumeric = true := by
  induction n with
  | zero => rfl
  | succ n ih => exact ih

theorem Blocked.isValue {ctx : Context} {t : Term} (blocked : t.Blocked ctx) : t.isValue = false := by
  obtain ⟨v, stop, _⟩ := blocked
  cases value : t.isValue with
  | false => rfl
  | true =>
    obtain ⟨inner, other, innerValue⟩ := step_value value
    rw [stop] at other
    cases other
    cases innerValue

theorem mem_occurrences_plug (frame : Frame) {t : Term} {v : Var} (occurs : (v, 0) ∈ t.occurrences 0) :
    (v, 0) ∈ (frame.plug t).occurrences 0 := by
  cases frame <;> simp [Frame.plug, occurrences, occurs]

theorem Blocked.plug (frame : Frame) {ctx : Context} {t : Term} (blocked : t.Blocked ctx) :
    (frame.plug t).Blocked ctx := by
  have notValue := blocked.isValue
  obtain ⟨v, stop, occurs, bound⟩ := blocked
  refine ⟨v, ?_, mem_occurrences_plug frame occurs, bound⟩
  rw [step_plug_of_not_value frame notValue, stop]
  rfl

inductive Standing where
  | value
  | reducible
  | blocked

def Stands (ctx : Context) (t : Term) : Standing → Prop
  | .value => t.isValue = true
  | .reducible => ∃ next, t.step = .ok next
  | .blocked => t.Blocked ctx

def standing (t : Term) : Standing :=
  if t.isValue then .value
  else
    match t.step with
    | .ok _ => .reducible
    | .error _ => .blocked

theorem Stands.eq_standing {ctx : Context} {t : Term} {found : Standing} (stands : t.Stands ctx found) :
    found = t.standing := by
  cases found with
  | value =>
    have value : t.isValue = true := stands
    simp [standing, value]
  | reducible =>
    obtain ⟨next, stepped⟩ := stands
    have moves : ¬t.Normal := fun normal => normal.step_ne_ok stepped
    simp [standing, isValue_eq_false_of_not_normal moves, stepped]
  | blocked =>
    have notValue := Blocked.isValue stands
    obtain ⟨v, stop, _⟩ := stands
    simp [standing, notValue, stop]

def Progresses (ctx : Context) (t : Term) : Prop :=
  ∃ standing, t.Stands ctx standing

/-- A frame takes the standing of its hole, unless the hole is a value. -/
theorem progresses_plug (frame : Frame) {ctx : Context} {t : Term} (hole : t.Progresses ctx)
    (ofValue : t.isValue = true → (frame.plug t).Progresses ctx) : (frame.plug t).Progresses ctx := by
  obtain ⟨standing, stands⟩ := hole
  cases standing with
  | value => exact ofValue stands
  | reducible =>
    obtain ⟨next, stepped⟩ := stands
    exact ⟨.reducible, frame.plug next, step_plug_ok frame stepped⟩
  | blocked => exact ⟨.blocked, Blocked.plug frame stands⟩

end Term

namespace HasType

theorem canonical {ctx : Context} {v : Term} {ty : Ty} (typed : HasType ctx v ty)
    (value : v.isValue = true) : Term.Canonical ty v := by
  cases typed with
  | abs bodyTyped => exact ⟨_, _, rfl⟩
  | tru => exact .inl rfl
  | fls => exact .inr rfl
  | zero => exact ⟨0, rfl⟩
  | succ argTyped => exact Term.exists_numeral_of_isNumeric value
  | _ => cases value

theorem progresses_redex {ctx : Context} {t : Term} {ty : Ty} {contractum : Except UnknownForm Term}
    (typed : HasType ctx t ty) (contracts : Term.Contracts t contractum) : t.Progresses ctx := by
  obtain ⟨next, rfl, _⟩ := typed.contract contracts.contract?
  exact ⟨.reducible, next, Term.step_redex contracts.contract?⟩

theorem progresses {ctx : Context} {t : Term} {ty : Ty} (typed : HasType ctx t ty) : t.Progresses ctx := by
  induction typed with
  | @var ctx index scope name ty entry =>
    have found : ctx.typeAt index = .ok ty := Context.typeAt_eq_ok_iff.mpr ⟨index, name, rfl, entry⟩
    exact ⟨.blocked, _, rfl, List.mem_singleton_self _, Int.natCast_nonneg index, ty, found⟩
  | abs _ _ => exact ⟨.value, rfl⟩
  | @app ctx fn arg dom cod fnTyped argTyped fnIH argIH =>
    apply Term.progresses_plug (.function arg) fnIH
    intro fnValue
    apply Term.progresses_plug (.argument fn fnValue) argIH
    intro argValue
    obtain ⟨hint, body, rfl⟩ := fnTyped.canonical fnValue
    exact (fnTyped.app argTyped).progresses_redex (.beta argValue)
  | tru => exact ⟨.value, rfl⟩
  | fls => exact ⟨.value, rfl⟩
  | @ite ctx guard thn els ty guardTyped thnTyped elsTyped guardIH _ _ =>
    apply Term.progresses_plug (.guard thn els) guardIH
    intro value
    have typed := guardTyped.ite thnTyped elsTyped
    rcases guardTyped.canonical value with rfl | rfl
    · exact typed.progresses_redex .iteTru
    · exact typed.progresses_redex .iteFls
  | zero => exact ⟨.value, rfl⟩
  | @succ ctx arg argTyped ih =>
    apply Term.progresses_plug .succ ih
    intro value
    obtain ⟨n, rfl⟩ := argTyped.canonical value
    exact ⟨.value, Term.isNumeric_numeral n⟩
  | @pred ctx arg argTyped ih =>
    apply Term.progresses_plug .pred ih
    intro value
    obtain ⟨n, rfl⟩ := argTyped.canonical value
    cases n with
    | zero => exact argTyped.pred.progresses_redex .predZero
    | succ n => exact argTyped.pred.progresses_redex (.predSucc (Term.isNumeric_numeral n))
  | @isZero ctx arg argTyped ih =>
    apply Term.progresses_plug .isZero ih
    intro value
    obtain ⟨n, rfl⟩ := argTyped.canonical value
    cases n with
    | zero => exact argTyped.isZero.progresses_redex .isZeroZero
    | succ n => exact argTyped.isZero.progresses_redex (.isZeroSucc (Term.isNumeric_numeral n))

theorem final_value {t v : Term} {ty : Ty} (typed : HasType [] t ty) (run : t.Ends (.ok v)) :
    v.isValue = true ∧ Term.Canonical ty v := by
  obtain ⟨_, same, finalTyped⟩ := typed.ends run
  cases same
  obtain ⟨standing, stands⟩ := finalTyped.progresses
  cases standing with
  | value => exact ⟨stands, finalTyped.canonical stands⟩
  | reducible =>
    obtain ⟨next, stepped⟩ := stands
    exact absurd stepped run.final_normal.step_ne_ok
  | blocked =>
    obtain ⟨u, _, _, _, _, found⟩ := stands
    obtain ⟨n, name, _, entry⟩ := Context.typeAt_eq_ok_iff.mp found
    cases entry

end HasType

/-- A well-typed term is a value, takes a step or is blocked on a variable of its context, and only one of
these. With no context it has one final term under both strategies, a value of the shape of its type. -/
theorem infer_progresses {ctx : Context} {t : Term} {ty : Ty} (inferred : t.infer ctx = .ok ty) :
    (∃! standing, t.Stands ctx standing) ∧
      (ctx = [] → ∃ v, v.isValue = true ∧ Term.Canonical ty v ∧ ∀ strategy,
        (∃ enough, ∀ fuel, enough ≤ fuel → ((Machine.mk none fuel).evaluate strategy t).outcome = .ok v) ∧
        ∀ (machine : Machine) (u : Term), (machine.evaluate strategy t).outcome = .ok u → u = v) := by
  have typed := infer_eq_ok_iff.mp inferred
  constructor
  · obtain ⟨standing, stands⟩ := typed.progresses
    exact ⟨standing, stands, fun other stands' => stands'.eq_standing.trans stands.eq_standing.symm⟩
  · rintro rfl
    obtain ⟨v, run⟩ := typed.ends_ok
    obtain ⟨value, canonical⟩ := typed.final_value run
    refine ⟨v, value, canonical, fun strategy => ⟨run.evaluate_unlimited strategy, ?_⟩⟩
    intro machine u evaluated
    have other : t.Ends (.ok u) := Term.Evaluates.ends ⟨machine.fuel, evaluated⟩
    cases run.deterministic other
    rfl

/-- The same function is blocked on a variable and computes on a literal. -/
theorem infer_progresses_negation :
    (∃! standing, (Term.app .negation (.var ⟨0, 1⟩)).Stands [("y", .typed .bool)] standing) ∧
      ∃ v, v.isValue = true ∧ Term.Canonical .bool v ∧
        ∃ fuel, ((Machine.mk none fuel).evaluate .fullReduction (.app .negation .tru)).outcome = .ok v := by
  have openTerm : (Term.app .negation (.var ⟨0, 1⟩)).infer [("y", .typed .bool)] = .ok .bool := rfl
  have closedTerm : (Term.app .negation .tru).infer [] = .ok .bool := rfl
  obtain ⟨v, value, canonical, evaluates⟩ := (infer_progresses closedTerm).2 rfl
  obtain ⟨⟨enough, settled⟩, _⟩ := evaluates .fullReduction
  exact ⟨(infer_progresses openTerm).1, v, value, canonical, enough, settled enough (Nat.le_refl enough)⟩

end Calculi
