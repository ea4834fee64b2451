import Calculi.Proofs.HasType
import Calculi.Proofs.StrategyAgreement

/-!
Every well-typed term has a final term, in every context. No size falls along a run, since a contraction copies its
argument; what carries the induction is a predicate on values by their type, which asks of an abstraction that it
take good arguments to terms whose runs end. Evaluation may get stuck on a free variable, and a stuck term is good at
every type, since no rule looks at it again.
-/
namespace Calculi

namespace Term

/-- The run ends, and if it ends at a value, then at a good one. -/
def Terminates (good : Term → Prop) (t : Term) : Prop :=
  ∃ final, t.Ends (.ok final) ∧ (final.isValue = true → good final)

/-- Values that are safe to use at a type. -/
def Reducible : Ty → Term → Prop
  | .bool => fun v => v.isKnown = true
  | .nat => fun v => v.isKnown = true
  | .arrow dom cod => fun v => v.isKnown = true ∧
      ∀ hint ann body, v = .abs hint ann body → ∀ arg, arg.isValue = true → Reducible dom arg →
        ∃ next, body.instantiate arg = .ok next ∧ Terminates (Reducible cod) next

theorem Reducible.isKnown {ty : Ty} {v : Term} (good : Reducible ty v) : v.isKnown = true := by
  cases ty with
  | bool => exact good
  | nat => exact good
  | arrow dom cod => exact good.1

namespace Terminates

variable {good : Term → Prop}

theorem of_normal {t : Term} (normal : t.Normal) (ofValue : t.isValue = true → good t) :
    Terminates good t :=
  ⟨t, ⟨0, .normal normal⟩, ofValue⟩

theorem of_step {t next : Term} (stepped : t.step = .ok next) (rest : Terminates good next) :
    Terminates good t := by
  obtain ⟨final, run, ofValue⟩ := rest
  exact ⟨final, .of_step stepped run, ofValue⟩

theorem plug (frame : Frame) {t v : Term} (inner : t.Ends (.ok v)) (outer : Terminates good (frame.plug v)) :
    Terminates good (frame.plug t) := by
  obtain ⟨final, run, ofValue⟩ := outer
  exact ⟨final, inner.plug frame run, ofValue⟩

/-- Only a contraction has to be followed: a frame around a final hole is otherwise final itself. -/
theorem of_contraction (frame : Frame) {v : Term} (normal : v.Normal) (reaches : frame.Reaches v)
    (ofValue : (frame.plug v).isValue = true → good (frame.plug v))
    (follow : ∀ contractum, Contracts (frame.plug v) contractum →
      ∃ next, contractum = .ok next ∧ Terminates good next) : Terminates good (frame.plug v) := by
  cases contraction : (frame.plug v).contract? with
  | none => exact of_normal (normal_plug frame normal reaches contraction) ofValue
  | some contractum =>
    obtain ⟨next, rfl, rest⟩ := follow contractum (contracts_of_contract? contraction)
    exact of_step (step_redex contraction) rest

/-! Each form of term, for any notion of good parts -/

variable {goodPart goodArg : Term → Prop} {fn arg guard thn els : Term}

theorem app_of (fnEnds : Terminates goodPart fn) (argEnds : Terminates goodArg arg)
    (apply : ∀ {hint ann body v}, goodPart (.abs hint ann body) → v.isValue = true → goodArg v →
      ∃ next, body.instantiate v = .ok next ∧ Terminates good next) : Terminates good (.app fn arg) := by
  obtain ⟨fn', fnRun, fnGood⟩ := fnEnds
  obtain ⟨arg', argRun, argGood⟩ := argEnds
  apply plug (.function arg) fnRun
  cases value : fn'.isValue with
  | false => exact of_normal (normal_plug (.function arg) fnRun.final_normal value (contract?_plug value)) nofun
  | true =>
    apply plug (.argument fn' value) argRun
    apply of_contraction (.argument fn' value) argRun.final_normal trivial nofun
    intro contractum contracts
    cases contracts with
    | beta argValue => exact apply (fnGood value) argValue (argGood argValue)

theorem ite_of (guardEnds : Terminates goodPart guard) (ofTru : goodPart .tru → Terminates good thn)
    (ofFls : goodPart .fls → Terminates good els) : Terminates good (.ite guard thn els) := by
  obtain ⟨guard', guardRun, guardGood⟩ := guardEnds
  apply plug (.guard thn els) guardRun
  apply of_contraction (.guard thn els) guardRun.final_normal trivial nofun
  intro contractum contracts
  cases contracts with
  | iteTru => exact ⟨thn, rfl, ofTru (guardGood rfl)⟩
  | iteFls => exact ⟨els, rfl, ofFls (guardGood rfl)⟩

theorem succ_of (argEnds : Terminates goodArg arg)
    (ofValue : ∀ {n : Term}, n.isNumeric = true → goodArg n → good (.succ n)) :
    Terminates good (.succ arg) := by
  obtain ⟨arg', argRun, argGood⟩ := argEnds
  apply plug .succ argRun
  apply of_normal (normal_plug .succ argRun.final_normal trivial rfl)
  intro numeric
  exact ofValue numeric (argGood (isValue_of_isNumeric numeric))

theorem pred_of (argEnds : Terminates goodArg arg) (ofZero : goodArg .zero → good .zero)
    (ofSucc : ∀ {n : Term}, n.isNumeric = true → goodArg (.succ n) → good n) :
    Terminates good (.pred arg) := by
  obtain ⟨arg', argRun, argGood⟩ := argEnds
  apply plug .pred argRun
  apply of_contraction .pred argRun.final_normal trivial nofun
  intro contractum contracts
  cases contracts with
  | predZero => exact ⟨.zero, rfl, of_normal (normal_of_isValue rfl) fun _ => ofZero (argGood rfl)⟩
  | predSucc numeric =>
    have value := isValue_of_isNumeric numeric
    exact ⟨_, rfl, of_normal (normal_of_isValue value) fun _ => ofSucc numeric (argGood numeric)⟩

theorem isZero_of (argEnds : Terminates goodArg arg) (ofZero : goodArg .zero → good .tru)
    (ofSucc : ∀ {n : Term}, n.isNumeric = true → goodArg (.succ n) → good .fls) :
    Terminates good (.isZero arg) := by
  obtain ⟨arg', argRun, argGood⟩ := argEnds
  apply plug .isZero argRun
  apply of_contraction .isZero argRun.final_normal trivial nofun
  intro contractum contracts
  cases contracts with
  | isZeroZero => exact ⟨.tru, rfl, of_normal (normal_of_isValue rfl) fun _ => ofZero (argGood rfl)⟩
  | isZeroSucc numeric =>
    exact ⟨.fls, rfl, of_normal (normal_of_isValue rfl) fun _ => ofSucc numeric (argGood numeric)⟩

theorem app {dom cod : Ty} (fnEnds : Terminates (Reducible (.arrow dom cod)) fn)
    (argEnds : Terminates (Reducible dom) arg) : Terminates (Reducible cod) (.app fn arg) :=
  fnEnds.app_of argEnds fun fnGood argValue argGood => fnGood.2 _ _ _ rfl _ argValue argGood

theorem ite (guardEnds : Terminates goodPart guard) (thnEnds : Terminates good thn)
    (elsEnds : Terminates good els) : Terminates good (.ite guard thn els) :=
  guardEnds.ite_of (fun _ => thnEnds) (fun _ => elsEnds)

theorem succ (argEnds : Terminates (Reducible .nat) arg) : Terminates (Reducible .nat) (.succ arg) :=
  argEnds.succ_of fun _ argGood => argGood

theorem pred (argEnds : Terminates (Reducible .nat) arg) : Terminates (Reducible .nat) (.pred arg) :=
  argEnds.pred_of (fun _ => rfl) fun _ argGood => argGood

theorem isZero (argEnds : Terminates (Reducible .nat) arg) : Terminates (Reducible .bool) (.isZero arg) :=
  argEnds.isZero_of (fun _ => rfl) fun _ _ => rfl

end Terminates

inductive Fills : List Term → Context → Prop where
  | nil {ctx : Context} : Fills [] ctx
  | cons {arg : Term} {args : List Term} {name : String} {dom : Ty} {ctx : Context}
      (value : arg.isValue = true) (good : Reducible dom arg) (rest : Fills args ctx) :
      Fills (arg :: args) (ctx.extend name (.typed dom))

theorem Fills.isKnown {args : List Term} {ctx : Context} (fills : Fills args ctx) :
    ∀ arg ∈ args, arg.isKnown = true := by
  induction fills with
  | nil => simp
  | cons value good rest ih =>
    intro arg member
    rcases List.mem_cons.mp member with rfl | later
    · exact good.isKnown
    · exact ih arg later

theorem Fills.lookup {args : List Term} {ctx : Context} (fills : Fills args ctx) {k : Nat} {arg : Term}
    {name : String} {ty : Ty} (found : args[k]? = some arg) (entry : ctx[k]? = some (name, .typed ty)) :
    arg.isValue = true ∧ Reducible ty arg := by
  induction fills generalizing k with
  | nil => cases found
  | cons value good rest ih =>
    cases k with
    | zero =>
      cases found
      cases entry
      exact ⟨value, good⟩
    | succ k => exact ih found entry

end Term

/-- The statement that the induction proves: filling a well-typed term with good values makes it terminate. -/
theorem HasType.terminates {ctx : Context} {t : Term} {ty : Ty} (typed : HasType ctx t ty)
    {args : List Term} (fills : Term.Fills args ctx) :
    Term.Terminates (Term.Reducible ty) (t.fill args 0) := by
  induction typed generalizing args with
  | @var ctx index scope name ty entry =>
    -- A variable past the arguments stays one, and evaluation is stuck there.
    cases found : args[index]? with
    | some arg =>
      obtain ⟨value, good⟩ := fills.lookup found entry
      rw [Term.fill_var, Term.fillVar_arg index (by simp) found, Term.shiftFrom_zero]
      exact .of_normal (Term.normal_of_isValue value) fun _ => good
    | none =>
      have beyond := List.getElem?_eq_none_iff.mp found
      rw [Term.fill_var, Term.fillVar_free (by simp only; omega)]
      exact .of_normal ⟨_, rfl⟩ nofun
  | @abs ctx hint dom cod body bodyTyped ih =>
    have filledKnown := Term.isKnown_fill fills.isKnown bodyTyped.isKnown 1
    rw [Term.fill_abs]
    apply Term.Terminates.of_normal (Term.normal_of_isValue rfl)
    intro _
    refine ⟨filledKnown, ?_⟩
    intro hint' ann body' same arg value good
    cases same
    refine ⟨_, Term.instantiate_eq_fill filledKnown good.isKnown, ?_⟩
    rw [Term.fill_fill arg args body (Int.le_refl 0)]
    exact ih (.cons value good fills)
  | app _ _ fnIH argIH => exact (fnIH fills).app (argIH fills)
  | tru => exact .of_normal (Term.normal_of_isValue rfl) fun _ => rfl
  | fls => exact .of_normal (Term.normal_of_isValue rfl) fun _ => rfl
  | ite _ _ _ guardIH thnIH elsIH => exact (guardIH fills).ite (thnIH fills) (elsIH fills)
  | zero => exact .of_normal (Term.normal_of_isValue rfl) fun _ => rfl
  | succ _ ih => exact (ih fills).succ
  | pred _ ih => exact (ih fills).pred
  | isZero _ ih => exact (ih fills).isZero

theorem HasType.ends_ok {ctx : Context} {t : Term} {ty : Ty} (typed : HasType ctx t ty) :
    ∃ v, t.Ends (.ok v) := by
  obtain ⟨v, run, _⟩ := typed.terminates .nil
  rw [Term.fill_nil] at run
  exact ⟨v, run⟩

/-- Evaluation of a well-typed term ends under both strategies, at the same term, and a limit that is large enough
does not get in its way. -/
theorem infer_normalizes {ctx : Context} {t : Term} {ty : Ty} (inferred : t.infer ctx = .ok ty) :
    ∃ v,
      (∃ enough, ∀ fuel, enough ≤ fuel →
        (t.run fuel none).failure = none ∧ (t.run fuel none).last = v) ∧
      (∃ enough, ∀ fuel, enough ≤ fuel → t.normalize fuel = .ok v) ∧
      ∃ bound : Int, ∀ limit, bound ≤ limit → ∀ fuel,
        ((Machine.mk (some limit) fuel).run t).failure = none ∧
          ((Machine.mk (some limit) fuel).run t).last = v := by
  obtain ⟨v, steps, run⟩ := (infer_eq_ok_iff.mp inferred).ends_ok
  refine ⟨v, ?_, Term.settles_of_endsIn run, steps, fun limit room fuel => ?_⟩
  · simp only [← Trace.outcome_eq_ok_iff]
    exact Term.Ends.evaluate_unlimited ⟨steps, run⟩ .singleStep
  · have allowed : ∀ l ∈ some limit, ((0 : Nat) + steps : Int) ≤ l := by
      intro l same
      cases same
      omega
    exact (Trace.outcome_eq_ok_iff _ v).mp
      (run.runFrom (some limit) 0 (limit.toNat + 1) allowed (by omega))

theorem infer_normalizes_negatedTwice :
    Term.negatedTwice.infer [("y", .typed .bool)] = .ok .bool ∧
      ∃ enough v, ∀ fuel, enough ≤ fuel → Term.negatedTwice.normalize fuel = .ok v := by
  have inferred := Term.infer_negatedTwice []
  obtain ⟨v, _, ⟨enough, settled⟩, _⟩ := infer_normalizes inferred
  exact ⟨inferred, enough, v, settled⟩

end Calculi
