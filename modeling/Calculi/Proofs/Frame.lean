import Calculi.Reduction.Step

/-!
Evaluation frames. A frame is a term with one hole, at the place where evaluation goes next. Every step is
either a contraction of the whole term or a step inside the hole of one frame, so what holds of contractions
and of frames holds of steps.
-/
namespace Calculi

/-- The argument of an application is reached only when its function is a value. -/
inductive Frame where
  | function (arg : Term)
  | argument (fn : Term) (value : fn.isValue = true)
  | guard (thn els : Term)
  | succ
  | pred
  | isZero

namespace Frame

def plug : Frame → Term → Term
  | .function arg, t => .app t arg
  | .argument fn _, t => .app fn t
  | .guard thn els, t => .ite t thn els
  | .succ, t => .succ t
  | .pred, t => .pred t
  | .isZero, t => .isZero t

/-- Whether a step looks into the hole: a value in function position is left for its argument. -/
def Reaches : Frame → Term → Prop
  | .function _, t => t.isValue = false
  | _, _ => True

end Frame

namespace Term

inductive Contracts : Term → Except UnknownForm Term → Prop where
  | beta {hint : String} {ann : Option Ty} {body arg : Term} (value : arg.isValue = true) :
      Contracts (.app (.abs hint ann body) arg) (body.instantiate arg)
  | iteTru {thn els : Term} : Contracts (.ite .tru thn els) (.ok thn)
  | iteFls {thn els : Term} : Contracts (.ite .fls thn els) (.ok els)
  | predZero : Contracts (.pred .zero) (.ok .zero)
  | predSucc {n : Term} (numeric : n.isNumeric = true) : Contracts (.pred (.succ n)) (.ok n)
  | isZeroZero : Contracts (.isZero .zero) (.ok .tru)
  | isZeroSucc {n : Term} (numeric : n.isNumeric = true) : Contracts (.isZero (.succ n)) (.ok .fls)

theorem contracts_of_contract? {t : Term} {contractum : Except UnknownForm Term}
    (redex : t.contract? = some contractum) : Contracts t contractum := by
  unfold contract? at redex
  split at redex
  · obtain ⟨value, same⟩ := Option.ite_none_right_eq_some.mp redex
    cases same
    exact .beta value
  · cases redex; exact .iteTru
  · cases redex; exact .iteFls
  · cases redex; exact .predZero
  · obtain ⟨numeric, same⟩ := Option.ite_none_right_eq_some.mp redex
    cases same
    exact .predSucc numeric
  · cases redex; exact .isZeroZero
  · obtain ⟨numeric, same⟩ := Option.ite_none_right_eq_some.mp redex
    cases same
    exact .isZeroSucc numeric
  · cases redex

theorem Contracts.contract? {t : Term} {contractum : Except UnknownForm Term}
    (contracts : Contracts t contractum) : t.contract? = some contractum := by
  cases contracts with
  | beta value => simp only [Term.contract?, value, if_true]
  | predSucc numeric => simp only [Term.contract?, numeric, if_true]
  | isZeroSucc numeric => simp only [Term.contract?, numeric, if_true]
  | _ => rfl

def isInert : Term → Bool
  | .app _ _ | .ite _ _ _ | .succ _ | .pred _ | .isZero _ => false
  | _ => true

def Normal (t : Term) : Prop :=
  ∃ inner, t.step = .error (.noRule inner)

theorem Normal.step_ne_ok {t next : Term} (normal : t.Normal) : t.step ≠ .ok next := by
  obtain ⟨inner, stop⟩ := normal
  simp [stop]

theorem Normal.step_ne_unknownForm {t : Term} {form : UnknownForm} (normal : t.Normal) :
    t.step ≠ .error (.unknownForm form) := by
  obtain ⟨inner, stop⟩ := normal
  simp [stop]

theorem isValue_of_isNumeric {t : Term} (numeric : t.isNumeric = true) : t.isValue = true := by
  cases t <;> simp_all [isValue, isNumeric]

theorem step_inert {t : Term} (inert : t.isInert = true) : t.step = .error (.noRule t) := by
  cases t <;> first | rfl | simp [isInert] at inert

/-- One equation for the step of a plugged frame: contract the whole, or else step in the hole. -/
theorem step_plug {frame : Frame} {t : Term} (reaches : frame.Reaches t) :
    (frame.plug t).step = contractOr (frame.plug t) (t.step.map frame.plug) := by
  cases frame with
  | function arg =>
    have notValue : t.isValue = false := reaches
    simp only [Frame.plug, step, notValue]
    rfl
  | argument fn value =>
    simp only [Frame.plug, step, value]
    rfl
  | guard thn els => rfl
  | succ => rfl
  | pred => rfl
  | isZero => rfl

theorem step_inside {frame : Frame} {t : Term} (reaches : frame.Reaches t)
    (noRedex : (frame.plug t).contract? = none) : (frame.plug t).step = t.step.map frame.plug := by
  simp only [step_plug reaches, contractOr, noRedex]

theorem step_redex {t : Term} {contractum : Except UnknownForm Term}
    (redex : t.contract? = some contractum) : t.step = contractum.mapError .unknownForm := by
  cases t with
  | app fn arg => simp only [step, contractOr, redex]
  | ite guard thn els => simp only [step, contractOr, redex]
  | pred arg => simp only [step, contractOr, redex]
  | isZero arg => simp only [step, contractOr, redex]
  | _ => simp [contract?] at redex

theorem contract?_plug {frame : Frame} {t : Term} (notValue : t.isValue = false) :
    (frame.plug t).contract? = none := by
  cases frame with
  | function arg => cases t <;> simp_all [Frame.plug, contract?, isValue]
  | argument fn value => cases fn <;> simp [Frame.plug, contract?, notValue]
  | guard thn els => cases t <;> simp_all [Frame.plug, contract?, isValue]
  | succ => rfl
  | pred => cases t <;> simp_all [Frame.plug, contract?, isValue, isNumeric]
  | isZero => cases t <;> simp_all [Frame.plug, contract?, isValue, isNumeric]

theorem reaches_of_not_value {frame : Frame} {t : Term} (notValue : t.isValue = false) :
    frame.Reaches t := by
  cases frame with
  | function arg => exact notValue
  | _ => trivial

theorem step_plug_of_not_value (frame : Frame) {t : Term} (notValue : t.isValue = false) :
    (frame.plug t).step = t.step.map frame.plug :=
  step_inside (reaches_of_not_value notValue) (contract?_plug notValue)

/-- The cases of a step. Induction follows the path from the root down to the redex or to the subterm that
blocks evaluation. -/
theorem step_induction {motive : Term → Prop}
    (inert : ∀ t : Term, t.isInert = true → motive t)
    (redex : ∀ (t : Term) (contractum : Except UnknownForm Term),
      t.contract? = some contractum → motive t)
    (inside : ∀ (frame : Frame) (t : Term), frame.Reaches t → (frame.plug t).contract? = none →
      motive t → motive (frame.plug t)) (t : Term) : motive t := by
  have through : ∀ (frame : Frame) (hole : Term), frame.Reaches hole → motive hole →
      motive (frame.plug hole) := by
    intro frame hole reaches ih
    cases contraction : (frame.plug hole).contract? with
    | some contractum => exact redex _ contractum contraction
    | none => exact inside frame hole reaches contraction ih
  induction t with
  | app fn arg fnIH argIH =>
    cases value : fn.isValue with
    | true => exact through (.argument fn value) arg trivial argIH
    | false => exact through (.function arg) fn value fnIH
  | ite guard thn els guardIH _ _ => exact through (.guard thn els) guard trivial guardIH
  | succ arg ih => exact through .succ arg trivial ih
  | pred arg ih => exact through .pred arg trivial ih
  | isZero arg ih => exact through .isZero arg trivial ih
  | _ => exact inert _ rfl

theorem step_of_isNumeric {t : Term} (numeric : t.isNumeric = true) :
    t.step = .error (.noRule .zero) := by
  induction t with
  | zero => rfl
  | succ arg ih => simp only [step, ih numeric]; rfl
  | _ => simp [isNumeric] at numeric

theorem step_value {t : Term} (value : t.isValue = true) :
    ∃ inner, t.step = .error (.noRule inner) ∧ inner.isValue = true := by
  cases t with
  | abs hint ann body => exact ⟨_, rfl, rfl⟩
  | tru => exact ⟨_, rfl, rfl⟩
  | fls => exact ⟨_, rfl, rfl⟩
  | _ => exact ⟨.zero, step_of_isNumeric value, rfl⟩

theorem normal_of_isValue {t : Term} (value : t.isValue = true) : t.Normal := by
  obtain ⟨inner, blocked, _⟩ := step_value value
  exact ⟨inner, blocked⟩

theorem isValue_eq_false_of_not_normal {t : Term} (moves : ¬t.Normal) : t.isValue = false := by
  cases value : t.isValue with
  | false => rfl
  | true => exact absurd (normal_of_isValue value) moves

theorem step_plug_ok (frame : Frame) {t next : Term} (stepped : t.step = .ok next) :
    (frame.plug t).step = .ok (frame.plug next) := by
  have moves : ¬t.Normal := fun normal => normal.step_ne_ok stepped
  rw [step_plug_of_not_value frame (isValue_eq_false_of_not_normal moves), stepped]
  rfl

theorem step_plug_failed (frame : Frame) {t : Term} {form : UnknownForm}
    (stop : t.step = .error (.unknownForm form)) :
    (frame.plug t).step = .error (.unknownForm form) := by
  have fails : ¬t.Normal := fun normal => normal.step_ne_unknownForm stop
  rw [step_plug_of_not_value frame (isValue_eq_false_of_not_normal fails), stop]
  rfl

end Term

end Calculi
