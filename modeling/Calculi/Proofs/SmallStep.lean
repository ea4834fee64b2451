import Calculi.Proofs.Invariant

/-!
Call-by-value reduction as a relation. Its rules stand in no order, and the heads of several of them overlap. Stepping
tries its rules one after the other, the first that fits decides, and still it takes exactly the steps of the
relation: a value never reduces, so no two rules ever disagree.
-/
namespace Calculi

inductive NumericValue : Term → Prop where
  | zero : NumericValue .zero
  | succ {n : Term} (numeric : NumericValue n) : NumericValue (.succ n)

inductive Value : Term → Prop where
  | abs {hint : String} {ann : Option Ty} {body : Term} : Value (.abs hint ann body)
  | tru : Value .tru
  | fls : Value .fls
  | numeric {n : Term} (numeric : NumericValue n) : Value n

inductive Reduces : Term → Term → Prop where
  | beta {hint : String} {ann : Option Ty} {body arg next : Term} (value : Value arg)
      (replaced : body.instantiate arg = .ok next) : Reduces (.app (.abs hint ann body) arg) next
  | argument {fn arg arg' : Term} (value : Value fn) (inside : Reduces arg arg') :
      Reduces (.app fn arg) (.app fn arg')
  | function {fn fn' arg : Term} (inside : Reduces fn fn') : Reduces (.app fn arg) (.app fn' arg)
  | iteTru {thn els : Term} : Reduces (.ite .tru thn els) thn
  | iteFls {thn els : Term} : Reduces (.ite .fls thn els) els
  | guard {guard guard' thn els : Term} (inside : Reduces guard guard') :
      Reduces (.ite guard thn els) (.ite guard' thn els)
  | succ {arg arg' : Term} (inside : Reduces arg arg') : Reduces (.succ arg) (.succ arg')
  | predZero : Reduces (.pred .zero) .zero
  | predSucc {n : Term} (numeric : NumericValue n) : Reduces (.pred (.succ n)) n
  | pred {arg arg' : Term} (inside : Reduces arg arg') : Reduces (.pred arg) (.pred arg')
  | isZeroZero : Reduces (.isZero .zero) .tru
  | isZeroSucc {n : Term} (numeric : NumericValue n) : Reduces (.isZero (.succ n)) .fls
  | isZero {arg arg' : Term} (inside : Reduces arg arg') : Reduces (.isZero arg) (.isZero arg')

namespace Term

theorem isNumeric_iff (t : Term) : t.isNumeric = true ↔ NumericValue t := by
  constructor
  · intro numeric
    induction t with
    | zero => exact .zero
    | succ arg ih => exact .succ (ih numeric)
    | _ => cases numeric
  · intro numeric
    induction numeric with
    | zero => rfl
    | succ _ ih => exact ih

theorem isValue_iff (t : Term) : t.isValue = true ↔ Value t := by
  constructor
  · intro value
    cases t with
    | abs hint ann body => exact .abs
    | tru => exact .tru
    | fls => exact .fls
    | _ => exact .numeric ((isNumeric_iff _).mp value)
  · intro value
    cases value with
    | numeric numeric => exact isValue_of_isNumeric ((isNumeric_iff t).mpr numeric)
    | _ => rfl

end Term

/-! Steps and the relation -/

theorem Term.Contracts.reduces {t next : Term} {contractum : Except UnknownForm Term}
    (contracts : t.Contracts contractum) (done : contractum = .ok next) : Reduces t next := by
  cases contracts with
  | beta value => exact .beta ((Term.isValue_iff _).mp value) done
  | iteTru => cases done; exact .iteTru
  | iteFls => cases done; exact .iteFls
  | predZero => cases done; exact .predZero
  | predSucc numeric => cases done; exact .predSucc ((Term.isNumeric_iff _).mp numeric)
  | isZeroZero => cases done; exact .isZeroZero
  | isZeroSucc numeric => cases done; exact .isZeroSucc ((Term.isNumeric_iff _).mp numeric)

namespace Reduces

theorem plug (frame : Frame) {t next : Term} (inside : Reduces t next) :
    Reduces (frame.plug t) (frame.plug next) := by
  cases frame with
  | function arg => exact .function inside
  | argument fn value => exact .argument ((Term.isValue_iff fn).mp value) inside
  | guard thn els => exact .guard inside
  | succ => exact .succ inside
  | pred => exact .pred inside
  | isZero => exact .isZero inside

theorem of_step {t next : Term} (stepped : t.step = .ok next) : Reduces t next := by
  induction t using Term.step_induction generalizing next with
  | inert t inert =>
    rw [Term.step_inert inert] at stepped
    cases stepped
  | redex t contractum redex =>
    rw [Term.step_redex redex] at stepped
    cases contractum with
    | error form => cases stepped
    | ok reduct =>
      cases stepped
      exact (Term.contracts_of_contract? redex).reduces rfl
  | inside frame t reaches noRedex ih =>
    rw [Term.step_inside reaches noRedex] at stepped
    cases inner : t.step with
    | error stop =>
      rw [inner] at stepped
      cases stepped
    | ok moved =>
      rw [inner] at stepped
      cases stepped
      exact (ih inner).plug frame

/-- Whichever rule is used, it is the one that stepping finds: a congruence rule has a hole that moves, so that no
earlier rule fits. -/
theorem step {t next : Term} (reduces : Reduces t next) : t.step = .ok next := by
  induction reduces with
  | @beta hint ann body arg next value replaced =>
    have redex : Term.Contracts (.app (.abs hint ann body) arg) _ := .beta ((Term.isValue_iff arg).mpr value)
    rw [Term.step_redex redex.contract?, replaced]
    rfl
  | @argument fn arg arg' value _ ih => exact Term.step_plug_ok (.argument fn ((Term.isValue_iff fn).mpr value)) ih
  | @function fn fn' arg _ ih => exact Term.step_plug_ok (.function arg) ih
  | iteTru => rfl
  | iteFls => rfl
  | @guard guard guard' thn els _ ih => exact Term.step_plug_ok (.guard thn els) ih
  | succ _ ih => exact Term.step_plug_ok .succ ih
  | predZero => rfl
  | predSucc numeric => exact Term.step_redex (Term.Contracts.predSucc ((Term.isNumeric_iff _).mpr numeric)).contract?
  | pred _ ih => exact Term.step_plug_ok .pred ih
  | isZeroZero => rfl
  | isZeroSucc numeric =>
    exact Term.step_redex (Term.Contracts.isZeroSucc ((Term.isNumeric_iff _).mpr numeric)).contract?
  | isZero _ ih => exact Term.step_plug_ok .isZero ih

end Reduces

theorem step_eq_ok_iff (t next : Term) : t.step = .ok next ↔ Reduces t next :=
  ⟨Reduces.of_step, Reduces.step⟩

theorem Value.not_reduces {v : Term} (value : Value v) : ¬∃ next, Reduces v next := by
  rintro ⟨next, reduces⟩
  exact (Term.normal_of_isValue ((Term.isValue_iff v).mpr value)).step_ne_ok reduces.step

/-! Where evaluation stops -/

namespace Frame

def plugAll (frames : List Frame) (t : Term) : Term :=
  frames.foldr plug t

theorem isKnown_of_plugAll {frames : List Frame} {t : Term} (known : (plugAll frames t).isKnown = true) :
    t.isKnown = true := by
  induction frames with
  | nil => exact known
  | cons frame frames ih => exact ih (Term.isKnown_of_plug known)

end Frame

namespace Term

/-- The subterm that stops evaluation is one that no rule looks into, and the frames on the way to it are those in
which evaluation goes on. -/
theorem exists_frames_of_stop {t u : Term} (stop : t.step = .error (.noRule u)) :
    u.isInert = true ∧ ∃ frames, t = Frame.plugAll frames u := by
  induction t using step_induction with
  | inert t inert =>
    rw [step_inert inert] at stop
    cases stop
    exact ⟨inert, [], rfl⟩
  | redex t contractum redex =>
    rw [step_redex redex] at stop
    cases contractum <;> cases stop
  | inside frame t reaches noRedex ih =>
    rw [step_inside reaches noRedex] at stop
    cases inner : t.step with
    | ok moved =>
      rw [inner] at stop
      cases stop
    | error reason =>
      rw [inner] at stop
      cases stop
      obtain ⟨inert, frames, rfl⟩ := ih inner
      exact ⟨inert, frame :: frames, rfl⟩

def isAtom : Term → Bool
  | .var _ | .abs _ _ _ | .tru | .fls | .zero => true
  | _ => false

theorem isAtom_of_isInert {t : Term} (inert : t.isInert = true) (known : t.isKnown = true) : t.isAtom = true := by
  cases t with
  | var v => rfl
  | abs hint ann body => rfl
  | tru => rfl
  | fls => rfl
  | zero => rfl
  | foreign text => cases known
  | _ => cases inert

theorem normal_iff_not_reduces {t : Term} (known : t.isKnown = true) : t.Normal ↔ ¬∃ next, Reduces t next := by
  constructor
  · rintro normal ⟨next, reduces⟩
    exact normal.step_ne_ok reduces.step
  · intro irreducible
    rcases isKnown_invariant.step (i := ()) known with ⟨next, stepped, _⟩ | normal
    · exact absurd ⟨next, .of_step stepped⟩ irreducible
    · exact normal

/-- The first rule that fits is as good as any: stepping gives exactly the reducts of the relation and finds no rule
exactly if there is none. Then it names a variable, an abstraction or a literal at which evaluation has arrived through
frames. No value reduces. -/
theorem step_implements_reduction {t : Term} (known : t.isKnown = true) :
    (∀ next, t.step = .ok next ↔ Reduces t next) ∧
    ((∃ u, t.step = .error (.noRule u)) ↔ ¬∃ next, Reduces t next) ∧
    (∀ u, t.step = .error (.noRule u) → u.isAtom = true ∧ ∃ frames, t = Frame.plugAll frames u) ∧
    (Value t → ¬∃ next, Reduces t next) := by
  refine ⟨step_eq_ok_iff t, normal_iff_not_reduces known, fun u stop => ?_, Value.not_reduces⟩
  obtain ⟨inert, frames, rfl⟩ := exists_frames_of_stop stop
  exact ⟨isAtom_of_isInert inert (Frame.isKnown_of_plugAll known), frames, rfl⟩

def guarded (arg : Term) : Term :=
  .ite (.isZero (.app (.abs "x" none (.var ⟨0, 1⟩)) arg)) .tru .fls

theorem step_implements_reduction_guarded :
    (guarded (.var ⟨0, 0⟩)).step = .error (.noRule (.var ⟨0, 0⟩)) ∧
      (¬∃ next, Reduces (guarded (.var ⟨0, 0⟩)) next) ∧
      (∃ frames, guarded (.var ⟨0, 0⟩) = Frame.plugAll frames (.var ⟨0, 0⟩)) ∧
      Reduces (guarded .zero) (.ite (.isZero .zero) .tru .fls) := by
  have stop : (guarded (.var ⟨0, 0⟩)).step = .error (.noRule (.var ⟨0, 0⟩)) := rfl
  have known : (guarded (.var ⟨0, 0⟩)).isKnown = true := rfl
  have numberKnown : (guarded .zero).isKnown = true := rfl
  obtain ⟨_, irreducible, stops, _⟩ := step_implements_reduction known
  exact ⟨stop, irreducible.mp ⟨_, stop⟩, (stops _ stop).2,
    ((step_implements_reduction numberKnown).1 _).mp rfl⟩

end Term

end Calculi
