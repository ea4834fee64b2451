import Calculi.Proofs.StrategyAgreement
import Calculi.Proofs.Walk
import Mathlib.Data.List.Forall2

/-!
Evaluation does not look at labels. Two terms are equivalent if they differ in nothing but hints, annotations and
scopes. Equivalent terms are redexes together and have equivalent holes in corresponding frames, so they take their
steps together, and whole runs and full reduction go side by side.
-/
namespace Calculi

namespace Term

/-- Terms built from the ten forms in the same way. The hints of abstractions are free; how variables and how
annotations correspond is for the relation's user to say. -/
inductive Alike (sameVar : Var → Var → Prop) (sameAnn : Option Ty → Option Ty → Prop) :
    Term → Term → Prop where
  | var {v w : Var} (same : sameVar v w) : Alike sameVar sameAnn (.var v) (.var w)
  | abs {hint hint' : String} {ann ann' : Option Ty} {body body' : Term} (same : sameAnn ann ann')
      (bodies : Alike sameVar sameAnn body body') :
      Alike sameVar sameAnn (.abs hint ann body) (.abs hint' ann' body')
  | app {fn fn' arg arg' : Term} (fns : Alike sameVar sameAnn fn fn') (args : Alike sameVar sameAnn arg arg') :
      Alike sameVar sameAnn (.app fn arg) (.app fn' arg')
  | tru : Alike sameVar sameAnn .tru .tru
  | fls : Alike sameVar sameAnn .fls .fls
  | ite {guard guard' thn thn' els els' : Term} (guards : Alike sameVar sameAnn guard guard')
      (thns : Alike sameVar sameAnn thn thn') (elses : Alike sameVar sameAnn els els') :
      Alike sameVar sameAnn (.ite guard thn els) (.ite guard' thn' els')
  | zero : Alike sameVar sameAnn .zero .zero
  | succ {arg arg' : Term} (args : Alike sameVar sameAnn arg arg') :
      Alike sameVar sameAnn (.succ arg) (.succ arg')
  | pred {arg arg' : Term} (args : Alike sameVar sameAnn arg arg') :
      Alike sameVar sameAnn (.pred arg) (.pred arg')
  | isZero {arg arg' : Term} (args : Alike sameVar sameAnn arg arg') :
      Alike sameVar sameAnn (.isZero arg) (.isZero arg')

namespace Alike

variable {sameVar : Var → Var → Prop} {sameAnn : Option Ty → Option Ty → Prop} {t u : Term}

theorem symm (varSymm : ∀ {v w}, sameVar v w → sameVar w v) (annSymm : ∀ {a b}, sameAnn a b → sameAnn b a)
    (alike : Alike sameVar sameAnn t u) : Alike sameVar sameAnn u t := by
  induction alike with
  | var same => exact .var (varSymm same)
  | abs same _ ih => exact .abs (annSymm same) ih
  | app _ _ fnIH argIH => exact .app fnIH argIH
  | tru => exact .tru
  | fls => exact .fls
  | ite _ _ _ guardIH thnIH elsIH => exact .ite guardIH thnIH elsIH
  | zero => exact .zero
  | succ _ ih => exact .succ ih
  | pred _ ih => exact .pred ih
  | isZero _ ih => exact .isZero ih

theorem isKnown_left (alike : Alike sameVar sameAnn t u) : t.isKnown = true := by
  induction alike with
  | app _ _ fnIH argIH => simp only [isKnown, fnIH, argIH, Bool.and_self]
  | ite _ _ _ guardIH thnIH elsIH => simp only [isKnown, guardIH, thnIH, elsIH, Bool.and_self]
  | abs _ _ ih => exact ih
  | succ _ ih => exact ih
  | pred _ ih => exact ih
  | isZero _ ih => exact ih
  | _ => rfl

theorem isNumeric_eq (alike : Alike sameVar sameAnn t u) : t.isNumeric = u.isNumeric := by
  induction alike with
  | succ _ ih => exact ih
  | _ => rfl

theorem isValue_eq (alike : Alike sameVar sameAnn t u) : t.isValue = u.isValue := by
  cases alike with
  | succ args => exact args.isNumeric_eq
  | _ => rfl

theorem isInert_eq (alike : Alike sameVar sameAnn t u) : t.isInert = u.isInert := by
  cases alike <;> rfl

theorem mapVars (alike : Alike sameVar sameAnn t u) {visit visit' : Var → Int → Term}
    (answers : ∀ {v w : Var} (c : Int), sameVar v w → Alike sameVar sameAnn (visit v c) (visit' w c))
    (cutoff : Int) : Alike sameVar sameAnn (t.mapVars visit cutoff) (u.mapVars visit' cutoff) := by
  induction alike generalizing cutoff with
  | var same => exact answers cutoff same
  | abs same _ ih => exact .abs same (ih (cutoff + 1))
  | app _ _ fnIH argIH => exact .app (fnIH cutoff) (argIH cutoff)
  | tru => exact .tru
  | fls => exact .fls
  | ite _ _ _ guardIH thnIH elsIH => exact .ite (guardIH cutoff) (thnIH cutoff) (elsIH cutoff)
  | zero => exact .zero
  | succ _ ih => exact .succ (ih cutoff)
  | pred _ ih => exact .pred (ih cutoff)
  | isZero _ ih => exact .isZero (ih cutoff)

end Alike

/-- The terms differ at most in the hints and annotations of their abstractions, where an annotation may also be
missing, and in the scopes of their variables. -/
abbrev Equivalent : Term → Term → Prop :=
  Alike (fun v w => v.index = w.index) (fun _ _ => True)

namespace Equivalent

variable {t u : Term}

theorem symm (alike : t.Equivalent u) : u.Equivalent t :=
  Alike.symm (fun same => same.symm) (fun _ => trivial) alike

theorem shiftFrom (alike : t.Equivalent u) (d cutoff : Int) :
    (t.shiftFrom d cutoff).Equivalent (u.shiftFrom d cutoff) := by
  apply Alike.mapVars alike
  intro v w c same
  have moved : (v.shift d c).index = (w.shift d c).index := by
    simp only [Var.shift, same]
    split <;> rfl
  exact .var moved

/-- The copies of an argument are shifted by what lies above them, which is the same in both bodies. -/
theorem fill {arg arg' : Term} (alike : t.Equivalent u) (args : arg.Equivalent arg') (cutoff : Int) :
    (t.fill [arg] cutoff).Equivalent (u.fill [arg'] cutoff) := by
  apply Alike.mapVars alike
  intro v w c same
  rcases Int.lt_trichotomy v.index c with bound | here | free
  · rw [fillVar_bound bound, fillVar_bound (by omega)]
    exact .var same
  · rw [fillVar_arg 0 (by omega) rfl, fillVar_arg 0 (by omega) rfl]
    exact args.shiftFrom c 0
  · rw [fillVar_free (by simp only [List.length_singleton]; omega),
      fillVar_free (by simp only [List.length_singleton]; omega)]
    have moved : v.index - 1 = w.index - 1 := by omega
    exact .var moved

theorem instantiate {body body' arg arg' : Term} (bodies : body.Equivalent body')
    (args : arg.Equivalent arg') :
    ∃ next next', body.instantiate arg = .ok next ∧ body'.instantiate arg' = .ok next' ∧
      next.Equivalent next' := by
  have left := instantiate_eq_fill bodies.isKnown_left args.isKnown_left
  have right := instantiate_eq_fill bodies.symm.isKnown_left args.symm.isKnown_left
  exact ⟨_, _, left, right, bodies.fill args 0⟩

theorem contract {contractum : Except UnknownForm Term} (alike : t.Equivalent u)
    (redex : t.contract? = some contractum) :
    ∃ next next', contractum = .ok next ∧ u.contract? = some (.ok next') ∧ next.Equivalent next' := by
  cases contracts_of_contract? redex with
  | beta value =>
    cases alike with
    | app fns args =>
      cases fns with
      | abs _ bodies =>
        obtain ⟨next, next', left, right, nexts⟩ := Equivalent.instantiate bodies args
        have value' := args.isValue_eq.symm.trans value
        exact ⟨next, next', left, right ▸ (Contracts.beta value').contract?, nexts⟩
  | iteTru =>
    cases alike with
    | ite guards thns elses =>
      cases guards
      exact ⟨_, _, rfl, Contracts.iteTru.contract?, thns⟩
  | iteFls =>
    cases alike with
    | ite guards thns elses =>
      cases guards
      exact ⟨_, _, rfl, Contracts.iteFls.contract?, elses⟩
  | predZero =>
    cases alike with
    | pred args =>
      cases args
      exact ⟨_, _, rfl, Contracts.predZero.contract?, .zero⟩
  | predSucc numeric =>
    cases alike with
    | pred args =>
      cases args with
      | succ inner =>
        have numeric' := inner.isNumeric_eq.symm.trans numeric
        exact ⟨_, _, rfl, (Contracts.predSucc numeric').contract?, inner⟩
  | isZeroZero =>
    cases alike with
    | isZero args =>
      cases args
      exact ⟨_, _, rfl, Contracts.isZeroZero.contract?, .tru⟩
  | isZeroSucc numeric =>
    cases alike with
    | isZero args =>
      cases args with
      | succ inner =>
        have numeric' := inner.isNumeric_eq.symm.trans numeric
        exact ⟨_, _, rfl, (Contracts.isZeroSucc numeric').contract?, .fls⟩

theorem contract?_eq_none (alike : t.Equivalent u) (noRedex : t.contract? = none) :
    u.contract? = none := by
  cases redex : u.contract? with
  | none => rfl
  | some contractum =>
    obtain ⟨_, _, _, impossible, _⟩ := alike.symm.contract redex
    rw [noRedex] at impossible
    cases impossible

theorem unplug {frame : Frame} (alike : (frame.plug t).Equivalent u) (reaches : frame.Reaches t) :
    ∃ (frame' : Frame) (hole : Term), u = frame'.plug hole ∧ t.Equivalent hole ∧ frame'.Reaches hole ∧
      ∀ {inner inner' : Term}, inner.Equivalent inner' →
        (frame.plug inner).Equivalent (frame'.plug inner') := by
  cases frame with
  | function arg =>
    cases alike with
    | app fns args =>
      have notValue : t.isValue = false := reaches
      exact ⟨.function _, _, rfl, fns, fns.isValue_eq.symm.trans notValue, fun holes => .app holes args⟩
  | argument fn value =>
    cases alike with
    | app fns args =>
      have value' := fns.isValue_eq.symm.trans value
      exact ⟨.argument _ value', _, rfl, args, trivial, fun holes => .app fns holes⟩
  | guard thn els =>
    cases alike with
    | ite guards thns elses => exact ⟨.guard _ _, _, rfl, guards, trivial, fun holes => .ite holes thns elses⟩
  | succ =>
    cases alike with
    | succ args => exact ⟨.succ, _, rfl, args, trivial, .succ⟩
  | pred =>
    cases alike with
    | pred args => exact ⟨.pred, _, rfl, args, trivial, .pred⟩
  | isZero =>
    cases alike with
    | isZero args => exact ⟨.isZero, _, rfl, args, trivial, .isZero⟩

theorem step (alike : t.Equivalent u) :
    (∃ next next', t.step = .ok next ∧ u.step = .ok next' ∧ next.Equivalent next') ∨ (t.Normal ∧ u.Normal) := by
  induction t using step_induction generalizing u with
  | inert t inert =>
    have inert' := alike.isInert_eq.symm.trans inert
    exact .inr ⟨⟨t, step_inert inert⟩, ⟨u, step_inert inert'⟩⟩
  | redex t contractum redex =>
    obtain ⟨next, next', rfl, redex', nexts⟩ := alike.contract redex
    exact .inl ⟨next, next', step_redex redex, step_redex redex', nexts⟩
  | inside frame t reaches noRedex ih =>
    -- The other term is no redex either, so its step also takes place in the hole.
    have noRedex' := alike.contract?_eq_none noRedex
    obtain ⟨frame', hole, rfl, holes, reaches', plug⟩ := alike.unplug reaches
    rcases ih holes with ⟨next, next', stepped, stepped', nexts⟩ | ⟨normal, normal'⟩
    · exact .inl ⟨_, _, step_plug_ok frame stepped, step_plug_ok frame' stepped', plug nexts⟩
    · exact .inr ⟨normal_plug frame normal reaches noRedex, normal_plug frame' normal' reaches' noRedex'⟩

theorem step_ok {next : Term} (alike : t.Equivalent u) (stepped : t.step = .ok next) :
    ∃ next', u.step = .ok next' ∧ next.Equivalent next' := by
  rcases alike.step with ⟨other, next', same, stepped', nexts⟩ | ⟨normal, _⟩
  · rw [stepped] at same
    cases same
    exact ⟨next', stepped', nexts⟩
  · exact absurd stepped normal.step_ne_ok

theorem normal (alike : t.Equivalent u) (normal : t.Normal) : u.Normal := by
  rcases alike.step with ⟨next, _, stepped, _, _⟩ | ⟨_, normal'⟩
  · exact absurd stepped normal.step_ne_ok
  · exact normal'

theorem step_ne_unknownForm {form : UnknownForm} (alike : t.Equivalent u) :
    t.step ≠ .error (.unknownForm form) := by
  rcases alike.step with ⟨next, _, stepped, _, _⟩ | ⟨normal, _⟩
  · simp [stepped]
  · exact normal.step_ne_unknownForm

end Equivalent

inductive EndTogether : Option EvalError → Option EvalError → Prop where
  | finished : EndTogether none none
  | exceeded {limit : Int} {t u : Term} (alike : t.Equivalent u) :
      EndTogether (some (.limitExceeded limit t)) (some (.limitExceeded limit u))
  | dry : EndTogether (some .outOfFuel) (some .outOfFuel)

namespace Equivalent

variable {t u : Term}

theorem runFrom (alike : t.Equivalent u) (limit : Option Int) (fuel taken : Nat) :
    List.Forall₂ Equivalent (t.runFrom limit fuel taken).terms (u.runFrom limit fuel taken).terms ∧
      EndTogether (t.runFrom limit fuel taken).failure (u.runFrom limit fuel taken).failure := by
  induction fuel, taken, t using runFrom_induction limit generalizing u with
  | dry taken t => exact ⟨.cons alike .nil, .dry⟩
  | normal fuel taken t normal trace =>
    obtain ⟨inner, stop⟩ := alike.normal normal
    have trace' : u.runFrom limit (fuel + 1) taken = ⟨u, [], none⟩ := by simp only [Term.runFrom, stop]
    rw [trace, trace']
    exact ⟨.cons alike .nil, .finished⟩
  | failed fuel taken t form stop trace => exact absurd stop alike.step_ne_unknownForm
  | exceeded fuel taken t next l stepped past trace =>
    obtain ⟨next', stepped', nexts⟩ := alike.step_ok stepped
    have trace' : u.runFrom limit (fuel + 1) taken = ⟨u, [], some (.limitExceeded l next')⟩ := by
      simp only [Term.runFrom, stepped', past]
    rw [trace, trace']
    exact ⟨.cons alike .nil, .exceeded nexts⟩
  | step fuel taken t next stepped within trace ih =>
    obtain ⟨next', stepped', nexts⟩ := alike.step_ok stepped
    have trace' : u.runFrom limit (fuel + 1) taken =
        (next'.runFrom limit fuel (taken + 1)).prepend u := by
      simp only [Term.runFrom, stepped', within]
    obtain ⟨shown, ended⟩ := ih nexts
    rw [trace, trace', Trace.terms_prepend, Trace.terms_prepend, Trace.failure_prepend,
      Trace.failure_prepend]
    exact ⟨.cons alike shown, ended⟩

theorem ends {result : Except UnknownForm Term} (alike : t.Equivalent u) (run : t.Ends result) :
    ∃ v w, result = .ok v ∧ u.Ends (.ok w) ∧ v.Equivalent w := by
  obtain ⟨steps, run⟩ := run
  induction run generalizing u with
  | normal normal => exact ⟨_, u, rfl, ⟨0, .normal (alike.normal normal)⟩, alike⟩
  | failed stop => exact absurd stop alike.step_ne_unknownForm
  | step first rest ih =>
    obtain ⟨next', first', nexts⟩ := alike.step_ok first
    obtain ⟨v, w, same, rest', finals⟩ := ih nexts
    exact ⟨v, w, same, .of_step first' rest', finals⟩

theorem diverges (alike : t.Equivalent u) (endless : ∀ result, ¬t.Ends result) :
    ∀ result, ¬u.Ends result := by
  intro result run
  obtain ⟨_, w, _, run', _⟩ := alike.symm.ends run
  exact endless (.ok w) run'

end Equivalent

/-- Labels have no influence on evaluation. Equivalent terms step together, show equivalent terms under every
limit and end their runs in the same way, and full reduction takes both to equivalent terms or ends for neither. -/
theorem evaluation_ignores_labels {t u : Term} (alike : t.Equivalent u) :
    ((∃ next next', t.step = .ok next ∧ u.step = .ok next' ∧ next.Equivalent next') ∨
      (t.Normal ∧ u.Normal)) ∧
    (∀ machine : Machine,
      List.Forall₂ Equivalent (machine.run t).terms (machine.run u).terms ∧
        EndTogether (machine.run t).failure (machine.run u).failure) ∧
    ((∃ v w, (∃ fuel, t.normalize fuel = .ok v) ∧ (∃ fuel, u.normalize fuel = .ok w) ∧ v.Equivalent w) ∨
      ((∀ fuel, t.normalize fuel = .error .outOfFuel) ∧ ∀ fuel, u.normalize fuel = .error .outOfFuel)) := by
  refine ⟨alike.step, fun machine => ?_, ?_⟩
  · cases limit : machine.stepLimit with
    | none =>
      simp only [Machine.run, run, limit]
      exact alike.runFrom none machine.fuel 0
    | some l =>
      simp only [Machine.run, run, limit]
      exact alike.runFrom (some l) (l.toNat + 1) 0
  · by_cases finite : ∃ result, t.Ends result
    · obtain ⟨result, run⟩ := finite
      obtain ⟨v, w, rfl, run', finals⟩ := alike.ends run
      exact .inl ⟨v, w, (exists_normalize_iff t (.ok v)).mpr run, (exists_normalize_iff u (.ok w)).mpr run', finals⟩
    · have endless := not_exists.mp finite
      exact .inr ⟨(normalize_diverges_iff t).mpr endless, (normalize_diverges_iff u).mpr (alike.diverges endless)⟩

def keepFirst (hint : String) (ann : Option Ty) (scope : Int) : Term :=
  .app (.app (.abs hint ann (.abs hint ann (.var ⟨1, scope⟩))) .zero) .tru

theorem evaluation_ignores_labels_keepFirst :
    (keepFirst "x" (some .nat) 2).Equivalent (keepFirst "" none (-7)) ∧
      List.Forall₂ Equivalent ((Machine.mk (some 1) 0).run (keepFirst "x" (some .nat) 2)).terms
        ((Machine.mk (some 1) 0).run (keepFirst "" none (-7))).terms ∧
      EndTogether ((Machine.mk (some 1) 0).run (keepFirst "x" (some .nat) 2)).failure
        ((Machine.mk (some 1) 0).run (keepFirst "" none (-7))).failure := by
  have alike : (keepFirst "x" (some .nat) 2).Equivalent (keepFirst "" none (-7)) :=
    .app (.app (.abs trivial (.abs trivial (.var rfl))) .zero) .tru
  exact ⟨alike, (evaluation_ignores_labels alike).2.1 _⟩

end Term

end Calculi
