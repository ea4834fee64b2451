import Calculi.Term.Substitution

/-!
The walk over terms of known forms as a total function. On such terms shifting and substituting cannot fail, two
walks in a row are one, and putting an argument for the variable of an abstraction takes a single walk.
-/
namespace Calculi.Term

def isKnown : Term → Bool
  | .var _ | .tru | .fls | .zero => true
  | .abs _ _ body => body.isKnown
  | .app fn arg => fn.isKnown && arg.isKnown
  | .ite guard thn els => guard.isKnown && thn.isKnown && els.isKnown
  | .succ arg | .pred arg | .isZero arg => arg.isKnown
  | .foreign _ => false

def mapVars (visit : Var → Int → Term) : Int → Term → Term
  | cutoff, .var v => visit v cutoff
  | cutoff, .abs hint ann body => .abs hint ann (mapVars visit (cutoff + 1) body)
  | cutoff, .app fn arg => .app (mapVars visit cutoff fn) (mapVars visit cutoff arg)
  | _, .tru => .tru
  | _, .fls => .fls
  | cutoff, .ite guard thn els =>
    .ite (mapVars visit cutoff guard) (mapVars visit cutoff thn) (mapVars visit cutoff els)
  | _, .zero => .zero
  | cutoff, .succ arg => .succ (mapVars visit cutoff arg)
  | cutoff, .pred arg => .pred (mapVars visit cutoff arg)
  | cutoff, .isZero arg => .isZero (mapVars visit cutoff arg)
  | _, .foreign text => .foreign text

/-- The variable occurrences from left to right, each with the cutoff at which a walk comes to it. -/
def occurrences : Int → Term → List (Var × Int)
  | cutoff, .var v => [(v, cutoff)]
  | cutoff, .abs _ _ body => occurrences (cutoff + 1) body
  | cutoff, .app fn arg => occurrences cutoff fn ++ occurrences cutoff arg
  | cutoff, .ite guard thn els => occurrences cutoff guard ++ occurrences cutoff thn ++ occurrences cutoff els
  | cutoff, .succ arg | cutoff, .pred arg | cutoff, .isZero arg => occurrences cutoff arg
  | _, .tru | _, .fls | _, .zero | _, .foreign _ => []

theorem mapVarsM_eq_mapVars {m : Type → Type} [Monad m] [LawfulMonad m] [MonadExceptOf UnknownForm m]
    {visit : Var → Int → m Term} {answer : Var → Int → Term} (answers : ∀ v c, visit v c = pure (answer v c)) {t : Term}
    (known : t.isKnown = true) (cutoff : Int) : t.mapVarsM visit cutoff = pure (t.mapVars answer cutoff) := by
  induction t generalizing cutoff with
  | var v => exact answers v cutoff
  | abs hint ann body ih => simp only [mapVarsM, mapVars, ih known, pure_bind]
  | app fn arg fnIH argIH =>
    simp only [isKnown, Bool.and_eq_true] at known
    simp only [mapVarsM, mapVars, fnIH known.1, argIH known.2, pure_bind]
  | ite guard thn els guardIH thnIH elsIH =>
    simp only [isKnown, Bool.and_eq_true] at known
    simp only [mapVarsM, mapVars, guardIH known.1.1, thnIH known.1.2, elsIH known.2, pure_bind]
  | succ arg ih => simp only [mapVarsM, mapVars, ih known, pure_bind]
  | pred arg ih => simp only [mapVarsM, mapVars, ih known, pure_bind]
  | isZero arg ih => simp only [mapVarsM, mapVars, ih known, pure_bind]
  | foreign text => cases known
  | _ => rfl

theorem isKnown_mapVars {visit : Var → Int → Term} (answers : ∀ v c, (visit v c).isKnown = true) {t : Term}
    (known : t.isKnown = true) (cutoff : Int) : (t.mapVars visit cutoff).isKnown = true := by
  induction t generalizing cutoff with
  | var v => exact answers v cutoff
  | abs hint ann body ih => exact ih known (cutoff + 1)
  | app fn arg fnIH argIH =>
    simp only [isKnown, Bool.and_eq_true] at known
    simp only [mapVars, isKnown, fnIH known.1, argIH known.2, Bool.and_self]
  | ite guard thn els guardIH thnIH elsIH =>
    simp only [isKnown, Bool.and_eq_true] at known
    simp only [mapVars, isKnown, guardIH known.1.1, thnIH known.1.2, elsIH known.2, Bool.and_self]
  | succ arg ih => exact ih known cutoff
  | pred arg ih => exact ih known cutoff
  | isZero arg ih => exact ih known cutoff
  | foreign text => cases known
  | _ => rfl

theorem cutoff_under_binder (c : Int) (n : Nat) : c + 1 + n = c + (n + 1 : Nat) := by omega

/-- Two walks are one walk if they agree at each variable, however many binders lie above it. The walks may
start from different cutoffs. -/
theorem mapVars_mapVars {first second both : Var → Int → Term} {c₁ c₂ c : Int} (t : Term)
    (agree : ∀ v (n : Nat), (first v (c₁ + n)).mapVars second (c₂ + n) = both v (c + n)) :
    (t.mapVars first c₁).mapVars second c₂ = t.mapVars both c := by
  induction t generalizing c₁ c₂ c with
  | var v => simpa [mapVars] using agree v 0
  | abs hint ann body ih =>
    simp only [mapVars]
    rw [ih]
    intro v n
    simp only [cutoff_under_binder]
    exact agree v (n + 1)
  | app fn arg fnIH argIH => simp only [mapVars, fnIH agree, argIH agree]
  | ite guard thn els guardIH thnIH elsIH => simp only [mapVars, guardIH agree, thnIH agree, elsIH agree]
  | succ arg ih => simp only [mapVars, ih agree]
  | pred arg ih => simp only [mapVars, ih agree]
  | isZero arg ih => simp only [mapVars, ih agree]
  | _ => rfl

theorem mapVars_var {visit : Var → Int → Term} {c : Int} (t : Term)
    (keeps : ∀ v (n : Nat), visit v (c + n) = .var v) : t.mapVars visit c = t := by
  induction t generalizing c with
  | var v => simpa [mapVars] using keeps v 0
  | abs hint ann body ih =>
    simp only [mapVars]
    rw [ih]
    intro v n
    simp only [cutoff_under_binder]
    exact keeps v (n + 1)
  | app fn arg fnIH argIH => simp only [mapVars, fnIH keeps, argIH keeps]
  | ite guard thn els guardIH thnIH elsIH => simp only [mapVars, guardIH keeps, thnIH keeps, elsIH keeps]
  | succ arg ih => simp only [mapVars, ih keeps]
  | pred arg ih => simp only [mapVars, ih keeps]
  | isZero arg ih => simp only [mapVars, ih keeps]
  | _ => rfl

/-! Shifting and filling -/

def shiftFrom (d cutoff : Int) (t : Term) : Term :=
  t.mapVars (fun v c => .var (v.shift d c)) cutoff

theorem shift_eq_shiftFrom {t : Term} (known : t.isKnown = true) (d : Int) :
    t.shift d = .ok (t.shiftFrom d 0) :=
  mapVarsM_eq_mapVars (fun _ _ => rfl) known 0

theorem isKnown_shiftFrom {t : Term} (known : t.isKnown = true) (d cutoff : Int) :
    (t.shiftFrom d cutoff).isKnown = true :=
  isKnown_mapVars (fun _ _ => rfl) known cutoff

theorem shiftFrom_zero (t : Term) (cutoff : Int) : t.shiftFrom 0 cutoff = t := by
  apply mapVars_var
  intro v n
  simp [Var.shift]

theorem shiftFrom_shiftFrom (t : Term) {d e c c' : Int} (low : c ≤ c') (high : c' ≤ c + d) :
    (t.shiftFrom d c).shiftFrom e c' = t.shiftFrom (d + e) c := by
  apply mapVars_mapVars
  intro v n
  by_cases free : c + n ≤ v.index
  · simp only [mapVars, Var.shift, if_pos free, if_pos (show c' + n ≤ v.index + d by omega)]
    simp only [Term.var.injEq, Var.mk.injEq]
    omega
  · simp only [mapVars, Var.shift, if_neg free, if_neg (show ¬c' + n ≤ v.index by omega)]
    simp only [Term.var.injEq, Var.mk.injEq, true_and]
    omega

/-- What becomes of a variable when the innermost binders outside the cutoff get these arguments and go away. -/
def fillVar (args : List Term) (v : Var) (cutoff : Int) : Term :=
  if v.index < cutoff then .var ⟨v.index, v.scope - args.length⟩
  else
    match args[(v.index - cutoff).toNat]? with
    | some arg => arg.shiftFrom cutoff 0
    | none => .var ⟨v.index - args.length, v.scope - args.length⟩

theorem fillVar_bound {args : List Term} {v : Var} {cutoff : Int} (bound : v.index < cutoff) :
    fillVar args v cutoff = .var ⟨v.index, v.scope - args.length⟩ := by
  simp only [fillVar, if_pos bound]

theorem fillVar_arg {args : List Term} {v : Var} {cutoff : Int} {arg : Term} (k : Nat)
    (position : v.index = cutoff + k) (found : args[k]? = some arg) :
    fillVar args v cutoff = arg.shiftFrom cutoff 0 := by
  have distance : (v.index - cutoff).toNat = k := by omega
  simp only [fillVar, distance, found, if_neg (show ¬v.index < cutoff by omega)]

theorem fillVar_free {args : List Term} {v : Var} {cutoff : Int}
    (free : cutoff + args.length ≤ v.index) :
    fillVar args v cutoff = .var ⟨v.index - args.length, v.scope - args.length⟩ := by
  have beyond : args[(v.index - cutoff).toNat]? = none := by
    rw [List.getElem?_eq_none_iff]
    omega
  simp only [fillVar, beyond, if_neg (show ¬v.index < cutoff by omega)]

def fill (args : List Term) (cutoff : Int) (t : Term) : Term :=
  t.mapVars (fillVar args) cutoff

theorem fill_var (args : List Term) (v : Var) (cutoff : Int) :
    (Term.var v).fill args cutoff = fillVar args v cutoff := rfl

theorem fill_abs (args : List Term) (hint : String) (ann : Option Ty) (body : Term) (cutoff : Int) :
    (Term.abs hint ann body).fill args cutoff = .abs hint ann (body.fill args (cutoff + 1)) := rfl

theorem fill_nil (t : Term) (cutoff : Int) : t.fill [] cutoff = t := by
  apply mapVars_var
  intro v n
  simp [fillVar]

theorem isKnown_fill {args : List Term} (argsKnown : ∀ arg ∈ args, arg.isKnown = true) {t : Term}
    (known : t.isKnown = true) (cutoff : Int) : (t.fill args cutoff).isKnown = true := by
  apply isKnown_mapVars _ known
  intro v c
  unfold fillVar
  split
  · rfl
  · split
    next arg found => exact isKnown_shiftFrom (argsKnown arg (List.mem_of_getElem? found)) c 0
    next => rfl

theorem fill_shiftFrom (arg t : Term) {cutoff : Int} (under : 0 ≤ cutoff) :
    (t.shiftFrom (cutoff + 1) 0).fill [arg] cutoff = t.shiftFrom cutoff 0 := by
  apply mapVars_mapVars
  intro v n
  simp only [mapVars, Var.shift, Int.zero_add]
  by_cases free : (n : Int) ≤ v.index
  · simp only [if_pos free]
    rw [fillVar_free (by simp only [List.length_singleton]; omega)]
    simp only [List.length_singleton, Term.var.injEq, Var.mk.injEq]
    omega
  · simp only [if_neg free]
    rw [fillVar_bound (by simp only; omega)]
    simp only [List.length_singleton, Term.var.injEq, Var.mk.injEq, true_and]
    omega

theorem fill_fill (arg : Term) (args : List Term) (t : Term) {cutoff : Int} (under : 0 ≤ cutoff) :
    (t.fill args (cutoff + 1)).fill [arg] cutoff = t.fill (arg :: args) cutoff := by
  apply mapVars_mapVars
  intro v n
  have position : cutoff + 1 + n = cutoff + n + 1 := by omega
  rw [position]
  generalize depth : cutoff + n = c
  have above : 0 ≤ c := by omega
  have longer : ((arg :: args).length : Int) = args.length + 1 := by simp
  rcases Int.lt_trichotomy v.index c with bound | here | free
  · rw [fillVar_bound (by omega), fillVar_bound bound]
    simp only [mapVars]
    rw [fillVar_bound (by exact bound)]
    simp only [List.length_singleton, longer, Term.var.injEq, Var.mk.injEq, true_and]
    omega
  · have whole : fillVar (arg :: args) v c = arg.shiftFrom c 0 := fillVar_arg 0 (by omega) rfl
    rw [fillVar_bound (by omega), whole]
    exact fillVar_arg 0 (by simp only; omega) rfl
  · obtain ⟨k, distance⟩ : ∃ k : Nat, v.index = c + 1 + k := ⟨(v.index - (c + 1)).toNat, by omega⟩
    cases found : args[k]? with
    | some other =>
      have whole : fillVar (arg :: args) v c = other.shiftFrom c 0 :=
        fillVar_arg (k + 1) (by omega) found
      rw [fillVar_arg k distance found, whole]
      exact fill_shiftFrom arg other above
    | none =>
      have beyond : args.length ≤ k := List.getElem?_eq_none_iff.mp found
      rw [fillVar_free (by omega), fillVar_free (by omega)]
      simp only [mapVars]
      rw [fillVar_free (by simp only [List.length_singleton]; omega)]
      simp only [List.length_singleton, longer, Term.var.injEq, Var.mk.injEq]
      omega

/-! Substitution and instantiation -/

def replaceVar (j : Int) (s : Term) (v : Var) (cutoff : Int) : Term :=
  if v.index = j + cutoff then s.shiftFrom cutoff 0 else .var v

def replace (t : Term) (j : Int) (s : Term) (cutoff : Int) : Term :=
  t.mapVars (replaceVar j s) cutoff

theorem substitute_eq_replace {t s : Term} (known : t.isKnown = true) (argKnown : s.isKnown = true)
    (j : Int) : t.substitute j s = .ok (t.replace j s 0) := by
  apply mapVarsM_eq_mapVars _ known
  intro v c
  unfold replaceVar
  split
  · exact shift_eq_shiftFrom argKnown c
  · rfl

theorem isKnown_replace {t s : Term} (known : t.isKnown = true) (argKnown : s.isKnown = true)
    (j cutoff : Int) : (t.replace j s cutoff).isKnown = true := by
  apply isKnown_mapVars _ known
  intro v c
  unfold replaceVar
  split
  · exact isKnown_shiftFrom argKnown c 0
  · rfl

/-- The argument moves in under the binder, every copy moves on to its place, and all of it moves out again. On
each copy the three shifts come to one. -/
theorem shiftFrom_replace (body s : Term) :
    (body.replace 0 (s.shiftFrom 1 0) 0).shiftFrom (-1) 0 = body.fill [s] 0 := by
  apply mapVars_mapVars
  intro v n
  simp only [Int.zero_add]
  rcases Int.lt_trichotomy v.index n with bound | here | free
  · rw [fillVar_bound bound]
    simp only [replaceVar, if_neg (show ¬v.index = 0 + n by omega), mapVars, Var.shift,
      if_neg (show ¬(n : Int) ≤ v.index by omega)]
    rfl
  · have whole : fillVar [s] v n = s.shiftFrom n 0 := fillVar_arg 0 (by omega) rfl
    simp only [whole, replaceVar, if_pos (show v.index = 0 + n by omega)]
    change ((s.shiftFrom 1 0).shiftFrom n 0).shiftFrom (-1) n = s.shiftFrom n 0
    rw [shiftFrom_shiftFrom s (by omega) (by omega), shiftFrom_shiftFrom s (by omega) (by omega)]
    congr 1
    omega
  · rw [fillVar_free (by simp only [List.length_singleton]; omega)]
    simp only [replaceVar, if_neg (show ¬v.index = 0 + n by omega), mapVars, Var.shift,
      if_pos (show (n : Int) ≤ v.index by omega)]
    rfl

theorem instantiate_eq_fill {body s : Term} (known : body.isKnown = true) (argKnown : s.isKnown = true) :
    body.instantiate s = .ok (body.fill [s] 0) := by
  have movedKnown := isKnown_shiftFrom argKnown 1 0
  simp only [instantiate, shift_eq_shiftFrom argKnown, substitute_eq_replace known movedKnown, bind,
    Except.bind, shift_eq_shiftFrom (isKnown_replace known movedKnown 0 0), shiftFrom_replace]

end Calculi.Term
