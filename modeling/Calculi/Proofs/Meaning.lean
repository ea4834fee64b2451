import Calculi.Proofs.Progress

/-!
Meanings. A type stands for a set and a well-typed term for an element of it, made from the elements that its parts
stand for; nothing is evaluated. Main statement: a closed program of type `Nat` or `Bool` evaluates to the literal of
its meaning. The induction relates values to elements: a function value must take every representative of an element
to a term that terminates at a representative of the function's value there.
-/
namespace Calculi

namespace Ty

def Carrier : Ty → Type
  | .bool => Bool
  | .nat => Nat
  | .arrow dom cod => dom.Carrier → cod.Carrier

end Ty

def Env : Context → Type
  | [] => Unit
  | (_, .name) :: outer => Env outer
  | (_, .typed ty) :: outer => ty.Carrier × Env outer

def Env.bind {ctx : Context} {ty : Ty} (name : String) (element : ty.Carrier) (env : Env ctx) :
    Env (ctx.extend name (.typed ty)) :=
  (element, env)

structure Meaning (ctx : Context) where
  ty : Ty
  element : Env ctx → ty.Carrier

namespace Meaning

variable {ctx : Context}

def binder? : (ctx : Context) → Nat → Option (Meaning ctx)
  | [], _ => none
  | (_, .name) :: _, 0 => none
  | (_, .typed ty) :: _, 0 => some ⟨ty, fun env => env.1⟩
  | (_, .name) :: outer, k + 1 => (binder? outer k).map fun d => ⟨d.ty, d.element⟩
  | (_, .typed _) :: outer, k + 1 => (binder? outer k).map fun d => ⟨d.ty, fun env => d.element env.2⟩

def abstraction (hint : String) (dom : Ty) (body : Meaning (ctx.extend hint (.typed dom))) :
    Meaning ctx :=
  ⟨.arrow dom body.ty, fun env argument => body.element (env.bind hint argument)⟩

def application? : Meaning ctx → Meaning ctx → Option (Meaning ctx)
  | ⟨.arrow dom cod, f⟩, ⟨actual, a⟩ =>
    if same : actual = dom then some ⟨cod, fun env => f env (same ▸ a env)⟩ else none
  | _, _ => none

def choice? : Meaning ctx → Meaning ctx → Meaning ctx → Option (Meaning ctx)
  | ⟨.bool, b⟩, ⟨ty, x⟩, ⟨other, y⟩ =>
    if same : other = ty then some ⟨ty, fun env => cond (b env) (x env) (same ▸ y env)⟩ else none
  | _, _, _ => none

def arithmetic? (result : Ty) (f : Nat → result.Carrier) : Meaning ctx → Option (Meaning ctx)
  | ⟨.nat, n⟩ => some ⟨result, fun env => f (n env)⟩
  | _ => none

def boolean (b : Bool) : Meaning ctx := ⟨.bool, fun _ => b⟩

def number (n : Nat) : Meaning ctx := ⟨.nat, fun _ => n⟩

end Meaning

namespace Term

def denote : (ctx : Context) → Term → Option (Meaning ctx)
  | ctx, .var v => if v.index < 0 then none else Meaning.binder? ctx v.index.toNat
  | _, .abs _ none _ => none
  | ctx, .abs hint (some dom) body => (denote (ctx.extend hint (.typed dom)) body).map (.abstraction hint dom)
  | ctx, .app fn arg => do (← denote ctx fn).application? (← denote ctx arg)
  | _, .tru => some (.boolean true)
  | _, .fls => some (.boolean false)
  | ctx, .ite guard thn els => do (← denote ctx guard).choice? (← denote ctx thn) (← denote ctx els)
  | _, .zero => some (.number 0)
  | ctx, .succ arg => do (← denote ctx arg).arithmetic? .nat fun n => n + 1
  | ctx, .pred arg => do (← denote ctx arg).arithmetic? .nat fun n => n - 1
  | ctx, .isZero arg => do (← denote ctx arg).arithmetic? .bool fun n => n == 0
  | _, .foreign _ => none

def literal : Bool → Term
  | true => .tru
  | false => .fls

/-- Values that stand for an element of a type. An abstraction does so by what it does to representatives. -/
def Represents : (ty : Ty) → ty.Carrier → Term → Prop
  | .bool, b => fun v => v = literal b
  | .nat, n => fun v => v = numeral n
  | .arrow dom cod, f => fun v => v.isKnown = true ∧
      ∀ hint ann body, v = .abs hint ann body → ∀ (a : dom.Carrier) (arg : Term), arg.isValue = true →
        Represents dom a arg →
          ∃ next, body.instantiate arg = .ok next ∧ Terminates (Represents cod (f a)) next

theorem eq_zero_of_zero_eq_numeral {n : Nat} (same : Term.zero = numeral n) : n = 0 := by
  cases n with
  | zero => rfl
  | succ n => cases same

theorem exists_of_succ_eq_numeral {v : Term} {n : Nat} (same : Term.succ v = numeral n) :
    ∃ less, n = less + 1 ∧ v = numeral less := by
  cases n with
  | zero => cases same
  | succ n =>
    cases same
    exact ⟨n, rfl, rfl⟩

theorem eq_true_of_tru_eq_literal {b : Bool} (same : Term.tru = literal b) : b = true := by
  cases b with
  | true => rfl
  | false => cases same

theorem eq_false_of_fls_eq_literal {b : Bool} (same : Term.fls = literal b) : b = false := by
  cases b with
  | true => cases same
  | false => rfl

theorem isKnown_numeral (n : Nat) : (numeral n).isKnown = true := by
  induction n with
  | zero => rfl
  | succ n ih => exact ih

theorem ofInt_natCast (n : Nat) : ofInt n = .ok (numeral n) := by
  simp [ofInt, show ¬((n : Int) < 0) by omega]

theorem Represents.isKnown {ty : Ty} {a : ty.Carrier} {v : Term} (represents : Represents ty a v) :
    v.isKnown = true := by
  cases ty with
  | bool =>
    obtain rfl : v = literal a := represents
    cases a <;> rfl
  | nat =>
    obtain rfl : v = numeral a := represents
    exact isKnown_numeral a
  | arrow dom cod => exact represents.1

inductive Realizes : List Term → (ctx : Context) → Env ctx → Prop where
  | nil {ctx : Context} {env : Env ctx} : Realizes [] ctx env
  | cons {arg : Term} {args : List Term} {name : String} {dom : Ty} {ctx : Context} {env : Env ctx}
      {a : dom.Carrier} (value : arg.isValue = true) (represents : Represents dom a arg)
      (rest : Realizes args ctx env) : Realizes (arg :: args) (ctx.extend name (.typed dom)) (env.bind name a)

theorem Realizes.isKnown {args : List Term} {ctx : Context} {env : Env ctx} (realizes : Realizes args ctx env) :
    ∀ arg ∈ args, arg.isKnown = true := by
  induction realizes with
  | nil => simp
  | cons value represents rest ih =>
    intro arg member
    rcases List.mem_cons.mp member with rfl | later
    · exact represents.isKnown
    · exact ih arg later

theorem exists_binder? {ctx : Context} {k : Nat} {name : String} {ty : Ty}
    (entry : ctx[k]? = some (name, .typed ty)) :
    ∃ element, Meaning.binder? ctx k = some ⟨ty, element⟩ := by
  induction ctx generalizing k with
  | nil => cases entry
  | cons head outer ih =>
    obtain ⟨other, binding⟩ := head
    cases k with
    | zero =>
      cases entry
      exact ⟨_, rfl⟩
    | succ k =>
      obtain ⟨element, found⟩ := ih entry
      cases binding with
      | name => exact ⟨element, by simp only [Meaning.binder?, found]; rfl⟩
      | typed dom => exact ⟨fun env => element env.2, by simp only [Meaning.binder?, found]; rfl⟩

theorem Realizes.lookup {args : List Term} {ctx : Context} {env : Env ctx} (realizes : Realizes args ctx env)
    {k : Nat} {arg : Term} {ty : Ty} {element : Env ctx → ty.Carrier} (given : args[k]? = some arg)
    (found : Meaning.binder? ctx k = some ⟨ty, element⟩) :
    arg.isValue = true ∧ Represents ty (element env) arg := by
  induction realizes generalizing k with
  | nil => cases given
  | cons value represents rest ih =>
    cases k with
    | zero =>
      cases given
      cases found
      exact ⟨value, represents⟩
    | succ k =>
      obtain ⟨d, inner, same⟩ := Option.map_eq_some_iff.mp found
      cases same
      exact ih given inner

/-- The term means this, and with representatives of elements filled in it terminates, at a representative of its
meaning if it ends at a value. -/
structure Agrees (ctx : Context) (t : Term) (ty : Ty) (element : Env ctx → ty.Carrier) : Prop where
  means : t.denote ctx = some ⟨ty, element⟩
  ends : ∀ {args : List Term} {env : Env ctx}, Realizes args ctx env →
    Terminates (Represents ty (element env)) (t.fill args 0)

namespace Agrees

variable {ctx : Context} {fn arg guard thn els : Term}

theorem var {index : Nat} {scope : Int} {ty : Ty} {element : Env ctx → ty.Carrier}
    (found : Meaning.binder? ctx index = some ⟨ty, element⟩) :
    Agrees ctx (.var ⟨index, scope⟩) ty element where
  means := by simpa [denote] using found
  ends {args env} realizes := by
    cases given : args[index]? with
    | some arg =>
      obtain ⟨value, represents⟩ := realizes.lookup given found
      rw [fill_var, fillVar_arg index (by simp) given, shiftFrom_zero]
      exact .of_normal (normal_of_isValue value) fun _ => represents
    | none =>
      -- No value was given for it: it stays a variable, where no rule applies.
      have beyond := List.getElem?_eq_none_iff.mp given
      rw [fill_var, fillVar_free (by simp only; omega)]
      exact .of_normal ⟨_, rfl⟩ nofun

/-- Under the binder the induction has a representative for one variable more. -/
theorem abs {hint : String} {dom cod : Ty} {body : Term}
    {element : Env (ctx.extend hint (.typed dom)) → cod.Carrier} (known : body.isKnown = true)
    (bodyAgrees : Agrees (ctx.extend hint (.typed dom)) body cod element) :
    Agrees ctx (.abs hint (some dom) body) (.arrow dom cod) fun env a => element (env.bind hint a) where
  means := by
    simp only [denote, bodyAgrees.means]
    rfl
  ends {args env} realizes := by
    have filledKnown := isKnown_fill realizes.isKnown known 1
    rw [fill_abs]
    apply Terminates.of_normal (normal_of_isValue rfl)
    intro _
    refine ⟨filledKnown, ?_⟩
    intro hint' ann body' same a arg value represents
    cases same
    -- Filling in the earlier values and then this one fills in all of them at once.
    refine ⟨_, instantiate_eq_fill filledKnown represents.isKnown, ?_⟩
    rw [fill_fill arg args body (Int.le_refl 0)]
    exact bodyAgrees.ends (.cons value represents realizes)

theorem app {dom cod : Ty} {f : Env ctx → (Ty.arrow dom cod).Carrier} {a : Env ctx → dom.Carrier}
    (fnAgrees : Agrees ctx fn (.arrow dom cod) f) (argAgrees : Agrees ctx arg dom a) :
    Agrees ctx (.app fn arg) cod fun env => f env (a env) where
  means := by
    rw [denote, fnAgrees.means, argAgrees.means]
    exact dif_pos rfl
  ends {args env} realizes := by
    apply (fnAgrees.ends realizes).app_of (argAgrees.ends realizes)
    intro hint ann body v fnRepresents argValue argRepresents
    exact fnRepresents.2 _ _ _ rfl _ _ argValue argRepresents

theorem tru : Agrees ctx .tru .bool fun _ => true where
  means := rfl
  ends _ := .of_normal (normal_of_isValue rfl) fun _ => rfl

theorem fls : Agrees ctx .fls .bool fun _ => false where
  means := rfl
  ends _ := .of_normal (normal_of_isValue rfl) fun _ => rfl

theorem ite {ty : Ty} {b : Env ctx → Bool} {x y : Env ctx → ty.Carrier}
    (guardAgrees : Agrees ctx guard .bool b) (thnAgrees : Agrees ctx thn ty x)
    (elsAgrees : Agrees ctx els ty y) :
    Agrees ctx (.ite guard thn els) ty fun env => cond (b env) (x env) (y env) where
  means := by
    rw [denote, guardAgrees.means, thnAgrees.means, elsAgrees.means]
    exact dif_pos rfl
  ends {args env} realizes := by
    apply (guardAgrees.ends realizes).ite_of
    · intro isTrue
      rw [eq_true_of_tru_eq_literal isTrue]
      exact thnAgrees.ends realizes
    · intro isFalse
      rw [eq_false_of_fls_eq_literal isFalse]
      exact elsAgrees.ends realizes

theorem zero : Agrees ctx .zero .nat fun _ => (0 : Nat) where
  means := rfl
  ends _ := .of_normal (normal_of_isValue rfl) fun _ => rfl

variable {n : Env ctx → Nat}

theorem succ (argAgrees : Agrees ctx arg .nat n) :
    Agrees ctx (.succ arg) .nat fun env => n env + 1 where
  means := by
    simp only [denote, argAgrees.means]
    rfl
  ends realizes := (argAgrees.ends realizes).succ_of fun _ same => congrArg Term.succ same

theorem pred (argAgrees : Agrees ctx arg .nat n) :
    Agrees ctx (.pred arg) .nat fun env => n env - 1 where
  means := by
    simp only [denote, argAgrees.means]
    rfl
  ends {args env} realizes := by
    apply (argAgrees.ends realizes).pred_of
    · intro isZero
      rw [eq_zero_of_zero_eq_numeral isZero]
      rfl
    · intro v _ isSucc
      obtain ⟨less, same, rfl⟩ := exists_of_succ_eq_numeral isSucc
      rw [same]
      rfl

theorem isZero (argAgrees : Agrees ctx arg .nat n) :
    Agrees ctx (.isZero arg) .bool fun env => n env == 0 where
  means := by
    simp only [denote, argAgrees.means]
    rfl
  ends {args env} realizes := by
    apply (argAgrees.ends realizes).isZero_of
    · intro isZero
      rw [eq_zero_of_zero_eq_numeral isZero]
      rfl
    · intro v _ isSucc
      obtain ⟨less, same, rfl⟩ := exists_of_succ_eq_numeral isSucc
      rw [same]
      rfl

end Agrees

end Term

theorem HasType.agrees {ctx : Context} {t : Term} {ty : Ty} (typed : HasType ctx t ty) :
    ∃ element, Term.Agrees ctx t ty element := by
  induction typed with
  | var entry =>
    obtain ⟨element, found⟩ := Term.exists_binder? entry
    exact ⟨element, .var found⟩
  | abs bodyTyped ih =>
    obtain ⟨element, bodyAgrees⟩ := ih
    exact ⟨_, .abs bodyTyped.isKnown bodyAgrees⟩
  | app _ _ fnIH argIH =>
    obtain ⟨f, fnAgrees⟩ := fnIH
    obtain ⟨a, argAgrees⟩ := argIH
    exact ⟨_, fnAgrees.app argAgrees⟩
  | tru => exact ⟨_, .tru⟩
  | fls => exact ⟨_, .fls⟩
  | ite _ _ _ guardIH thnIH elsIH =>
    obtain ⟨b, guardAgrees⟩ := guardIH
    obtain ⟨x, thnAgrees⟩ := thnIH
    obtain ⟨y, elsAgrees⟩ := elsIH
    exact ⟨_, guardAgrees.ite thnAgrees elsAgrees⟩
  | zero => exact ⟨_, .zero⟩
  | succ _ ih =>
    obtain ⟨n, argAgrees⟩ := ih
    exact ⟨_, argAgrees.succ⟩
  | pred _ ih =>
    obtain ⟨n, argAgrees⟩ := ih
    exact ⟨_, argAgrees.pred⟩
  | isZero _ ih =>
    obtain ⟨n, argAgrees⟩ := ih
    exact ⟨_, argAgrees.isZero⟩

theorem HasType.ends_at_meaning {t : Term} {ty : Ty} {element : Env [] → ty.Carrier} (typed : HasType [] t ty)
    (agrees : Term.Agrees [] t ty element) : ∃ v, t.Ends (.ok v) ∧ Term.Represents ty (element ()) v := by
  obtain ⟨v, run, represents⟩ := agrees.ends .nil
  rw [Term.fill_nil] at run
  exact ⟨v, run, represents (typed.final_value run).1⟩

/-- A closed program of type `Nat` has a number as its meaning, and evaluation without a limit returns the numeral of
that number under both strategies; one of type `Bool` returns the literal of the boolean that it means. -/
theorem evaluate_returns_meaning {t : Term} :
    (t.infer [] = .ok .nat → ∃ n : Env [] → Nat, t.denote [] = some ⟨.nat, n⟩ ∧
      ∃ v, Term.ofInt (n ()) = .ok v ∧ ∀ strategy, ∃ enough, ∀ fuel, enough ≤ fuel →
        ((Machine.mk none fuel).evaluate strategy t).outcome = .ok v) ∧
    (t.infer [] = .ok .bool → ∃ b : Env [] → Bool, t.denote [] = some ⟨.bool, b⟩ ∧
      ∀ strategy, ∃ enough, ∀ fuel, enough ≤ fuel →
        ((Machine.mk none fuel).evaluate strategy t).outcome = .ok (.literal (b ()))) := by
  constructor
  · intro inferred
    have typed := infer_eq_ok_iff.mp inferred
    obtain ⟨n, agrees⟩ := typed.agrees
    obtain ⟨v, run, represents⟩ := typed.ends_at_meaning agrees
    obtain rfl : v = Term.numeral (n ()) := represents
    exact ⟨n, agrees.means, _, Term.ofInt_natCast _, run.evaluate_unlimited⟩
  · intro inferred
    have typed := infer_eq_ok_iff.mp inferred
    obtain ⟨b, agrees⟩ := typed.agrees
    obtain ⟨v, run, represents⟩ := typed.ends_at_meaning agrees
    obtain rfl : v = Term.literal (b ()) := represents
    exact ⟨b, agrees.means, run.evaluate_unlimited⟩

def Term.twiceFromZero : Term :=
  .app
    (.abs "f" (some (.arrow .nat .nat)) (.app (.var ⟨0, 1⟩) (.app (.var ⟨0, 1⟩) (.pred .zero))))
    (.abs "x" (some .nat) (.succ (.var ⟨0, 1⟩)))

theorem evaluate_returns_meaning_twiceFromZero :
    Term.twiceFromZero.infer [] = .ok .nat ∧
      (∀ strategy, ∃ enough, ∀ fuel, enough ≤ fuel →
        ((Machine.mk none fuel).evaluate strategy .twiceFromZero).outcome = .ok (.numeral 2)) ∧
      ∀ strategy, ∃ enough, ∀ fuel, enough ≤ fuel →
        ((Machine.mk none fuel).evaluate strategy (.isZero .twiceFromZero)).outcome = .ok .fls := by
  have number : Term.twiceFromZero.denote [] = some ⟨.nat, fun _ => (2 : Nat)⟩ := rfl
  have test : (Term.isZero .twiceFromZero).denote [] = some ⟨.bool, fun _ => false⟩ := rfl
  obtain ⟨n, means, v, made, evaluates⟩ := (evaluate_returns_meaning (t := .twiceFromZero)).1 rfl
  obtain ⟨b, tested, evaluates'⟩ := (evaluate_returns_meaning (t := .isZero .twiceFromZero)).2 rfl
  rw [number] at means
  rw [test] at tested
  cases means
  cases tested
  cases made
  exact ⟨rfl, evaluates, evaluates'⟩

end Calculi
