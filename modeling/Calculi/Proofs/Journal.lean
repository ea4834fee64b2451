import Calculi.Journal
import Calculi.Proofs.Outcome
import Mathlib.Data.List.Forall2

/-!
How computations with a journal end. What they write has no part in it: a sequence ends as the outcomes in sequence do,
and a list of computations ends with the first failure or with all the values.
-/
namespace Calculi

namespace Journal

variable {ω ω' ε ε' α β γ : Type}

@[simp] theorem outcome_pure (a : α) : (pure a : Journal ω ε α).outcome = .ok a := rfl

theorem outcome_bind (x : Journal ω ε α) (f : α → Journal ω ε β) :
    (x >>= f).outcome = x.outcome >>= fun a => (f a).outcome := by
  obtain ⟨entries, outcome⟩ := x
  cases outcome <;> rfl

@[simp] theorem outcome_ofExcept (outcome : Except ε α) : (ofExcept outcome : Journal ω ε α).outcome = outcome := rfl

@[simp] theorem outcome_relabel (entry : ω → List ω') (error : ε → ε') (x : Journal ω ε α) :
    (x.relabel entry error).outcome = x.outcome.mapError error := rfl

theorem bind_assoc (x : Journal ω ε α) (f : α → Journal ω ε β) (g : β → Journal ω ε γ) :
    x >>= f >>= g = x >>= fun a => f a >>= g := by
  obtain ⟨entries, outcome⟩ := x
  cases outcome with
  | error e => rfl
  | ok a =>
    change bind ⟨entries ++ (f a).entries, (f a).outcome⟩ g =
      ⟨entries ++ (bind (f a) g).entries, (bind (f a) g).outcome⟩
    cases next : (f a).outcome with
    | error e => simp [bind, next]
    | ok b => simp [bind, next, List.append_assoc]

theorem bind_pure (x : Journal ω ε α) : x >>= pure = x := by
  obtain ⟨entries, outcome⟩ := x
  cases outcome with
  | error e => rfl
  | ok a =>
    change (⟨entries ++ [], .ok a⟩ : Journal ω ε α) = ⟨entries, .ok a⟩
    rw [List.append_nil]

instance : LawfulMonad (Journal ω ε) :=
  LawfulMonad.mk' _ bind_pure (fun _ _ => rfl) bind_assoc

theorem outcome_mapM (f : α → Journal ω ε β) (xs : List α) :
    (xs.mapM f).outcome = xs.mapM fun x => (f x).outcome := by
  induction xs with
  | nil => rfl
  | cons x xs ih => simp only [List.mapM_cons, outcome_bind, outcome_pure, ih]; rfl

end Journal

/-! Lists of computations -/

variable {ε α β : Type} {f : α → Except ε β}

theorem mapM_eq_ok {xs : List α} {ys : List β} (all : List.Forall₂ (fun x y => f x = .ok y) xs ys) :
    xs.mapM f = .ok ys := by
  induction all with
  | nil => rfl
  | cons here rest ih =>
    rw [List.mapM_cons]
    exact bind_eq_ok_iff.mpr ⟨_, here, bind_eq_ok_iff.mpr ⟨_, ih, rfl⟩⟩

theorem exists_mapM_eq_ok {related : α → β → Prop} {xs : List α}
    (all : ∀ x ∈ xs, ∃ y, f x = .ok y ∧ related x y) : ∃ ys, xs.mapM f = .ok ys ∧ List.Forall₂ related xs ys := by
  have exists_values : ∃ ys, List.Forall₂ (fun x y => f x = .ok y ∧ related x y) xs ys := by
    induction xs with
    | nil => exact ⟨[], .nil⟩
    | cons x xs ih =>
      rw [List.forall_mem_cons] at all
      obtain ⟨y, here⟩ := all.1
      obtain ⟨ys, rest⟩ := ih all.2
      exact ⟨y :: ys, .cons here rest⟩
  obtain ⟨ys, values⟩ := exists_values
  exact ⟨ys, mapM_eq_ok (values.imp fun _ _ found => found.1), values.imp fun _ _ found => found.2⟩

theorem mapM_eq_error {before after : List α} {x : α} {e : ε} (earlier : ∀ y ∈ before, ∃ b, f y = .ok b)
    (failed : f x = .error e) : (before ++ x :: after).mapM f = .error e := by
  induction before with
  | nil =>
    rw [List.nil_append, List.mapM_cons]
    exact bind_eq_error_iff.mpr (.inl failed)
  | cons y before ih =>
    rw [List.forall_mem_cons] at earlier
    obtain ⟨b, here⟩ := earlier.1
    rw [List.cons_append, List.mapM_cons]
    exact bind_eq_error_iff.mpr (.inr ⟨b, here, bind_eq_error_iff.mpr (.inl (ih earlier.2))⟩)

end Calculi
