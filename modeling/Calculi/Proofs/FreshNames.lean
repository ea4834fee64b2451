import Calculi.Context
import Mathlib.Data.List.Nodup
import Mathlib.Data.List.Perm.Subperm
import Mathlib.Data.Nat.Find

/-!
Fresh names. The candidates for a name are the hint with more and more suffixes. They grow, so no two are equal, and a
context cannot take one more of them than it has entries: the first that it does not take is found in time. A name
picked so is a new one, and a context whose names are distinct stays that way.
-/
namespace Calculi.Context

def names (ctx : Context) : List String :=
  ctx.map Prod.fst

@[simp] theorem names_extend (ctx : Context) (name : String) (binding : Binding) :
    (ctx.extend name binding).names = name :: ctx.names := rfl

@[simp] theorem length_names (ctx : Context) : ctx.names.length = ctx.length := by
  simp [names]

theorem binds_eq_true_iff (ctx : Context) (name : String) : ctx.binds name = true ↔ name ∈ ctx.names := by
  simp [binds, names]

/-! Candidates -/

def candidate (hint suffix : String) : Nat → String
  | 0 => hint
  | k + 1 => candidate hint suffix k ++ suffix

theorem candidate_append (hint suffix : String) (k : Nat) :
    candidate (hint ++ suffix) suffix k = candidate hint suffix (k + 1) := by
  induction k with
  | zero => rfl
  | succ k ih =>
    rw [candidate, ih]
    rfl

theorem length_candidate (hint suffix : String) (k : Nat) :
    (candidate hint suffix k).length = hint.length + k * suffix.length := by
  induction k with
  | zero => simp [candidate]
  | succ k ih =>
    rw [candidate, String.length_append, ih, Nat.succ_mul]
    omega

theorem candidate_injective {suffix : String} (usable : suffix ≠ "") (hint : String) :
    Function.Injective (candidate hint suffix) := by
  intro k k' same
  have positive : 0 < suffix.length := by
    have nonzero : suffix.length ≠ 0 := fun empty => usable (String.length_eq_zero_iff.mp empty)
    omega
  have lengths := congrArg String.length same
  rw [length_candidate, length_candidate] at lengths
  exact Nat.eq_of_mul_eq_mul_right positive (by omega)

/-- A context that took every candidate up to its own length would have more entries than it has. -/
theorem exists_candidate_free (ctx : Context) (hint : String) {suffix : String} (usable : suffix ≠ "") :
    ∃ k ≤ ctx.length, candidate hint suffix k ∉ ctx.names := by
  by_contra allTaken
  push Not at allTaken
  have distinct : ((List.range (ctx.length + 1)).map (candidate hint suffix)).Nodup :=
    List.nodup_range.map (candidate_injective usable hint)
  have taken : (List.range (ctx.length + 1)).map (candidate hint suffix) ⊆ ctx.names := by
    intro name member
    obtain ⟨k, early, rfl⟩ := List.mem_map.mp member
    exact allTaken k (by simpa [Nat.lt_succ_iff] using early)
  have bound := (distinct.subperm taken).length_le
  simp only [List.length_map, List.length_range, length_names] at bound
  omega

/-! The search -/

/-- The search as it would run without a bound: append the suffix while the name is taken. It leads from a name to the
first one that is free, with this many suffixes appended on the way. -/
inductive Searches (ctx : Context) (suffix : String) : String → Nat → String → Prop
  | free {name : String} (unbound : name ∉ ctx.names) : Searches ctx suffix name 0 name
  | taken {name found : String} {k : Nat} (bound : name ∈ ctx.names)
      (rest : Searches ctx suffix (name ++ suffix) k found) : Searches ctx suffix name (k + 1) found

theorem searches_iff {ctx : Context} {hint suffix : String} {k : Nat} {found : String} :
    ctx.Searches suffix hint k found ↔ found = candidate hint suffix k ∧ candidate hint suffix k ∉ ctx.names ∧
      ∀ i < k, candidate hint suffix i ∈ ctx.names := by
  constructor
  · intro searches
    induction searches with
    | free unbound => exact ⟨rfl, unbound, fun i before => absurd before (Nat.not_lt_zero i)⟩
    | taken bound _ ih =>
      simp only [candidate_append] at ih
      refine ⟨ih.1, ih.2.1, fun i before => ?_⟩
      cases i with
      | zero => exact bound
      | succ i => exact ih.2.2 i (Nat.lt_of_succ_lt_succ before)
  · rintro ⟨rfl, free, passed⟩
    induction k generalizing hint with
    | zero => exact .free free
    | succ k ih =>
      rw [← candidate_append] at free ⊢
      refine .taken (passed 0 (Nat.succ_pos k)) (ih free fun i before => ?_)
      rw [candidate_append]
      exact passed (i + 1) (Nat.succ_lt_succ before)

theorem Searches.deterministic {ctx : Context} {suffix name found found' : String} {k k' : Nat}
    (searches : ctx.Searches suffix name k found) (searches' : ctx.Searches suffix name k' found') :
    k = k' ∧ found = found' := by
  induction searches generalizing k' with
  | free unbound =>
    cases searches' with
    | free => exact ⟨rfl, rfl⟩
    | taken bound => exact absurd bound unbound
  | taken bound _ ih =>
    cases searches' with
    | free unbound => exact absurd bound unbound
    | taken _ rest =>
      obtain ⟨rfl, same⟩ := ih rest
      exact ⟨rfl, same⟩

theorem Searches.firstFree_eq {ctx : Context} {suffix name found : String} {k tries : Nat}
    (searches : ctx.Searches suffix name k found) (enough : k ≤ tries) : ctx.firstFree suffix tries name = found := by
  induction searches generalizing tries with
  | free unbound =>
    cases tries with
    | zero => rfl
    | succ tries => rw [firstFree, if_neg ((ctx.binds_eq_true_iff _).not.mpr unbound)]
  | taken bound _ ih =>
    obtain ⟨tries, rfl⟩ : ∃ less, tries = less + 1 := ⟨tries - 1, by omega⟩
    rw [firstFree, if_pos ((ctx.binds_eq_true_iff _).mpr bound)]
    exact ih (by omega)

theorem searches_freshName (ctx : Context) (hint : String) {suffix : String} (usable : suffix ≠ "") :
    ∃ k ≤ ctx.length, ctx.Searches suffix hint k (ctx.freshName hint suffix) := by
  obtain ⟨last, early, free⟩ := ctx.exists_candidate_free hint usable
  have ends : ∃ k, candidate hint suffix k ∉ ctx.names := ⟨last, free⟩
  have bound : Nat.find ends ≤ ctx.length := Nat.le_trans (Nat.find_min' ends free) early
  have searches : ctx.Searches suffix hint (Nat.find ends) (candidate hint suffix (Nat.find ends)) :=
    searches_iff.mpr ⟨rfl, Nat.find_spec ends, fun i before => not_not.mp (Nat.find_min ends before)⟩
  have found : ctx.freshName hint suffix = candidate hint suffix (Nat.find ends) := searches.firstFree_eq bound
  exact ⟨Nat.find ends, bound, found ▸ searches⟩

theorem freshName_eq_candidate (ctx : Context) (hint : String) {suffix : String} (usable : suffix ≠ "") :
    ∃ k ≤ ctx.length, ctx.freshName hint suffix = candidate hint suffix k ∧ candidate hint suffix k ∉ ctx.names ∧
      ∀ i < k, candidate hint suffix i ∈ ctx.names := by
  obtain ⟨k, bound, searches⟩ := ctx.searches_freshName hint usable
  exact ⟨k, bound, searches_iff.mp searches⟩

theorem freshName_not_mem (ctx : Context) (hint : String) {suffix : String} (usable : suffix ≠ "") :
    ctx.freshName hint suffix ∉ ctx.names := by
  obtain ⟨k, _, same, free, _⟩ := ctx.freshName_eq_candidate hint usable
  rwa [same]

/-! Picking names -/

theorem pickFresh_eq_ok (ctx : Context) (hint : String) {suffix : String} (usable : suffix ≠ "") :
    ctx.pickFresh hint suffix = .ok (ctx.extend (ctx.freshName hint suffix) .name, ctx.freshName hint suffix) := by
  have nonempty : ¬suffix.isEmpty = true := fun empty => usable (String.isEmpty_iff.mp empty)
  rw [pickFresh, if_neg nonempty]

def afterPick (ctx : Context) (hint suffix : String) : Context :=
  match ctx.pickFresh hint suffix with
  | .ok (next, _) => next
  | .error _ => ctx

def afterPicks (ctx : Context) (calls : List (String × String)) : Context :=
  calls.foldl (fun ctx (hint, suffix) => ctx.afterPick hint suffix) ctx

theorem afterPick_cases (ctx : Context) (hint suffix : String) :
    suffix = "" ∧ ctx.afterPick hint suffix = ctx ∨
      suffix ≠ "" ∧ ctx.afterPick hint suffix = ctx.extend (ctx.freshName hint suffix) .name := by
  by_cases empty : suffix = ""
  · subst empty
    exact .inl ⟨rfl, rfl⟩
  · exact .inr ⟨empty, by rw [afterPick, ctx.pickFresh_eq_ok hint empty]⟩

theorem nodup_names_afterPick {ctx : Context} (distinct : ctx.names.Nodup) (hint suffix : String) :
    (ctx.afterPick hint suffix).names.Nodup := by
  obtain ⟨_, same⟩ | ⟨usable, grown⟩ := ctx.afterPick_cases hint suffix
  · rwa [same]
  · rw [grown, names_extend]
    exact List.nodup_cons.mpr ⟨ctx.freshName_not_mem hint usable, distinct⟩

theorem nodup_names_afterPicks {ctx : Context} (distinct : ctx.names.Nodup) (calls : List (String × String)) :
    (ctx.afterPicks calls).names.Nodup := by
  induction calls generalizing ctx with
  | nil => exact distinct
  | cons call calls ih => exact ih (nodup_names_afterPick distinct call.1 call.2)

/-- The search for a fresh name ends after at most as many steps as the context has entries. It finds the first of the
hint, the hint with one suffix, with two and so on that is free, and the context that is returned has exactly this name
more, without a type. So distinct names stay distinct, whatever names are asked for one after the other. -/
theorem fresh_names_are_least_and_distinct (ctx : Context) :
    (∀ hint suffix, suffix ≠ "" → ∃ k ≤ ctx.length,
      (∀ steps found, ctx.Searches suffix hint steps found ↔ steps = k ∧ found = candidate hint suffix k) ∧
      candidate hint suffix k ∉ ctx.names ∧ (∀ i < k, candidate hint suffix i ∈ ctx.names) ∧
      ctx.pickFresh hint suffix = .ok (ctx.extend (candidate hint suffix k) .name, candidate hint suffix k)) ∧
    (ctx.names.Nodup → ∀ calls, (ctx.afterPicks calls).names.Nodup) := by
  refine ⟨fun hint suffix usable => ?_, fun distinct => nodup_names_afterPicks distinct⟩
  obtain ⟨k, bound, searches⟩ := ctx.searches_freshName hint usable
  obtain ⟨found, free, passed⟩ := searches_iff.mp searches
  have picked := ctx.pickFresh_eq_ok hint usable
  rw [found] at searches picked
  refine ⟨k, bound, fun steps name => ⟨fun other => other.deterministic searches, ?_⟩, free, passed, picked⟩
  rintro ⟨rfl, rfl⟩
  exact searches

def crowded : Context :=
  [("x", .name), ("x__", .name), ("x", .typed .bool), ("x_", .name)]

/-- The search passes each name that is taken once, in the order of the suffixes and not of the context. -/
theorem fresh_names_are_least_and_distinct_crowded :
    ∃ k ≤ 4, crowded.Searches "_" "x" k "x___" ∧
      (Context.afterPicks [] [("x", "_"), ("x", ""), ("x", "_")]).names.Nodup := by
  have picks : crowded.pickFresh "x" "_" = .ok (crowded.extend "x___" .name, "x___") := by decide
  obtain ⟨k, bound, searches, _, _, picked⟩ := (fresh_names_are_least_and_distinct crowded).1 "x" "_" (by decide)
  rw [picks, Except.ok.injEq, Prod.mk.injEq] at picked
  exact ⟨k, bound, (searches k "x___").mpr ⟨rfl, picked.2⟩,
    (fresh_names_are_least_and_distinct []).2 List.nodup_nil [("x", "_"), ("x", ""), ("x", "_")]⟩

end Calculi.Context
