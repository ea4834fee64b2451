import Calculi.Proofs.Entries
import Calculi.Proofs.References
import Calculi.Settings.Assignment
import Mathlib.Data.List.Induction

/-!
What the values of a file of variables are, and what they depend on. Only the last assignment to a name counts. Its value
depends on the names that it refers to, each of them as it stands above that line: on what is assigned to it there or
else on the environment. Whatever else changes in the file or around it leaves the value as it is.
-/
namespace Calculi.Settings.Assignment

/-- The value that some assignments give a name: the text of the last one to it, expanded with what is given above that
line and, where nothing is, with the environment. -/
inductive Gives (environment : Entries String) : List Assignment → String → Option (Option String) → Prop
  | unassigned {assignments : List Assignment} {name : String} (absent : name ∉ Entries.keys assignments) :
      Gives environment assignments name none
  | valueless {above below : List Assignment} {name : String} (last : name ∉ Entries.keys below) :
      Gives environment (above ++ (name, none) :: below) name (some none)
  | value {above below : List Assignment} {name text out : String} {given : String → Option (Option String)}
      (last : name ∉ Entries.keys below) (earlier : ∀ other, Gives environment above other (given other))
      (expands : Expands (fun other => (given other).or ((environment.get? other).map some)) text out) :
      Gives environment (above ++ (name, some text) :: below) name (some (some out))

section

variable (environment : Entries String)

theorem values_append_singleton (assignments : List Assignment) (assignment : Assignment) :
    values environment (assignments ++ [assignment]) =
      assign environment (values environment assignments) assignment := by
  rw [values, List.foldl_append]
  rfl

theorem mem_keys_values {assignments : List Assignment} {name : String} :
    name ∈ (values environment assignments).keys ↔ name ∈ Entries.keys assignments := by
  induction assignments using List.reverseRecOn with
  | nil => rfl
  | append_singleton assignments assignment ih =>
    rw [values_append_singleton, assign, Entries.mem_keys_put, ih, Entries.keys_append, List.mem_append, or_comm]
    exact or_congr_right List.mem_singleton.symm

theorem nodup_keys_values (assignments : List Assignment) : (values environment assignments).keys.Nodup := by
  induction assignments using List.reverseRecOn with
  | nil => exact List.nodup_nil
  | append_singleton assignments assignment ih =>
    rw [values_append_singleton]
    exact Entries.nodup_keys_put ih _ _

theorem get?_values_append (above : List Assignment) {below : List Assignment} {name : String}
    (last : name ∉ Entries.keys below) (value : Option String) :
    (values environment (above ++ (name, value) :: below)).get? name =
      some (value.map (interpolate (lookup environment (values environment above)))) := by
  induction below using List.reverseRecOn with
  | nil => rw [values_append_singleton, assign, Entries.get?_put, if_pos rfl]
  | append_singleton below assignment ih =>
    rw [Entries.keys_append, List.mem_append, not_or, Entries.keys_cons, Entries.keys_nil, List.mem_singleton] at last
    rw [← List.cons_append, ← List.append_assoc, values_append_singleton, assign, Entries.get?_put, if_neg last.2,
      ih last.1]

end

theorem gives_values (environment : Entries String) (assignments : List Assignment) (name : String) :
    Gives environment assignments name ((values environment assignments).get? name) := by
  induction size : assignments.length using Nat.strong_induction_on generalizing assignments name with
  | h size ih =>
    subst size
    by_cases assigned : name ∈ Entries.keys assignments
    · obtain ⟨above, value, below, rfl, last⟩ := Entries.exists_last_of_mem_keys assigned
      rw [get?_values_append environment above last]
      cases value with
      | none => exact .valueless last
      | some text => exact .value last (fun other => ih _ (by simp) above other rfl) (expands_iff.mpr rfl)
    · rw [Entries.get?_eq_none_iff.mpr (mt (mem_keys_values environment).mp assigned)]
      exact .unassigned assigned

theorem gives_iff {environment : Entries String} {assignments : List Assignment} {name : String}
    {value : Option (Option String)} :
    Gives environment assignments name value ↔ (values environment assignments).get? name = value := by
  constructor
  · intro gives
    induction gives with
    | unassigned absent => exact Entries.get?_eq_none_iff.mpr (mt (mem_keys_values environment).mp absent)
    | valueless last => rw [get?_values_append environment _ last]; rfl
    | value last _ expands ih =>
      rw [get?_values_append environment _ last, Option.map_some, ← expands_iff.mp expands]
      simp only [← ih]
      rfl
  · rintro rfl
    exact gives_values environment assignments name

/-- The last assignment to a name is the same in two files, and so are those to the names that it refers to, up to
there; names that are not assigned there are the same in the environments. -/
inductive SaidAlike (environment environment' : Entries String) : List Assignment → List Assignment → String → Prop
  | unassigned {assignments assignments' : List Assignment} {name : String}
      (absent : name ∉ Entries.keys assignments) (absent' : name ∉ Entries.keys assignments')
      (agree : environment.get? name = environment'.get? name) :
      SaidAlike environment environment' assignments assignments' name
  | assigned {above below above' below' : List Assignment} {name : String} {value : Option String}
      (last : name ∉ Entries.keys below) (last' : name ∉ Entries.keys below')
      (references : ∀ text ∈ value, ∀ other, RefersTo text other →
        SaidAlike environment environment' above above' other) :
      SaidAlike environment environment' (above ++ (name, value) :: below) (above' ++ (name, value) :: below') name

section

variable {environment environment' : Entries String}

theorem get?_values_congr {above below above' below' : List Assignment} {name : String} {value : Option String}
    (last : name ∉ Entries.keys below) (last' : name ∉ Entries.keys below')
    (agree : ∀ text ∈ value, ∀ other, RefersTo text other →
      lookup environment (values environment above) other = lookup environment' (values environment' above') other) :
    (values environment (above ++ (name, value) :: below)).get? name =
      (values environment' (above' ++ (name, value) :: below')).get? name := by
  rw [get?_values_append environment above last, get?_values_append environment' above' last']
  cases value with
  | none => rw [Option.map_none, Option.map_none]
  | some text => rw [Option.map_some, Option.map_some, interpolate_congr (agree text rfl)]

namespace SaidAlike

variable {assignments assignments' : List Assignment} {name : String}

theorem lookup_eq (alike : SaidAlike environment environment' assignments assignments' name) :
    lookup environment (values environment assignments) name =
      lookup environment' (values environment' assignments') name := by
  induction alike with
  | unassigned absent absent' agree =>
    rw [lookup, lookup, Entries.get?_eq_none_iff.mpr (mt (mem_keys_values environment).mp absent),
      Entries.get?_eq_none_iff.mpr (mt (mem_keys_values environment').mp absent'), agree]
  | assigned last last' _ ih =>
    have here := get?_values_congr last last' ih
    rw [get?_values_append _ _ last'] at here
    rw [lookup, lookup, here, get?_values_append _ _ last', Option.some_or, Option.some_or]

theorem get?_eq (alike : SaidAlike environment environment' assignments assignments' name) :
    (values environment assignments).get? name = (values environment' assignments').get? name := by
  cases alike with
  | unassigned absent absent' _ =>
    rw [Entries.get?_eq_none_iff.mpr (mt (mem_keys_values environment).mp absent),
      Entries.get?_eq_none_iff.mpr (mt (mem_keys_values environment').mp absent')]
  | assigned last last' references =>
    exact get?_values_congr last last' fun text mem other refers => (references text mem other refers).lookup_eq

end SaidAlike

end

end Calculi.Settings.Assignment
