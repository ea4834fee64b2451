/-!
Tables that keep the order in which their keys first came. A later value takes the place of an earlier one.
-/
namespace Calculi

abbrev Entries (α : Type) := List (String × α)

namespace Entries

variable {α : Type}

def keys (table : Entries α) : List String :=
  table.map Prod.fst

def put (key : String) (value : α) : Entries α → Entries α
  | [] => [(key, value)]
  | (k, v) :: rest => if k = key then (k, value) :: rest else (k, v) :: put key value rest

def putAll (table updates : Entries α) : Entries α :=
  updates.foldl (fun table (key, value) => put key value table) table

def get? (table : Entries α) (key : String) : Option α :=
  table.lookup key

@[simp] theorem keys_nil : keys ([] : Entries α) = [] := rfl

@[simp] theorem keys_cons (key : String) (value : α) (rest : Entries α) :
    keys ((key, value) :: rest) = key :: keys rest := rfl

theorem mem_keys_put {key name : String} {value : α} {table : Entries α} :
    name ∈ (put key value table).keys ↔ name = key ∨ name ∈ table.keys := by
  induction table with
  | nil => simp [put]
  | cons entry rest ih =>
    obtain ⟨k, v⟩ := entry
    by_cases found : k = key
    · rw [put, if_pos found, keys_cons, keys_cons, List.mem_cons, found]
      exact ⟨.inr, fun either => either.elim .inl id⟩
    · rw [put, if_neg found, keys_cons, keys_cons, List.mem_cons, List.mem_cons, ih]
      exact or_left_comm

theorem nodup_keys_put {table : Entries α} (distinct : table.keys.Nodup) (key : String) (value : α) :
    (put key value table).keys.Nodup := by
  induction table with
  | nil => simp [put]
  | cons entry rest ih =>
    obtain ⟨k, v⟩ := entry
    rw [keys_cons, List.nodup_cons] at distinct
    by_cases found : k = key
    · rw [put, if_pos found, keys_cons, List.nodup_cons]
      exact distinct
    · rw [put, if_neg found, keys_cons, List.nodup_cons, mem_keys_put, not_or]
      exact ⟨⟨found, distinct.1⟩, ih distinct.2⟩

end Entries

end Calculi
