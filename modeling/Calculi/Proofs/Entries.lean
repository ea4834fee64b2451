import Calculi.Entries
import Mathlib.Data.List.Basic

/-!
Tables as maps. A name is looked up as it was last put; keys stay in the order in which they first came, and each of
them stands there once.
-/
namespace Calculi.Entries

variable {α : Type}

@[simp] theorem keys_append (front back : Entries α) : keys (front ++ back) = front.keys ++ back.keys :=
  List.map_append

@[simp] theorem get?_nil (name : String) : get? ([] : Entries α) name = none := rfl

theorem get?_cons (key : String) (value : α) (rest : Entries α) (name : String) :
    get? ((key, value) :: rest) name = if name = key then some value else get? rest name := by
  by_cases same : name = key
  · simp [get?, same]
  · simp [get?, List.lookup_cons, same, beq_eq_false_iff_ne.mpr same]

theorem get?_eq_none_iff {table : Entries α} {name : String} : table.get? name = none ↔ name ∉ table.keys := by
  induction table with
  | nil => simp
  | cons entry rest ih =>
    obtain ⟨key, value⟩ := entry
    by_cases same : name = key
    · simp [get?_cons, same]
    · simp [get?_cons, same, ih]

theorem mem_of_get? {table : Entries α} {name : String} {value : α} (found : table.get? name = some value) :
    (name, value) ∈ table := by
  obtain ⟨before, after, rfl, _⟩ := List.lookup_eq_some_iff.mp found
  simp

theorem get?_of_mem {table : Entries α} (distinct : table.keys.Nodup) {name : String} {value : α}
    (mem : (name, value) ∈ table) : table.get? name = some value := by
  induction table with
  | nil => cases mem
  | cons entry rest ih =>
    obtain ⟨key, first⟩ := entry
    rw [keys_cons, List.nodup_cons] at distinct
    rw [get?_cons]
    rcases List.mem_cons.mp mem with here | later
    · cases here
      exact if_pos rfl
    · have apart : name ≠ key := fun same => distinct.1 (same ▸ List.mem_map_of_mem later)
      rw [if_neg apart, ih distinct.2 later]

theorem exists_last_of_mem_keys {table : Entries α} {name : String} (mem : name ∈ table.keys) :
    ∃ before value after, table = before ++ (name, value) :: after ∧ name ∉ keys after := by
  induction table with
  | nil => cases mem
  | cons entry rest ih =>
    obtain ⟨key, value⟩ := entry
    by_cases later : name ∈ keys rest
    · obtain ⟨before, last, after, rfl, final⟩ := ih later
      exact ⟨(key, value) :: before, last, after, rfl, final⟩
    · obtain rfl : name = key := (List.mem_cons.mp mem).resolve_right later
      exact ⟨[], value, rest, rfl, later⟩

/-! Putting one value -/

theorem get?_put (key : String) (value : α) (table : Entries α) (name : String) :
    (put key value table).get? name = if name = key then some value else table.get? name := by
  induction table with
  | nil => rw [put, get?_cons]
  | cons entry rest ih =>
    obtain ⟨k, v⟩ := entry
    by_cases found : k = key
    · subst found
      rw [put, if_pos rfl, get?_cons, get?_cons]
      by_cases same : name = k
      · rw [if_pos same, if_pos same]
      · rw [if_neg same, if_neg same, if_neg same]
    · rw [put, if_neg found, get?_cons, get?_cons, ih]
      by_cases same : name = k
      · rw [if_pos same, if_pos same, if_neg (by rw [same]; exact found)]
      · rw [if_neg same, if_neg same]

theorem mem_put {key : String} {value : α} {table : Entries α} {entry : String × α}
    (mem : entry ∈ put key value table) : entry = (key, value) ∨ entry ∈ table := by
  induction table with
  | nil => exact .inl (List.mem_singleton.mp mem)
  | cons first rest ih =>
    obtain ⟨k, v⟩ := first
    by_cases found : k = key
    · rw [put, if_pos found, found] at mem
      rcases List.mem_cons.mp mem with here | later
      · exact .inl here
      · exact .inr (List.mem_cons_of_mem _ later)
    · rw [put, if_neg found] at mem
      rcases List.mem_cons.mp mem with here | later
      · exact .inr (here ▸ List.mem_cons_self)
      · exact (ih later).imp_right (List.mem_cons_of_mem _)

theorem put_put_self (key : String) (first second : α) (table : Entries α) :
    put key second (put key first table) = put key second table := by
  induction table with
  | nil => simp [put]
  | cons entry rest ih =>
    obtain ⟨k, v⟩ := entry
    by_cases found : k = key
    · simp [put, found]
    · simp [put, found, ih]

/-- Where the key of one is there already, the other cannot come to stand before it. -/
theorem put_put_of_mem {key other : String} {table : Entries α} (present : key ∈ table.keys) (apart : key ≠ other)
    (value value' : α) : put key value (put other value' table) = put other value' (put key value table) := by
  induction table with
  | nil => cases present
  | cons entry rest ih =>
    obtain ⟨k, v⟩ := entry
    by_cases found : k = key
    · subst found
      simp [put, apart]
    · have later : key ∈ keys rest := by
        rcases List.mem_cons.mp present with here | later
        · exact absurd here.symm found
        · exact later
      by_cases same : k = other
      · subst same
        simp [put, found]
      · simp [put, found, same, ih later]

/-! Putting many -/

@[simp] theorem putAll_nil (table : Entries α) : putAll table [] = table := rfl

@[simp] theorem putAll_cons (table : Entries α) (key : String) (value : α) (rest : Entries α) :
    putAll table ((key, value) :: rest) = putAll (put key value table) rest := rfl

theorem get?_putAll (table : Entries α) {updates : Entries α} (distinct : updates.keys.Nodup) (name : String) :
    (putAll table updates).get? name = (updates.get? name).or (table.get? name) := by
  induction updates generalizing table with
  | nil => rfl
  | cons entry rest ih =>
    obtain ⟨key, value⟩ := entry
    rw [keys_cons, List.nodup_cons] at distinct
    rw [putAll_cons, ih _ distinct.2, get?_put, get?_cons]
    by_cases same : name = key
    · subst same
      rw [if_pos rfl, if_pos rfl, get?_eq_none_iff.mpr distinct.1]
      rfl
    · rw [if_neg same, if_neg same]

theorem putAll_put_of_mem {key : String} {table updates : Entries α} (present : key ∈ table.keys)
    (apart : key ∉ updates.keys) (value : α) :
    putAll (put key value table) updates = put key value (putAll table updates) := by
  induction updates generalizing table with
  | nil => rfl
  | cons entry rest ih =>
    obtain ⟨k, v⟩ := entry
    rw [keys_cons, List.mem_cons, not_or] at apart
    rw [putAll_cons, putAll_cons, ← put_put_of_mem present apart.1, ih (mem_keys_put.mpr (.inr present)) apart.2]

theorem putAll_put (table : Entries α) {updates : Entries α} (distinct : updates.keys.Nodup) (key : String)
    (value : α) : putAll table (put key value updates) = put key value (putAll table updates) := by
  induction updates generalizing table with
  | nil => rfl
  | cons entry rest ih =>
    obtain ⟨k, v⟩ := entry
    rw [keys_cons, List.nodup_cons] at distinct
    by_cases found : k = key
    · subst found
      have present : k ∈ (put k v table).keys := mem_keys_put.mpr (.inl rfl)
      rw [put, if_pos rfl, putAll_cons, putAll_cons, ← putAll_put_of_mem present distinct.1, put_put_self]
    · rw [put, if_neg found, putAll_cons, putAll_cons, ih _ distinct.2]

theorem put_of_not_mem {key : String} {table : Entries α} (absent : key ∉ table.keys) (value : α) :
    put key value table = table ++ [(key, value)] := by
  induction table with
  | nil => rfl
  | cons entry rest ih =>
    obtain ⟨k, v⟩ := entry
    rw [keys_cons, List.mem_cons, not_or] at absent
    rw [put, if_neg (Ne.symm absent.1), ih absent.2, List.cons_append]

theorem keys_put_of_mem {key : String} {table : Entries α} (present : key ∈ table.keys) (value : α) :
    (put key value table).keys = table.keys := by
  induction table with
  | nil => cases present
  | cons entry rest ih =>
    obtain ⟨k, v⟩ := entry
    by_cases found : k = key
    · rw [put, if_pos found]
      rfl
    · rcases List.mem_cons.mp present with here | later
      · exact absurd here.symm found
      · rw [put, if_neg found, keys_cons, keys_cons, ih later]

/-- Keys stay where they are, and new ones come behind them in the order of the updates. -/
theorem keys_putAll (table : Entries α) {updates : Entries α} (distinct : updates.keys.Nodup) :
    (putAll table updates).keys = table.keys ++ updates.keys.filter fun key => key ∉ table.keys := by
  induction updates generalizing table with
  | nil => simp
  | cons entry rest ih =>
    obtain ⟨key, value⟩ := entry
    rw [keys_cons, List.nodup_cons] at distinct
    rw [putAll_cons, ih _ distinct.2, keys_cons]
    by_cases present : key ∈ table.keys
    · rw [keys_put_of_mem present, List.filter_cons_of_neg (by simpa using present)]
    · have unchanged : (keys rest).filter (fun other => other ∉ (put key value table).keys) =
          (keys rest).filter fun other => other ∉ table.keys := by
        apply List.filter_congr
        intro other mem
        have apart : other ≠ key := fun same => distinct.1 (same ▸ mem)
        simp [mem_keys_put, apart]
      rw [unchanged, put_of_not_mem present, List.filter_cons_of_pos (by simpa using present)]
      simp [keys]

end Calculi.Entries
