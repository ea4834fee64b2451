import Calculi.Proofs.VariableFile
import Calculi.Settings.Load

/-!
Which value decides a field: that of the first source that has one. Two surroundings decide a field alike if that source
is the same in both and says the same there; nothing needs to be the same in the sources before and behind it.
-/
namespace Calculi.Settings

/-! Variables in a table -/

def Field.SpelledBy (field : Field) (name : String) : Prop :=
  String.ofList (Text.lower name.toList) = field.variableName

instance (field : Field) (name : String) : Decidable (field.SpelledBy name) :=
  inferInstanceAs (Decidable (String.ofList (Text.lower name.toList) = field.variableName))

def Defines {α : Type} (table : Entries α) (field : Field) (value : α) : Prop :=
  ∃ before name after, table = before ++ (name, value) :: after ∧ field.SpelledBy name ∧
    ∀ entry ∈ after, ¬field.SpelledBy entry.1

section

variable {α : Type} {field : Field} {table : Entries α}

theorem lookupVariable_eq_some_iff {value : α} :
    lookupVariable field table = some value ↔ Defines table field value := by
  constructor
  · intro found
    obtain ⟨⟨name, _⟩, last, rfl⟩ := Option.map_eq_some_iff.mp found
    obtain ⟨spelled, after, before, split, passed⟩ := List.find?_eq_some_iff_append.mp last
    refine ⟨before.reverse, name, after.reverse, ?_, of_decide_eq_true spelled, fun entry member => ?_⟩
    · rw [← List.reverse_reverse table, split]
      simp
    · simpa [Field.SpelledBy] using passed entry (List.mem_reverse.mp member)
  · rintro ⟨before, name, after, rfl, spelled, passed⟩
    refine Option.map_eq_some_iff.mpr ⟨(name, value), List.find?_eq_some_iff_append.mpr
      ⟨decide_eq_true spelled, after.reverse, before.reverse, by simp, fun entry member => ?_⟩, rfl⟩
    simpa [Field.SpelledBy] using passed entry (List.mem_reverse.mp member)

theorem lookupVariable_eq_none_iff : lookupVariable field table = none ↔ ∀ value, ¬Defines table field value := by
  simp only [← lookupVariable_eq_some_iff, Option.eq_none_iff_forall_ne_some, ne_eq]

theorem not_spelledBy_of_lookupVariable (absent : lookupVariable field table = none) :
    ∀ name ∈ table.keys, ¬field.SpelledBy name := by
  intro name mem spelled
  obtain ⟨entry, inside, rfl⟩ := List.mem_map.mp mem
  have passed := List.find?_eq_none.mp (Option.map_eq_none_iff.mp absent) entry (List.mem_reverse.mpr inside)
  exact passed (decide_eq_true spelled)

end

/-! Variables in a file -/

namespace Assignment

/-- The name is a spelling of the field's variable, and no other spelling comes up later for the first time. -/
structure Names (assignments : List Assignment) (field : Field) (name : String) : Prop where
  assigned : name ∈ Entries.keys assignments
  spelled : field.SpelledBy name
  latest : ∀ other ∈ Entries.keys assignments, field.SpelledBy other →
    (Entries.keys assignments).idxOf other ≤ (Entries.keys assignments).idxOf name

variable {environment : Entries String} {assignments : List Assignment} {field : Field} {name : String}

theorem pairwise_keys_values (environment : Entries String) (assignments : List Assignment) :
    (values environment assignments).keys.Pairwise fun first second =>
      (Entries.keys assignments).idxOf first < (Entries.keys assignments).idxOf second := by
  induction assignments using List.reverseRecOn with
  | nil => exact List.Pairwise.nil
  | append_singleton assignments assignment ih =>
    obtain ⟨key, value⟩ := assignment
    have kept : ∀ name ∈ (values environment assignments).keys,
        (Entries.keys assignments ++ [key]).idxOf name = (Entries.keys assignments).idxOf name := fun name mem =>
      List.idxOf_append_of_mem ((mem_keys_values environment).mp mem)
    have earlier : (values environment assignments).keys.Pairwise fun first second =>
        (Entries.keys assignments ++ [key]).idxOf first < (Entries.keys assignments ++ [key]).idxOf second := by
      refine ih.imp_of_mem fun isFirst isSecond ordered => ?_
      rw [kept _ isFirst, kept _ isSecond]
      exact ordered
    rw [values_append_singleton, assign, Entries.keys_append, Entries.keys_cons, Entries.keys_nil]
    by_cases present : key ∈ (values environment assignments).keys
    · rw [Entries.keys_put_of_mem present]
      exact earlier
    · rw [Entries.put_of_not_mem present, Entries.keys_append, List.pairwise_append]
      refine ⟨earlier, List.pairwise_singleton _ _, fun first isFirst second isKey => ?_⟩
      have new : key ∉ Entries.keys assignments := mt (mem_keys_values environment).mpr present
      rw [List.mem_singleton.mp isKey, kept first isFirst, List.idxOf_append_of_notMem new]
      have inside := List.idxOf_lt_length_of_mem ((mem_keys_values environment).mp isFirst)
      omega

theorem Names.unique {other : String} (named : Names assignments field name) (named' : Names assignments field other) :
    name = other := by
  have le := named.latest other named'.assigned named'.spelled
  have ge := named'.latest name named.assigned named.spelled
  exact (List.idxOf_inj named.assigned).mp (Nat.le_antisymm ge le)

theorem exists_names_of_defines {value : Option String}
    (defines : Defines (values environment assignments) field value) :
    ∃ name, Names assignments field name ∧ (values environment assignments).get? name = some value := by
  obtain ⟨before, name, after, table, spelled, passed⟩ := defines
  have inside : (name, value) ∈ values environment assignments := by rw [table]; simp
  have order := pairwise_keys_values environment assignments
  have keys : (values environment assignments).keys = Entries.keys before ++ name :: Entries.keys after := by
    rw [table, Entries.keys_append, Entries.keys_cons]
  rw [keys, List.pairwise_append] at order
  refine ⟨name, ⟨(mem_keys_values environment).mp (List.mem_map_of_mem inside), spelled, fun other mem spells => ?_⟩,
    Entries.get?_of_mem (nodup_keys_values environment assignments) inside⟩
  rw [← mem_keys_values environment, keys, List.mem_append, List.mem_cons] at mem
  rcases mem with earlier | rfl | later
  · exact Nat.le_of_lt (order.2.2 other earlier name List.mem_cons_self)
  · exact Nat.le_refl _
  · obtain ⟨entry, isAfter, rfl⟩ := List.mem_map.mp later
    exact absurd spells (passed entry isAfter)

theorem Names.lookupVariable_eq (named : Names assignments field name) :
    lookupVariable field (values environment assignments) = (values environment assignments).get? name := by
  cases found : lookupVariable field (values environment assignments) with
  | some value =>
    obtain ⟨other, named', given⟩ := exists_names_of_defines (lookupVariable_eq_some_iff.mp found)
    rw [named.unique named', given]
  | none =>
    have present := (mem_keys_values environment).mpr named.assigned
    exact absurd named.spelled (not_spelledBy_of_lookupVariable found name present)

theorem lookupVariable_values_eq_some_iff {value : Option String} :
    lookupVariable field (values environment assignments) = some value ↔
      ∃ name, Names assignments field name ∧ Gives environment assignments name (some value) := by
  simp only [gives_iff]
  constructor
  · exact fun found => exists_names_of_defines (lookupVariable_eq_some_iff.mp found)
  · rintro ⟨name, named, given⟩
    rw [named.lookupVariable_eq, given]

end Assignment

/-! The deciding value -/

namespace Surroundings

inductive Decides (read : Reader) (around : Surroundings) (field : Field) : Option Value → Prop
  | override {value : Value} (said : around.overrides.get? field.key = some value) :
      Decides read around field (some value)
  | environment {text : String} (unsaid : around.overrides.get? field.key = none)
      (set : Defines around.environment field text) : Decides read around field (some (.ofVariable text))
  | file {name text : String} (unsaid : around.overrides.get? field.key = none)
      (unset : ∀ text, ¬Defines around.environment field text)
      (named : Assignment.Names (around.assignments read) field name)
      (given : Assignment.Gives around.environment (around.assignments read) name (some (some text))) :
      Decides read around field (some (.ofVariable text))
  | default (unsaid : around.overrides.get? field.key = none)
      (unset : ∀ text, ¬Defines around.environment field text)
      (ungiven : ∀ name text, Assignment.Names (around.assignments read) field name →
        ¬Assignment.Gives around.environment (around.assignments read) name (some (some text))) :
      Decides read around field none

variable {read : Reader} {around : Surroundings} {field : Field}

theorem value?_sources (read : Reader) (around : Surroundings) (field : Field) :
    (around.sources read).value? field = ((around.overrides.get? field.key).or
      (((lookupVariable field around.environment).map .ofVariable).or
        ((lookupVariable field (Assignment.values around.environment (around.assignments read))).join.map
          .ofVariable))) := by
  rw [Sources.value?]
  simp only [Option.orElse_eq_orElse, Option.orElse_eq_or]
  rfl

theorem Decides.value?_eq {winner : Option Value} (decides : around.Decides read field winner) :
    (around.sources read).value? field = winner := by
  rw [value?_sources]
  cases decides with
  | override said => rw [said, Option.some_or]
  | environment unsaid set =>
    rw [unsaid, lookupVariable_eq_some_iff.mpr set, Option.none_or, Option.map_some, Option.some_or]
  | file unsaid unset named given =>
    rw [unsaid, lookupVariable_eq_none_iff.mpr unset,
      Assignment.lookupVariable_values_eq_some_iff.mpr ⟨_, named, given⟩]
    rfl
  | default unsaid unset ungiven =>
    have empty :
        (lookupVariable field (Assignment.values around.environment (around.assignments read))).join = none := by
      rw [Option.eq_none_iff_forall_ne_some]
      intro text found
      obtain ⟨name, named, given⟩ := Assignment.lookupVariable_values_eq_some_iff.mp (Option.join_eq_some_iff.mp found)
      exact ungiven name text named given
    rw [unsaid, lookupVariable_eq_none_iff.mpr unset, empty]
    rfl

theorem decides_value? (read : Reader) (around : Surroundings) (field : Field) :
    around.Decides read field ((around.sources read).value? field) := by
  cases said : around.overrides.get? field.key with
  | some value =>
    have decides : around.Decides read field (some value) := .override said
    rwa [decides.value?_eq]
  | none =>
    cases set : lookupVariable field around.environment with
    | some text =>
      have decides : around.Decides read field _ := .environment said (lookupVariable_eq_some_iff.mp set)
      rwa [decides.value?_eq]
    | none =>
      have unset := lookupVariable_eq_none_iff.mp set
      by_cases written : ∃ name text, Assignment.Names (around.assignments read) field name ∧
          Assignment.Gives around.environment (around.assignments read) name (some (some text))
      · obtain ⟨name, text, named, given⟩ := written
        have decides : around.Decides read field _ := .file said unset named given
        rwa [decides.value?_eq]
      · have decides : around.Decides read field none :=
          .default said unset fun name text named given => written ⟨name, text, named, given⟩
        rwa [decides.value?_eq]

theorem decides_iff {winner : Option Value} :
    around.Decides read field winner ↔ (around.sources read).value? field = winner :=
  ⟨Decides.value?_eq, fun same => same ▸ around.decides_value? read field⟩

/-! Two surroundings -/

/-- A field is decided alike: the first source that has a value for it is the same in both and says the same. What the
file says is the same if the line that counts is, with all that it refers to. -/
inductive SameWinner (read : Reader) (a b : Surroundings) (field : Field) : Prop
  | override {value : Value} (said : a.overrides.get? field.key = some value)
      (said' : b.overrides.get? field.key = some value)
  | environment {text : String} (unsaid : a.overrides.get? field.key = none)
      (unsaid' : b.overrides.get? field.key = none) (set : Defines a.environment field text)
      (set' : Defines b.environment field text)
  | file {name : String} (unsaid : a.overrides.get? field.key = none) (unsaid' : b.overrides.get? field.key = none)
      (unset : ∀ text, ¬Defines a.environment field text) (unset' : ∀ text, ¬Defines b.environment field text)
      (named : Assignment.Names (a.assignments read) field name)
      (named' : Assignment.Names (b.assignments read) field name)
      (alike : Assignment.SaidAlike a.environment b.environment (a.assignments read) (b.assignments read) name)
  | default (decides : a.Decides read field none) (decides' : b.Decides read field none)

theorem SameWinner.value?_eq {a b : Surroundings} (same : SameWinner read a b field) :
    (a.sources read).value? field = (b.sources read).value? field := by
  cases same with
  | override said said' =>
    rw [Decides.value?_eq (.override said), Decides.value?_eq (.override said')]
  | environment unsaid unsaid' set set' =>
    rw [Decides.value?_eq (.environment unsaid set), Decides.value?_eq (.environment unsaid' set')]
  | file unsaid unsaid' unset unset' named named' alike =>
    rw [value?_sources, value?_sources, unsaid, unsaid', lookupVariable_eq_none_iff.mpr unset,
      lookupVariable_eq_none_iff.mpr unset', named.lookupVariable_eq, named'.lookupVariable_eq, alike.get?_eq]
  | default decides decides' => rw [decides.value?_eq, decides'.value?_eq]

end Surroundings

end Calculi.Settings
