import Calculi.Proofs.FreshNames
import Calculi.Proofs.SettingsSources
import Calculi.Proofs.SettingsValues
import Calculi.Settings.EnvFile
import Calculi.Settings.Evaluate

/-!
Settings from their sources. A field takes its value from the first source that has one, and the outcome is what these
values are: bad ones are reported, each for its own field, and whatever the sources further down say is never looked at.
Only a value of the file reaches out of its place, to the variables that it refers to.
-/
namespace Calculi.Settings

/-! Reading the fields -/

def Field.all : List Field :=
  [.strategy, .stepLimit, .suffix]

theorem Field.mem_all (field : Field) : field ∈ Field.all := by
  cases field <;> decide

namespace Sources

variable {sources : Sources} {field : Field}

def error? (sources : Sources) (field : Field) : Option FieldError :=
  (sources.value? field).bind fun value => (field.flaw? value).map (FieldError.mk field)

theorem errorOf?_field {α : Type} (sources : Sources) (field : Field) (read : Value → Except Flaw α) (unset : α) :
    errorOf? (sources.field field read unset) =
      (sources.value? field).bind fun value => (flawOf? (read value)).map (FieldError.mk field) := by
  rw [Sources.field]
  cases sources.value? field with
  | none => rfl
  | some value =>
    dsimp only [Option.bind_some]
    cases read value with
    | ok a => rfl
    | error flaw => rfl

theorem error?_eq_none_iff : sources.error? field = none ↔
    ∀ value, sources.value? field = some value → field.Accepts value := by
  simp only [error?, Option.bind_eq_none_iff, Option.map_eq_none_iff, Field.flaw?_eq_none_iff]

theorem field_of_error? {error : FieldError} (wrong : sources.error? field = some error) : error.field = field := by
  obtain ⟨value, _, flawed⟩ := Option.bind_eq_some_iff.mp wrong
  obtain ⟨flaw, _, rfl⟩ := Option.map_eq_some_iff.mp flawed
  rfl

theorem field_eq_ok_iff {α : Type} {settings : Settings} {read : Value → Except Flaw α} {unset a : α}
    (takes : ∀ value, read value = .ok a ↔ settings.Takes value field) (leaves : unset = a ↔ settings.Leaves field) :
    sources.field field read unset = .ok a ↔ settings.Follows field (sources.value? field) := by
  rw [Sources.field]
  cases sources.value? field with
  | none => rw [Except.ok.injEq, leaves, Follows]
  | some value =>
    rw [Follows, ← takes value]
    dsimp only
    cases read value with
    | ok b =>
      constructor
      · intro same
        cases same
        rfl
      · intro same
        cases same
        rfl
    | error flaw =>
      constructor
      · intro impossible
        cases impossible
      · intro impossible
        cases impossible

end Sources

section

variable {sources : Sources} {settings : Settings}

theorem load_eq_ok_iff_fields : load sources = .ok settings ↔
    sources.field .strategy readStrategy .fullReduction = .ok settings.strategy ∧
      sources.field .stepLimit readLimit none = .ok settings.stepLimit ∧
      sources.field .suffix readSuffix "'" = .ok settings.suffix := by
  unfold load
  constructor
  · intro loaded
    dsimp only at loaded
    split at loaded
    · rename_i strategy stepLimit suffix
      cases loaded
      exact ⟨strategy, stepLimit, suffix⟩
    · cases loaded
  · rintro ⟨strategy, stepLimit, suffix⟩
    simp only [strategy, stepLimit, suffix]

theorem load_eq_ok_iff : load sources = .ok settings ↔ ∀ field, settings.Follows field (sources.value? field) := by
  rw [load_eq_ok_iff_fields, Sources.field_eq_ok_iff (fun _ => readStrategy_eq_ok_iff) eq_comm,
    Sources.field_eq_ok_iff (fun _ => readLimit_eq_ok_iff) eq_comm,
    Sources.field_eq_ok_iff (fun _ => readSuffix_eq_ok_iff) eq_comm]
  constructor
  · rintro ⟨strategy, stepLimit, suffix⟩ field
    cases field with
    | strategy => exact strategy
    | stepLimit => exact stepLimit
    | suffix => exact suffix
  · exact fun each => ⟨each .strategy, each .stepLimit, each .suffix⟩

theorem errors_of_load {errors : List FieldError} (failed : load sources = .error errors) :
    errors = Field.all.filterMap sources.error? := by
  unfold load at failed
  dsimp only at failed
  split at failed
  · cases failed
  · cases failed
    simp only [Sources.errorOf?_field]
    rfl

theorem exists_follows {field : Field} {winner : Option Value} (accepts : ∀ value ∈ winner, field.Accepts value) :
    ∃ settings : Settings, settings.Follows field winner := by
  cases winner with
  | none => exact ⟨{}, by cases field <;> rfl⟩
  | some value => exact accepts value rfl

theorem exists_load_eq_ok_iff : (∃ settings, load sources = .ok settings) ↔
    ∀ field, ∀ value ∈ sources.value? field, field.Accepts value := by
  constructor
  · rintro ⟨settings, loaded⟩ field value won
    have follows := load_eq_ok_iff.mp loaded field
    rw [Option.mem_def.mp won] at follows
    exact ⟨settings, follows⟩
  · intro accepts
    -- each field may take its value from settings that suit it alone, since what they say of the others is not used
    obtain ⟨first, strategy⟩ := exists_follows (accepts .strategy)
    obtain ⟨second, stepLimit⟩ := exists_follows (accepts .stepLimit)
    obtain ⟨third, suffix⟩ := exists_follows (accepts .suffix)
    refine ⟨⟨first.strategy, second.stepLimit, third.suffix⟩, load_eq_ok_iff.mpr fun field => ?_⟩
    cases field with
    | strategy => cases won : sources.value? .strategy <;> rwa [won] at strategy
    | stepLimit => cases won : sources.value? .stepLimit <;> rwa [won] at stepLimit
    | suffix => cases won : sources.value? .suffix <;> rwa [won] at suffix

theorem fields_of_errors {errors : List FieldError} (failed : load sources = .error errors) :
    (errors.map FieldError.field).Sublist Field.all ∧
      ∀ field, field ∈ errors.map FieldError.field ↔ ∃ value ∈ sources.value? field, ¬field.Accepts value := by
  have named : errors.map FieldError.field = Field.all.filter fun field => (sources.error? field).isSome := by
    rw [errors_of_load failed, List.map_filterMap, ← List.filterMap_eq_filter]
    refine List.filterMap_congr fun field _ => ?_
    cases wrong : sources.error? field with
    | none => simp [Option.guard, wrong]
    | some error => simp [Option.guard, wrong, Sources.field_of_error? wrong]
  rw [named]
  refine ⟨List.filter_sublist, fun field => ?_⟩
  rw [List.mem_filter, and_iff_right field.mem_all, ← not_iff_not, Option.not_isSome_iff_eq_none,
    Sources.error?_eq_none_iff]
  simp

theorem load_congr {other : Sources} (same : ∀ field, sources.value? field = other.value? field) :
    load sources = load other := by
  simp only [load, Sources.field, same]

end

/-! Settings in use -/

structure Usable (settings : Settings) : Prop where
  strategy : settings.strategy = .singleStep ∨ settings.strategy = .fullReduction
  stepLimit : ∀ limit ∈ settings.stepLimit, 1 ≤ limit
  suffix : settings.suffix ≠ ""
  picks : ∀ (ctx : Context) (hint : String), ∃ picked, ctx.pickFresh hint settings.suffix = .ok picked

theorem usable_of_load {sources : Sources} {settings : Settings} (loaded : load sources = .ok settings) :
    settings.Usable := by
  have follows := load_eq_ok_iff.mp loaded
  have limit : ∀ limit ∈ settings.stepLimit, 1 ≤ limit := by
    have stepLimit := follows .stepLimit
    cases won : sources.value? .stepLimit with
    | none =>
      rw [won] at stepLimit
      simp [show settings.stepLimit = none from stepLimit]
    | some value =>
      rw [won] at stepLimit
      exact Value.Limits.one_le stepLimit
  have nonempty : settings.suffix ≠ "" := by
    have suffix := follows .suffix
    cases won : sources.value? .suffix with
    | none =>
      rw [won] at suffix
      rw [show settings.suffix = "'" from suffix]
      decide
    | some value =>
      rw [won] at suffix
      exact suffix.2
  refine ⟨?_, limit, nonempty, fun ctx hint => ⟨_, ctx.pickFresh_eq_ok hint nonempty⟩⟩
  cases settings.strategy with
  | singleStep => exact .inl rfl
  | fullReduction => exact .inr rfl

section

variable {read : Reader} {environment : Entries String} {envFile : Option String}

theorem evaluate_of_error {errors : List FieldError}
    (failed : load (({ environment, envFile } : Surroundings).sources read) = .error errors) (fuel : Nat)
    (strategy : Option Strategy) (t : Term) :
    evaluate read environment envFile fuel strategy t = .fail (.settings errors) := by
  rw [evaluate, failed]
  rfl

theorem evaluate_of_ok {settings : Settings}
    (loaded : load (({ environment, envFile } : Surroundings).sources read) = .ok settings) (fuel : Nat)
    (strategy : Option Strategy) (t : Term) :
    evaluate read environment envFile fuel strategy t =
      ((settings.machine fuel).evaluate (strategy.getD settings.strategy) t).relabel ([·]) .evaluation := by
  rw [evaluate, loaded]
  rfl

end

theorem evaluate_cases (read : Reader) (environment : Entries String) (envFile : Option String) (fuel : Nat)
    (strategy : Option Strategy) (t : Term) :
    (∃ errors, load (({ environment, envFile } : Surroundings).sources read) = .error errors ∧
      evaluate read environment envFile fuel strategy t = .fail (.settings errors)) ∨
    ∃ settings, load (({ environment, envFile } : Surroundings).sources read) = .ok settings ∧
      (∀ limit ∈ settings.stepLimit, 1 ≤ limit) ∧
      evaluate read environment envFile fuel strategy t =
        ((settings.machine fuel).evaluate (strategy.getD settings.strategy) t).relabel ([·]) .evaluation := by
  cases outcome : load (({ environment, envFile } : Surroundings).sources read) with
  | error errors => exact .inl ⟨errors, rfl, evaluate_of_error outcome fuel strategy t⟩
  | ok settings =>
    exact .inr ⟨settings, rfl, (usable_of_load outcome).stepLimit, evaluate_of_ok outcome fuel strategy t⟩

/-- The first source with a value decides a field, and the three fields are decided apart. Loading succeeds exactly if
each value that decides is good, with settings that can be used; else the bad ones are reported in order. Nothing else
matters but what the deciding values of the file refer to. This is so however the text of the file is read. -/
theorem load_takes_first_sources (read : Reader) (around : Surroundings) :
    (∀ field, ∃! winner, around.Decides read field winner) ∧
    (∀ settings, load (around.sources read) = .ok settings ↔
      ∀ field winner, around.Decides read field winner → settings.Follows field winner) ∧
    ((∃ settings, load (around.sources read) = .ok settings) ↔
      ∀ field value, around.Decides read field (some value) → field.Accepts value) ∧
    (∀ settings, load (around.sources read) = .ok settings → settings.Usable) ∧
    (∀ errors, load (around.sources read) = .error errors → (errors.map FieldError.field).Sublist Field.all ∧
      ∀ field, field ∈ errors.map FieldError.field ↔
        ∃ value, around.Decides read field (some value) ∧ ¬field.Accepts value) ∧
    (∀ fuel strategy t,
      (∃ errors, load ({ around with overrides := [] : Surroundings }.sources read) = .error errors ∧
        evaluate read around.environment around.envFile fuel strategy t = .fail (.settings errors)) ∨
      ∃ settings, load ({ around with overrides := [] : Surroundings }.sources read) = .ok settings ∧
        (∀ limit ∈ (settings.machine fuel).stepLimit, 1 ≤ limit) ∧
        evaluate read around.environment around.envFile fuel strategy t =
          ((settings.machine fuel).evaluate (strategy.getD settings.strategy) t).relabel ([·]) .evaluation) ∧
    ∀ other : Surroundings, (∀ field, around.SameWinner read other field) →
      load (around.sources read) = load (other.sources read) := by
  simp only [Surroundings.decides_iff, forall_eq']
  refine ⟨fun field => ⟨_, rfl, fun _ same => same.symm⟩, fun settings => load_eq_ok_iff, exists_load_eq_ok_iff,
    fun settings => usable_of_load, fun errors => fields_of_errors,
    fun fuel strategy t => evaluate_cases read around.environment around.envFile fuel strategy t,
    fun other same => load_congr fun field => (same field).value?_eq⟩

def limited (environment : Entries String) (text : String) : Surroundings where
  overrides := [("step_limit", .integer 3)]
  environment
  envFile := some text

theorem sources_limited (environment : Entries String) (text : String) :
    (limited environment text).sources EnvFile.read =
      ⟨[("step_limit", .integer 3)], environment, Assignment.values environment (EnvFile.read text)⟩ := rfl

def misset : Surroundings where
  environment := [("TAPL_STEP_LIMIT", "0"), ("tapl_fresh_name_suffix", "")]

def numbered (first : String) : String :=
  "N=" ++ first ++ "\nN=2\nTAPL_FRESH_NAME_SUFFIX=$\x7bN\x7d$\x7bM:-x\x7d\n"

theorem read_numbered {first : String} (digit : first ∈ ["1", "7"]) : EnvFile.read (numbered first) =
    [("N", some first), ("N", some "2"), ("TAPL_FRESH_NAME_SUFFIX", some "$\x7bN\x7d$\x7bM:-x\x7d")] := by
  have last : EnvFile.readAssignments "TAPL_FRESH_NAME_SUFFIX=$\x7bN\x7d$\x7bM:-x\x7d\n".toList =
      ("TAPL_FRESH_NAME_SUFFIX", some "$\x7bN\x7d$\x7bM:-x\x7d") :: EnvFile.readAssignments [] :=
    EnvFile.readAssignments_eq_cons (by decide +kernel)
  have second : EnvFile.readAssignments "N=2\nTAPL_FRESH_NAME_SUFFIX=$\x7bN\x7d$\x7bM:-x\x7d\n".toList =
      ("N", some "2") :: EnvFile.readAssignments "TAPL_FRESH_NAME_SUFFIX=$\x7bN\x7d$\x7bM:-x\x7d\n".toList :=
    EnvFile.readAssignments_eq_cons (by decide +kernel)
  have start : EnvFile.read (numbered first) = ("N", some first) ::
      EnvFile.readAssignments "N=2\nTAPL_FRESH_NAME_SUFFIX=$\x7bN\x7d$\x7bM:-x\x7d\n".toList :=
    EnvFile.readAssignments_eq_cons (by revert first; decide +kernel)
  rw [start, second, last, EnvFile.readAssignments_nil]

theorem saidAlike_numbered : Assignment.SaidAlike [("TAPL_STEP_LIMIT", "12")] [("TAPL_STEP_LIMIT", "0"), ("N", "9")]
    (EnvFile.read (numbered "1")) (EnvFile.read (numbered "7")) "TAPL_FRESH_NAME_SUFFIX" := by
  rw [read_numbered (by decide), read_numbered (by decide)]
  refine @Assignment.SaidAlike.assigned _ _ [("N", some "1"), ("N", some "2")] [] [("N", some "7"), ("N", some "2")] []
    "TAPL_FRESH_NAME_SUFFIX" _ List.not_mem_nil List.not_mem_nil ?_
  intro text same other refers
  cases same
  obtain ⟨reference, mem, rfl⟩ := refersTo_iff.mp refers
  have pieces : piecesFrom 0 "$\x7bN\x7d$\x7bM:-x\x7d".toList =
      [.reference ⟨"N", none⟩, .reference ⟨"M", some "x"⟩] := by decide +kernel
  rw [pieces, List.mem_pair] at mem
  rcases mem with isN | isM
  · cases isN
    refine @Assignment.SaidAlike.assigned _ _ [("N", some "1")] [] [("N", some "7")] [] "N" _ List.not_mem_nil
      List.not_mem_nil ?_
    intro text same other refers
    cases same
    obtain ⟨reference, mem, rfl⟩ := refersTo_iff.mp refers
    have plain : piecesFrom 0 "2".toList = [.plain '2'] := by decide +kernel
    rw [plain, List.mem_singleton] at mem
    cases mem
  · cases isM
    exact .unassigned (by decide +kernel) (by decide +kernel) (by decide +kernel)

/-- A bad limit in the environment is not looked at, nor is a line of the file that a later one replaces, nor a variable
of the environment that the file sets. Where nothing is said before the bad values, each is reported. -/
theorem load_takes_first_sources_numbered :
    load ((limited [("TAPL_STEP_LIMIT", "12")] (numbered "1")).sources EnvFile.read) =
      .ok { stepLimit := some 3, suffix := "2x" } ∧
    load ((limited [("TAPL_STEP_LIMIT", "0"), ("N", "9")] (numbered "7")).sources EnvFile.read) =
      .ok { stepLimit := some 3, suffix := "2x" } ∧
    ∃ errors, load (misset.sources EnvFile.read) = .error errors ∧
      (errors.map FieldError.field).Sublist Field.all := by
  obtain ⟨-, -, -, -, -, -, independent⟩ :=
    load_takes_first_sources EnvFile.read (limited [("TAPL_STEP_LIMIT", "12")] (numbered "1"))
  obtain ⟨-, -, -, -, errors, -⟩ := load_takes_first_sources EnvFile.read misset
  have loaded : load ((limited [("TAPL_STEP_LIMIT", "12")] (numbered "1")).sources EnvFile.read) =
      .ok { stepLimit := some 3, suffix := "2x" } := by
    rw [sources_limited, read_numbered (by decide)]
    decide +kernel
  have bad : load (misset.sources EnvFile.read) = .error [⟨.stepLimit, .belowOne⟩, ⟨.suffix, .emptyText⟩] := by
    decide +kernel
  refine ⟨loaded, ?_, _, bad, (errors _ bad).1⟩
  rw [← loaded, independent]
  intro field
  cases field with
  | strategy =>
    refine .default (Surroundings.decides_iff.mpr ?_) (Surroundings.decides_iff.mpr ?_)
    · rw [sources_limited, read_numbered (by decide)]
      decide +kernel
    · rw [sources_limited, read_numbered (by decide)]
      decide +kernel
  | stepLimit => exact .override rfl rfl
  | suffix =>
    have unset : lookupVariable .suffix [("TAPL_STEP_LIMIT", "12")] = none := by decide +kernel
    have unset' : lookupVariable .suffix [("TAPL_STEP_LIMIT", "0"), ("N", "9")] = none := by decide +kernel
    have named : ∀ first ∈ ["1", "7"],
        Assignment.Names (EnvFile.read (numbered first)) .suffix "TAPL_FRESH_NAME_SUFFIX" := by
      intro first digit
      rw [read_numbered digit]
      exact ⟨by simp, by decide +kernel, by revert first; decide +kernel⟩
    exact .file rfl rfl (lookupVariable_eq_none_iff.mp unset) (lookupVariable_eq_none_iff.mp unset')
      (named "1" (by decide)) (named "7" (by decide)) saidAlike_numbered

def referring : String :=
  "TAPL_FRESH_NAME_SUFFIX=$\x7bTAPL_STEP_LIMIT:-x\x7d\n"

theorem read_referring : EnvFile.read referring = [("TAPL_FRESH_NAME_SUFFIX", some "$\x7bTAPL_STEP_LIMIT:-x\x7d")] := by
  have line : EnvFile.read referring =
      ("TAPL_FRESH_NAME_SUFFIX", some "$\x7bTAPL_STEP_LIMIT:-x\x7d") :: EnvFile.readAssignments [] :=
    EnvFile.readAssignments_eq_cons (by decide +kernel)
  rw [line, EnvFile.readAssignments_nil]

/-- No field takes its value from the environment here, and yet the suffix changes with it. -/
theorem unused_variable_changes_suffix :
    (∀ environment ∈ [[("TAPL_STEP_LIMIT", "12")], []],
      (limited environment referring).Decides EnvFile.read .stepLimit (some (.integer 3)) ∧
      (∀ text, ¬Defines environment .strategy text) ∧ ∀ text, ¬Defines environment .suffix text) ∧
    load ((limited [("TAPL_STEP_LIMIT", "12")] referring).sources EnvFile.read) =
      .ok { stepLimit := some 3, suffix := "12" } ∧
    load ((limited [] referring).sources EnvFile.read) = .ok { stepLimit := some 3, suffix := "x" } := by
  refine ⟨fun environment member => ⟨.override rfl, ?_, ?_⟩, ?_, ?_⟩
  · rw [← lookupVariable_eq_none_iff]
    revert environment
    decide +kernel
  · rw [← lookupVariable_eq_none_iff]
    revert environment
    decide +kernel
  · rw [sources_limited, read_referring]
    decide +kernel
  · rw [sources_limited, read_referring]
    decide +kernel

end Calculi.Settings
