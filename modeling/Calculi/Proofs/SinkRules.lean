import Calculi.Proofs.Entries
import Calculi.Proofs.LoggerHistory

/-!
Which records a sink lets through. Of the entries for a module and its ancestors the one with the longest name
decides, and the threshold in front of the rules never stops a record that its rule would accept.
-/
namespace Calculi.Log

/-! Ancestors -/

def IsAncestor (ancestor module : String) : Prop :=
  ancestor = module ∨ ancestor = "" ∨ ∃ rest, module = ancestor ++ "." ++ rest

theorem mem_dottedTails_iff {tail cs : List Char} :
    tail ∈ dottedTails cs ↔ tail = [] ∨ ∃ front, cs = front ++ '.' :: tail := by
  induction cs with
  | nil => simp [dottedTails]
  | cons c cs ih =>
    have split : (∃ front, c :: cs = front ++ '.' :: tail) ↔
        c = '.' ∧ tail = cs ∨ ∃ front, cs = front ++ '.' :: tail := by
      constructor
      · rintro ⟨front, same⟩
        cases front with
        | nil =>
          cases same
          exact .inl ⟨rfl, rfl⟩
        | cons d front =>
          cases same
          exact .inr ⟨front, rfl⟩
      · rintro (⟨rfl, rfl⟩ | ⟨front, rfl⟩)
        · exact ⟨[], rfl⟩
        · exact ⟨c :: front, rfl⟩
    rw [split]
    by_cases dot : c = '.'
    · rw [dottedTails, if_pos dot, List.mem_cons, ih]
      simp only [dot, true_and]
      exact or_left_comm
    · rw [dottedTails, if_neg dot, ih]
      simp only [dot, false_and, false_or]

theorem length_le_of_mem_dottedTails {tail cs : List Char} (mem : tail ∈ dottedTails cs) :
    tail.length ≤ cs.length := by
  rcases mem_dottedTails_iff.mp mem with rfl | ⟨front, rfl⟩
  · exact Nat.zero_le _
  · simp
    omega

theorem dottedTails_shrink (cs : List Char) :
    (dottedTails cs).Pairwise fun near far => far.length ≤ near.length := by
  induction cs with
  | nil => simp [dottedTails]
  | cons c cs ih =>
    by_cases dot : c = '.'
    · rw [dottedTails, if_pos dot, List.pairwise_cons]
      exact ⟨fun tail mem => length_le_of_mem_dottedTails mem, ih⟩
    · rw [dottedTails, if_neg dot]
      exact ih

theorem mem_ancestry_iff {name module : String} : name ∈ ancestry module ↔ IsAncestor name module := by
  have tails : (∃ tail ∈ dottedTails module.toList.reverse, String.ofList tail.reverse = name) ↔
      name = "" ∨ ∃ rest, module = name ++ "." ++ rest := by
    constructor
    · rintro ⟨tail, mem, rfl⟩
      rcases mem_dottedTails_iff.mp mem with rfl | ⟨front, same⟩
      · exact .inl rfl
      · refine .inr ⟨String.ofList front.reverse, String.toList_inj.mp ?_⟩
        have forwards := congrArg List.reverse same
        simpa using forwards
    · rintro (rfl | ⟨rest, rfl⟩)
      · exact ⟨[], mem_dottedTails_iff.mpr (.inl rfl), rfl⟩
      · refine ⟨name.toList.reverse, mem_dottedTails_iff.mpr (.inr ⟨rest.toList.reverse, ?_⟩), by simp⟩
        simp
  rw [ancestry, List.mem_cons, List.mem_map, tails, IsAncestor]

theorem ancestry_shrinks (module : String) :
    (ancestry module).Pairwise fun near far => far.length ≤ near.length := by
  have lengths : ∀ tail : List Char, (String.ofList tail.reverse).length = tail.length := by simp
  rw [ancestry, List.pairwise_cons]
  constructor
  · intro name mem
    obtain ⟨tail, inside, rfl⟩ := List.mem_map.mp mem
    have shorter := length_le_of_mem_dottedTails inside
    rw [List.length_reverse, String.length_toList] at shorter
    rw [lengths]
    exact shorter
  · rw [List.pairwise_map]
    simpa only [lengths] using dottedTails_shrink module.toList.reverse

/-- An ancestor is known by its length. -/
theorem IsAncestor.eq_of_length_eq {first second module : String} (isFirst : IsAncestor first module)
    (isSecond : IsAncestor second module) (same : first.length = second.length) : first = second := by
  have begins : ∀ {name}, IsAncestor name module → name.toList <+: module.toList := by
    rintro name (rfl | rfl | ⟨rest, rfl⟩)
    · exact List.prefix_refl _
    · exact List.nil_prefix
    · exact ⟨'.' :: rest.toList, by simp⟩
  have lengths : first.toList.length = second.toList.length := by
    rw [String.length_toList, String.length_toList, same]
  have inside := List.prefix_of_prefix_length_le (begins isFirst) (begins isSecond) (Nat.le_of_eq lengths)
  exact String.toList_inj.mp (inside.eq_of_length lengths)

/-! What a filter says about a module -/

namespace Filter

/-- The entry for a name. Without one for the empty name, the level of everything stands there. -/
def requestAt? (filter : Filter) (name : String) : Option Request :=
  (filter.modules.get? name).or
    (if name = "" then some (.level (String.ofList (Text.upper filter.level.toList))) else none)

structure Governs (filter : Filter) (module ancestor : String) (request : Request) : Prop where
  isAncestor : IsAncestor ancestor module
  entry : filter.requestAt? ancestor = some request
  longest : ∀ other, IsAncestor other module → filter.requestAt? other ≠ none → other.length ≤ ancestor.length

variable {filter : Filter}

theorem requestAt?_root (filter : Filter) : filter.requestAt? "" ≠ none := by
  simp [requestAt?]

theorem Governs.unique {module first second : String} {request request' : Request}
    (byFirst : filter.Governs module first request) (bySecond : filter.Governs module second request') :
    request = request' := by
  have le := byFirst.longest second bySecond.isAncestor (by rw [bySecond.entry]; exact Option.some_ne_none _)
  have ge := bySecond.longest first byFirst.isAncestor (by rw [byFirst.entry]; exact Option.some_ne_none _)
  have same : first = second := byFirst.isAncestor.eq_of_length_eq bySecond.isAncestor (by omega)
  have entries := byFirst.entry.symm.trans (same ▸ bySecond.entry)
  exact Option.some.inj entries

theorem exists_governs (filter : Filter) (module : String) :
    ∃ ancestor request, (ancestry module).findSome? filter.requestAt? = some request ∧
      filter.Governs module ancestor request := by
  cases found : (ancestry module).findSome? filter.requestAt? with
  | none =>
    have nothing := List.findSome?_eq_none_iff.mp found "" (mem_ancestry_iff.mpr (.inr (.inl rfl)))
    exact absurd nothing filter.requestAt?_root
  | some request =>
    obtain ⟨nearer, ancestor, farther, names, entry, without⟩ := List.findSome?_eq_some_iff.mp found
    have shrinks := ancestry_shrinks module
    rw [names, List.pairwise_append, List.pairwise_cons] at shrinks
    refine ⟨ancestor, request, rfl, mem_ancestry_iff.mp (by simp [names]), entry, ?_⟩
    intro other isAncestor present
    have mem := mem_ancestry_iff.mpr isAncestor
    rw [names, List.mem_append, List.mem_cons] at mem
    rcases mem with near | rfl | far
    · exact absurd (without other near) present
    · exact Nat.le_refl _
    · exact shrinks.2.1.1 other far

end Filter

/-! The rules of a sink -/

theorem Registry.level_eq_ok_iff {levels : Registry} {name : String} {level : Level} :
    levels.level name = .ok level ↔ level.name = name ∧ levels.get? name = some level.severity := by
  cases found : levels.get? name with
  | none => simp [Registry.level, found]
  | some severity =>
    rw [Registry.level, found, Except.ok.injEq, Option.some.injEq]
    constructor
    · rintro rfl
      exact ⟨rfl, rfl⟩
    · rintro ⟨rfl, rfl⟩
      rfl

theorem Request.accepts_resolve {levels : Registry} {request : Request} {rule : Rule}
    (resolved : request.resolve levels = .ok rule) (severity : Nat) :
    rule.accepts severity = true ↔
      ∃ name least, request = .level name ∧ levels.get? name = some least ∧ least ≤ severity := by
  cases request with
  | off =>
    cases resolved
    simp [Rule.accepts]
  | level name =>
    obtain ⟨level, found, done⟩ := bind_eq_ok_iff.mp resolved
    cases done
    obtain ⟨-, known⟩ := Registry.level_eq_ok_iff.mp found
    simp [Rule.accepts, known]

namespace Sink

section

variable {levels : Registry} {modules : Entries Request} {rules : Entries Rule}

theorem get?_resolveModules (resolved : resolveModules levels modules = .ok rules) (name : String) :
    (modules.get? name).map (Request.resolve levels) = (rules.get? name).map .ok := by
  induction modules generalizing rules with
  | nil =>
    cases resolved
    rfl
  | cons entry rest ih =>
    obtain ⟨key, request⟩ := entry
    obtain ⟨rule, first, others⟩ := bind_eq_ok_iff.mp resolved
    obtain ⟨tail, later, done⟩ := bind_eq_ok_iff.mp others
    cases done
    rw [Entries.get?_cons, Entries.get?_cons]
    by_cases same : name = key
    · rw [if_pos same, if_pos same, Option.map_some, Option.map_some, first]
    · rw [if_neg same, if_neg same, ih later]

theorem keys_resolveModules (resolved : resolveModules levels modules = .ok rules) : rules.keys = modules.keys := by
  induction modules generalizing rules with
  | nil =>
    cases resolved
    rfl
  | cons entry rest ih =>
    obtain ⟨rule, _, others⟩ := bind_eq_ok_iff.mp resolved
    obtain ⟨tail, later, done⟩ := bind_eq_ok_iff.mp others
    cases done
    rw [Entries.keys_cons, ih later]
    rfl

end

theorem lowest_le (asked : List Level) (start : Nat) :
    asked.foldl (fun lowest other => min lowest other.severity) start ≤ start ∧
      ∀ level ∈ asked, asked.foldl (fun lowest other => min lowest other.severity) start ≤ level.severity := by
  induction asked generalizing start with
  | nil => simp
  | cons first rest ih =>
    obtain ⟨belowStart, belowRest⟩ := ih (min start first.severity)
    simp only [List.foldl_cons, List.forall_mem_cons]
    exact ⟨by omega, by omega, belowRest⟩

variable {levels : Registry} {stream : Stream} {filter : Filter} {sink : Sink}

/-- What a sink is made of: the level of everything, and the modules' rules in front of it. -/
theorem exists_of_ofFilter (built : ofFilter levels stream filter = .ok sink) :
    ∃ level modules,
      Request.resolve levels (.level (String.ofList (Text.upper filter.level.toList))) = .ok (.least level) ∧
      resolveModules levels filter.modules = .ok modules ∧
      sink.threshold = (modules.filterMap fun entry => entry.2.level?).foldl
        (fun lowest other => min lowest other.severity) level.severity ∧
      ∀ name, sink.rules.get? name = (modules.get? name).or (if name = "" then some (.least level) else none) := by
  obtain ⟨level, known, rest⟩ := bind_eq_ok_iff.mp built
  obtain ⟨modules, resolved, done⟩ := bind_eq_ok_iff.mp rest
  cases done
  refine ⟨level, modules, bind_eq_ok_iff.mpr ⟨level, known, rfl⟩, resolved, rfl, fun name => ?_⟩
  have distinct : modules.keys.Nodup := by
    rw [keys_resolveModules resolved]
    exact filter.distinct
  rw [Entries.get?_putAll _ distinct, Entries.get?_cons, Entries.get?_nil]

theorem get?_rules (built : ofFilter levels stream filter = .ok sink) (name : String) :
    (filter.requestAt? name).map (Request.resolve levels) = (sink.rules.get? name).map .ok := by
  obtain ⟨level, modules, root, resolved, _, rules⟩ := exists_of_ofFilter built
  rw [Filter.requestAt?, rules, Option.map_or, Option.map_or, get?_resolveModules resolved]
  by_cases isRoot : name = ""
  · rw [if_pos isRoot, if_pos isRoot, Option.map_some, Option.map_some, root]
  · rw [if_neg isRoot, if_neg isRoot]
    rfl

theorem threshold_le (built : ofFilter levels stream filter = .ok sink) {name : String} {level : Level}
    (rule : sink.rules.get? name = some (.least level)) : sink.threshold ≤ level.severity := by
  obtain ⟨start, modules, _, _, threshold, rules⟩ := exists_of_ofFilter built
  obtain ⟨belowStart, belowLevels⟩ := lowest_le (modules.filterMap fun entry => entry.2.level?) start.severity
  rw [rules] at rule
  rw [threshold]
  rcases Option.or_eq_some_iff.mp rule with ofModule | ⟨_, ofRoot⟩
  · apply belowLevels
    exact List.mem_filterMap.mpr ⟨(name, .least level), Entries.mem_of_get? ofModule, rfl⟩
  · by_cases isRoot : name = ""
    · rw [if_pos isRoot] at ofRoot
      cases ofRoot
      exact belowStart
    · rw [if_neg isRoot] at ofRoot
      cases ofRoot

theorem exists_ruleFor? (built : ofFilter levels stream filter = .ok sink) (module : String) :
    ∃ ancestor request rule, filter.Governs module ancestor request ∧ request.resolve levels = .ok rule ∧
      sink.ruleFor? module = some rule ∧ sink.rules.get? ancestor = some rule := by
  obtain ⟨ancestor, request, found, governs⟩ := filter.exists_governs module
  have here := get?_rules built ancestor
  rw [governs.entry, Option.map_some] at here
  obtain ⟨rule, atAncestor, resolved⟩ := Option.map_eq_some_iff.mp here.symm
  refine ⟨ancestor, request, rule, governs, resolved.symm, ?_, atAncestor⟩
  have sameSearch : ((ancestry module).findSome? filter.requestAt?).map (Request.resolve levels) =
      (sink.ruleFor? module).map .ok := by
    rw [ruleFor?, List.map_findSome?, List.map_findSome?]
    congr 1
    funext name
    exact get?_rules built name
  rw [found, Option.map_some, ← resolved] at sameSearch
  obtain ⟨other, search, same⟩ := Option.map_eq_some_iff.mp sameSearch.symm
  cases same
  exact search

theorem threshold_le_of_accepts (built : ofFilter levels stream filter = .ok sink) {module : String} {rule : Rule}
    {severity : Nat} (found : sink.ruleFor? module = some rule) (accepted : rule.accepts severity = true) :
    sink.threshold ≤ severity := by
  obtain ⟨ancestor, _, other, _, _, search, stands⟩ := exists_ruleFor? built module
  rw [found] at search
  cases search
  cases rule with
  | off => cases accepted
  | least level =>
    have above : level.severity ≤ severity := by simpa [Rule.accepts] using accepted
    exact Nat.le_trans (threshold_le built stands) above

theorem accepts_iff_governs (built : ofFilter levels stream filter = .ok sink) (module : String) (severity : Nat) :
    sink.accepts module severity = true ↔ ∃ ancestor name least,
      filter.Governs module ancestor (.level name) ∧ levels.get? name = some least ∧ least ≤ severity := by
  obtain ⟨ancestor, request, rule, governs, resolved, search, _⟩ := exists_ruleFor? built module
  have decided : sink.accepts module severity = true ↔ rule.accepts severity = true := by
    rw [accepts, search, Bool.and_eq_true, decide_eq_true_eq]
    exact and_iff_right_of_imp (threshold_le_of_accepts built search)
  rw [decided, Request.accepts_resolve resolved]
  constructor
  · rintro ⟨name, least, rfl, known, enough⟩
    exact ⟨ancestor, name, least, governs, known, enough⟩
  · rintro ⟨other, name, least, governs', known, enough⟩
    exact ⟨name, least, governs.unique governs', known, enough⟩

end Sink

/-- A filter is refused exactly if it names a level that is not known. Otherwise each module has one entry that
governs it, the one at its longest ancestor, and a record passes the sink exactly if this entry is a level that the
record reaches. The threshold alone stops no record that the rules would let through. -/
theorem governing_entry_decides (levels : Registry) (stream : Stream) (filter : Filter) :
    ((∃ e, Sink.ofFilter levels stream filter = .error e) ↔ ∃ name ∈ filter.levelNames, levels.get? name = none) ∧
    ∀ sink, Sink.ofFilter levels stream filter = .ok sink → ∀ module,
      (∃ ancestor request, filter.Governs module ancestor request) ∧
      (∀ ancestor request, filter.Governs module ancestor request → ∀ severity,
        (sink.accepts module severity = true ↔
          ∃ name least, request = .level name ∧ levels.get? name = some least ∧ least ≤ severity)) ∧
      ∀ severity, (∀ rule, sink.ruleFor? module = some rule → rule.accepts severity = true) →
        sink.threshold ≤ severity := by
  refine ⟨?_, fun sink built module => ⟨?_, fun ancestor request governs severity => ?_, fun severity allowed => ?_⟩⟩
  · have accepted := Sink.exists_ofFilter_iff levels stream filter
    cases outcome : Sink.ofFilter levels stream filter with
    | ok sink =>
      have known := accepted.mp ⟨sink, outcome⟩
      simpa using known
    | error e =>
      rw [outcome] at accepted
      simpa using accepted
  · obtain ⟨ancestor, request, _, governs⟩ := filter.exists_governs module
    exact ⟨ancestor, request, governs⟩
  · rw [Sink.accepts_iff_governs built]
    constructor
    · rintro ⟨other, name, least, governs', known, enough⟩
      exact ⟨name, least, governs.unique governs', known, enough⟩
    · rintro ⟨name, least, rfl, known, enough⟩
      exact ⟨ancestor, name, least, governs, known, enough⟩
  · obtain ⟨_, _, rule, _, _, found, _⟩ := Sink.exists_ruleFor? built module
    exact Sink.threshold_le_of_accepts built found (allowed rule found)

def withNotice : Registry :=
  Entries.put "NOTICE" 28 Registry.builtin

def layered : Filter where
  level := "warning"
  modules := [("tapl", .off), ("tapl.eval", .level "NOTICE"), ("", .level "ERROR")]
  distinct := by decide

/-- What starts with a module's name without a dot behind it is not below that module. -/
theorem governing_entry_decides_layered :
    (∃ e, Sink.ofFilter .builtin .stderr layered = .error e) ∧ ∃ sink,
      Sink.ofFilter withNotice .stderr layered = .ok sink ∧
      sink.accepts "tapl.eval.strategy" 28 = true ∧ (∀ severity, sink.accepts "tapl.evaluation" severity = false) ∧
      sink.accepts "other" 30 = false := by
  have unknown := (governing_entry_decides .builtin .stderr layered).1.mpr ⟨"NOTICE", by decide +kernel⟩
  obtain ⟨sink, built⟩ := (Sink.exists_ofFilter_iff withNotice .stderr layered).mpr (by decide +kernel)
  have decides := (governing_entry_decides withNotice .stderr layered).2 sink built
  obtain ⟨near, _, foundNear, governsNear⟩ := layered.exists_governs "tapl.eval.strategy"
  obtain ⟨off, _, foundOff, governsOff⟩ := layered.exists_governs "tapl.evaluation"
  obtain ⟨root, _, foundRoot, governsRoot⟩ := layered.exists_governs "other"
  obtain rfl : _ = Request.level "NOTICE" := Option.some.inj (foundNear.symm.trans (by decide +kernel))
  obtain rfl : _ = Request.off := Option.some.inj (foundOff.symm.trans (by decide +kernel))
  obtain rfl : _ = Request.level "ERROR" := Option.some.inj (foundRoot.symm.trans (by decide +kernel))
  refine ⟨unknown, sink, built, ?_, fun severity => Bool.eq_false_iff.mpr fun accepted => ?_,
    Bool.eq_false_iff.mpr fun accepted => ?_⟩
  · exact ((decides _).2.1 near _ governsNear 28).mpr ⟨"NOTICE", 28, rfl, by decide +kernel, Nat.le_refl 28⟩
  · obtain ⟨_, _, impossible, _⟩ := ((decides _).2.1 off _ governsOff severity).mp accepted
    cases impossible
  · obtain ⟨_, least, same, known, reached⟩ := ((decides _).2.1 root _ governsRoot 30).mp accepted
    cases same
    obtain rfl : least = 40 := Option.some.inj (known.symm.trans (by decide +kernel))
    revert reached
    decide

end Calculi.Log
