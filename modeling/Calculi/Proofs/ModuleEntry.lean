import Calculi.Proofs.FilterText
import Calculi.Proofs.SinkRules

/-!
What an entry for a module does. Filter texts are read in lower case, so an entry governs the module whose name is the
lower case of the one written; records of a module whose name has a capital letter are treated as without the entry.
-/
namespace Calculi.Log

open Text

/-! Names -/

def isNameChar (c : Char) : Bool :=
  c.isAlphanum || c == '_' || c == '.'

theorem isAscii_of_le {c last : Char} (le : c.val ≤ last.val) (low : isAscii last = true) : isAscii c = true :=
  decide_eq_true (Nat.lt_of_le_of_lt (UInt32.le_iff_toNat_le.mp le) (of_decide_eq_true low))

theorem isAscii_of_isNameChar {c : Char} (nameChar : isNameChar c = true) : isAscii c = true := by
  have kinds : (c.isUpper || c.isLower || c.isDigit || c == '_' || c == '.') = true := nameChar
  simp only [Bool.or_eq_true, beq_iff_eq] at kinds
  rcases kinds with (((upper | lower) | digit) | rfl) | rfl
  · have bounds : 'A'.val ≤ c.val ∧ c.val ≤ 'Z'.val := of_decide_eq_true upper
    exact isAscii_of_le bounds.2 (by decide)
  · have bound : c.val ≤ 'z'.val := of_decide_eq_true (Bool.and_eq_true_iff.mp lower).2
    exact isAscii_of_le bound (by decide)
  · have bound : c.val ≤ '9'.val := of_decide_eq_true (Bool.and_eq_true_iff.mp digit).2
    exact isAscii_of_le bound (by decide)
  · decide
  · decide

theorem ascii_of_name {cs : List Char} (name : cs.all isNameChar = true) : cs.all isAscii = true := by
  rw [List.all_eq_true] at name ⊢
  exact fun c mem => isAscii_of_isNameChar (name c mem)

theorem toLower_of_isNameChar {c : Char} (nameChar : isNameChar c = true) :
    isBlank c.toLower = false ∧ c.toLower ≠ ',' ∧ c.toLower ≠ '=' := by
  have all := of_isAscii (p := fun c => !isNameChar c || !(isBlank c.toLower || c.toLower == ',' || c.toLower == '='))
    (by decide +kernel) (isAscii_of_isNameChar nameChar)
  simpa [nameChar, and_assoc] using all

theorem clean_lower_name {cs : List Char} (name : cs.all isNameChar = true) :
    Filter.Clean (lower cs) ∧ '=' ∉ lower cs := by
  have ascii := ascii_of_name name
  have plain : ∀ c ∈ lower cs, isBlank c = false ∧ c ≠ ',' ∧ c ≠ '=' := by
    intro c mem
    rw [lower_of_ascii ascii] at mem
    obtain ⟨d, inside, rfl⟩ := List.mem_map.mp mem
    exact toLower_of_isNameChar (List.all_eq_true.mp name d inside)
  refine ⟨⟨⟨fun c first => ?_, fun c last => ?_⟩, fun comma => (plain _ comma).2.1 rfl, lowered_lower ascii⟩,
    fun equals => (plain _ equals).2.2 rfl⟩
  · exact (plain c (List.mem_of_mem_head? first)).1
  · exact (plain c (List.mem_of_mem_getLast? last)).1

/-! Levels that a filter can ask for -/

/-- The name of the level is a word, and not the word that turns a module off. -/
structure Level.Legible (level : Level) : Prop where
  nonempty : level.name ≠ ""
  isName : level.name.toList.all isNameChar = true
  isOn : level.name ≠ "FALSE"

theorem Level.legible_of_mem_builtin {level : Level} (mem : level ∈ Level.builtin) : level.Legible := by
  have each : ∀ level ∈ Level.builtin,
      level.name ≠ "" ∧ level.name.toList.all isNameChar = true ∧ level.name ≠ "FALSE" := by decide +kernel
  obtain ⟨nonempty, isName, isOn⟩ := each level mem
  exact ⟨nonempty, isName, isOn⟩

theorem Level.Legible.exists_letter {level : Level} (legible : level.Legible) :
    ∃ c ∈ level.name.toList, isBlank c = false ∧ isLineEnd c = false := by
  obtain ⟨c, mem⟩ := List.exists_mem_of_ne_nil level.name.toList (by simpa using legible.nonempty)
  have nameChar := List.all_eq_true.mp legible.isName c mem
  have all := of_isAscii (p := fun c => !isNameChar c || !(isBlank c || isLineEnd c)) (by decide +kernel)
    (isAscii_of_isNameChar nameChar)
  exact ⟨c, mem, by simpa [nameChar] using all⟩

def Level.SpelledBy (level : Level) (word : String) : Prop :=
  word.toList.all isAscii = true ∧ upper word.toList = level.name.toList

theorem isNameChar_of_toUpper {c : Char} (ascii : isAscii c = true) (nameChar : isNameChar c.toUpper = true) :
    isNameChar c = true ∧ c.toLower.toUpper = c.toUpper := by
  have all := of_isAscii (p := fun c => !isNameChar c.toUpper || isNameChar c && c.toLower.toUpper == c.toUpper)
    (by decide +kernel) ascii
  rw [nameChar, Bool.not_true, Bool.false_or, Bool.and_eq_true, beq_iff_eq] at all
  exact all

theorem Level.SpelledBy.requestOf_eq {level : Level} {word : String} (spelled : level.SpelledBy word)
    (legible : level.Legible) :
    word.toList.all isNameChar = true ∧ Filter.requestOf (lower word.toList) = .level level.name := by
  obtain ⟨ascii, same⟩ := spelled
  have capitals := (upper_of_ascii ascii).symm.trans same
  have each : ∀ c ∈ word.toList, isNameChar c = true ∧ c.toLower.toUpper = c.toUpper := by
    intro c mem
    apply isNameChar_of_toUpper (List.all_eq_true.mp ascii c mem)
    exact List.all_eq_true.mp legible.isName _ (capitals ▸ List.mem_map_of_mem mem)
  have readBack : upper (lower word.toList) = level.name.toList := by
    rw [upper_of_ascii (isAscii_of_lowered (lowered_lower ascii)), lower_of_ascii ascii, List.map_map, ← capitals]
    exact List.map_congr_left fun c mem => (each c mem).2
  have notFalse : lower word.toList ≠ "false".toList := by
    intro isFalse
    rw [isFalse] at readBack
    have named : "FALSE".toList = level.name.toList := Eq.trans (by decide +kernel) readBack
    exact legible.isOn (String.toList_inj.mp named.symm)
  refine ⟨List.all_eq_true.mpr fun c mem => (each c mem).1, ?_⟩
  rw [Filter.requestOf, if_neg notFalse, readBack, String.ofList_toList]

/-! What gets written -/

def Logger.Admits (logger : Logger) (module : String) (severity : Nat) : Prop :=
  ∃ sink ∈ logger.sinksFor module, sink.accepts module severity = true

instance (logger : Logger) (module : String) (severity : Nat) : Decidable (logger.Admits module severity) :=
  inferInstanceAs (Decidable (∃ sink ∈ logger.sinksFor module, sink.accepts module severity = true))

theorem writtenLines_ne_nil {cs : List Char} {c : Char} (mem : c ∈ cs) (visible : isBlank c = false)
    (inLine : isLineEnd c = false) : writtenLines cs ≠ [] := by
  obtain ⟨line, isLine, inside⟩ := exists_mem_splitWhere mem inLine
  have kept : c ∈ trimRight line := mem_trimRight_of_visible inside visible
  have written : String.ofList (trimRight line) ∈ writtenLines cs := by
    refine List.mem_filterMap.mpr ⟨trimRight line, List.mem_map_of_mem isLine, if_neg ?_⟩
    simpa using List.ne_nil_of_mem kept
  exact List.ne_nil_of_mem written

namespace Sink

theorem lines_ne_nil_iff (sink : Sink) {r : Record} (legible : r.level.Legible) :
    sink.lines r ≠ [] ↔ sink.accepts r.module r.level.severity = true := by
  obtain ⟨c, letter, visible, inLine⟩ := legible.exists_letter
  have plain : plainLines r ≠ [] := by
    apply writtenLines_ne_nil (c := c) _ visible inLine
    simp [padRight, letter]
  have terminal : terminalLines r ≠ [] := by
    have labelled : c ∈ (padRight 8 r.level.name ++ " ").toList := by simp [padRight, letter]
    rw [terminalLines]
    split
    · exact writtenLines_ne_nil labelled visible inLine
    · rw [List.flatMap_cons]
      exact List.append_ne_nil_of_left_ne_nil
        (writtenLines_ne_nil (List.mem_append_left _ labelled) visible inLine) _
  rw [lines]
  by_cases accepted : sink.accepts r.module r.level.severity = true
  · rw [if_pos accepted]
    cases sink.stream with
    | stdout => simpa [accepted] using terminal
    | stderr => simpa [accepted] using plain
  · rw [if_neg accepted]
    simp [accepted]

end Sink

theorem Logger.write_ne_nil_iff (logger : Logger) {r : Record} (legible : r.level.Legible) :
    logger.write r ≠ [] ↔ logger.Admits r.module r.level.severity := by
  have silent : logger.write r = [] ↔ ∀ sink ∈ logger.sinksFor r.module, sink.lines r = [] := by
    simp [Logger.write]
  rw [ne_eq, silent, Logger.Admits]
  simp only [not_forall, exists_prop]
  exact exists_congr fun sink => and_congr_right fun _ => sink.lines_ne_nil_iff legible

theorem Logger.exists_attempt (levels : Registry) {logger : Logger} {profile : String}
    (fresh : logger.profile ≠ some profile) (text : String)
    (known : ∀ name ∈ (Filter.parse text).levelNames, levels.get? name ≠ none) :
    ∃ after, logger.attempt levels profile (some text) = (.ok (), after) ∧ ∀ module severity,
      (after.Admits module severity ↔ ∃ ancestor name least,
        (Filter.parse text).Governs module ancestor (.level name) ∧ levels.get? name = some least ∧
          least ≤ severity) := by
  obtain ⟨expected, built⟩ := (Sink.exists_ofFilter_iff levels (.ofProfile profile) (Filter.parse text)).mpr known
  rcases logger.attempt_cases levels profile (some text) with ⟨same, _⟩ | ⟨_, e, refused, _⟩ | ⟨_, sink, ready, done⟩
  · exact absurd same fresh
  · have impossible := built.symm.trans refused
    cases impossible
  · refine ⟨_, done, fun module severity => ?_⟩
    have only : Logger.Admits ⟨some profile, [sink], true⟩ module severity ↔
        sink.accepts module severity = true := by simp [Logger.Admits, Logger.sinksFor]
    rw [only]
    exact Sink.accepts_iff_governs ready module severity

/-! One more entry -/

theorem IsAncestor.refl (module : String) : IsAncestor module module :=
  .inl rfl

theorem IsAncestor.length_le {ancestor module : String} (isAncestor : IsAncestor ancestor module) :
    ancestor.length ≤ module.length := by
  rcases isAncestor with rfl | rfl | ⟨rest, rfl⟩
  · exact Nat.le_refl _
  · exact Nat.zero_le _
  · simp only [String.length_append]
    omega

namespace Filter

variable {filter : Filter} {key : String} {request : Request}

theorem requestAt?_put (name : String) :
    (filter.put key request).requestAt? name = if name = key then some request else filter.requestAt? name := by
  rw [requestAt?, modules_put, level_put, Entries.get?_put]
  by_cases same : name = key
  · rw [if_pos same, if_pos same]
    rfl
  · rw [if_neg same, if_neg same]
    rfl

/-- No ancestor is longer than the module itself, so an entry of its own governs it, whatever else there is. -/
theorem governs_put_self : (filter.put key request).Governs key key request := by
  refine ⟨.refl key, ?_, fun other isAncestor _ => isAncestor.length_le⟩
  rw [requestAt?_put, if_pos rfl]

theorem governs_put_iff {module ancestor : String} {other : Request} (apart : ¬IsAncestor key module) :
    (filter.put key request).Governs module ancestor other ↔ filter.Governs module ancestor other := by
  have unchanged : ∀ name, IsAncestor name module →
      (filter.put key request).requestAt? name = filter.requestAt? name := by
    intro name isAncestor
    rw [requestAt?_put, if_neg]
    rintro rfl
    exact apart isAncestor
  constructor
  · rintro ⟨isAncestor, entry, longest⟩
    refine ⟨isAncestor, (unchanged _ isAncestor).symm.trans entry, fun name isName present => ?_⟩
    exact longest name isName (by rw [unchanged name isName]; exact present)
  · rintro ⟨isAncestor, entry, longest⟩
    refine ⟨isAncestor, (unchanged _ isAncestor).trans entry, fun name isName present => ?_⟩
    exact longest name isName (by rw [← unchanged name isName]; exact present)

theorem known_put {levels : Registry} (known : ∀ name ∈ filter.levelNames, levels.get? name ≠ none)
    (asked : ∀ name ∈ request.levelName?, levels.get? name ≠ none) :
    ∀ name ∈ (filter.put key request).levelNames, levels.get? name ≠ none := by
  rw [levelNames, List.forall_mem_cons] at known ⊢
  refine ⟨known.1, fun name mem => ?_⟩
  obtain ⟨entry, present, named⟩ := List.mem_filterMap.mp mem
  rcases Entries.mem_put present with rfl | old
  · exact asked name named
  · exact known.2 name (List.mem_filterMap.mpr ⟨entry, old, named⟩)

end Filter

/-! Reading a text with one more entry -/

def governedName (module : String) : String :=
  String.ofList (lower module.toList)

theorem parse_entry (front : String) {module : String} (isName : module.toList.all isNameChar = true) (word : String)
    (isWord : word.toList.all isNameChar = true) :
    Filter.parse (front ++ "," ++ (module ++ "=" ++ word)) =
      (Filter.parse front).put (governedName module) (Filter.requestOf (lower word.toList)) := by
  have text : (module ++ "=" ++ word).toList = module.toList ++ '=' :: word.toList := by simp
  obtain ⟨clean, apart⟩ := clean_lower_name isName
  rw [Filter.parse_append_comma, text, Filter.foldl_add_entry _ (ascii_of_name isName) (ascii_of_name isWord) clean
    apart (clean_lower_name isWord).1]
  rfl

theorem not_isAncestor_governedName {module : String} (isName : module.toList.all isNameChar = true)
    (differs : governedName module ≠ module) : ¬IsAncestor (governedName module) module := by
  have length : (governedName module).length = module.length := by
    rw [← String.length_toList, ← String.length_toList, governedName, String.toList_ofList,
      lower_of_ascii (ascii_of_name isName), List.length_map]
  intro isAncestor
  exact differs (isAncestor.eq_of_length_eq (.refl module) length)

theorem governedName_eq_self_iff {module : String} (isName : module.toList.all isNameChar = true) :
    governedName module = module ↔ ∀ c ∈ module.toList, c.isUpper = false := by
  have small : ∀ c ∈ module.toList, c.toLower = c ↔ c.isUpper = false := by
    intro c mem
    have all := of_isAscii (p := fun c => (c.toLower == c) == !c.isUpper) (by decide +kernel)
      (isAscii_of_isNameChar (List.all_eq_true.mp isName c mem))
    rw [beq_iff_eq] at all
    rw [← beq_iff_eq, all, Bool.not_eq_true']
  have unchanged : lower module.toList = module.toList ↔ ∀ c ∈ module.toList, c.toLower = c := by
    nth_rewrite 2 [← List.map_id module.toList]
    rw [lower_of_ascii (ascii_of_name isName), List.map_inj_left]
    rfl
  rw [governedName, ← String.toList_inj, String.toList_ofList, unchanged]
  exact forall₂_congr small

/-- With one more entry at the end, its request decides about the module of the lower-case name, and the text before it
about the module that is written there, if that is another. -/
theorem Logger.exists_attempt_entry {levels : Registry} {logger : Logger} {profile : String}
    (fresh : logger.profile ≠ some profile) {front module : String}
    (known : ∀ name ∈ (Filter.parse front).levelNames, levels.get? name ≠ none)
    (isName : module.toList.all isNameChar = true) (word : String) (isWord : word.toList.all isNameChar = true)
    {request : Request} (asks : Filter.requestOf (lower word.toList) = request)
    (asked : ∀ name ∈ request.levelName?, levels.get? name ≠ none) :
    ∃ after, logger.attempt levels profile (some (front ++ "," ++ (module ++ "=" ++ word))) = (.ok (), after) ∧
      (∀ severity, after.Admits (governedName module) severity ↔
        ∃ name least, request = .level name ∧ levels.get? name = some least ∧ least ≤ severity) ∧
      (governedName module ≠ module → ∀ severity, after.Admits module severity ↔ ∃ ancestor name least,
        (Filter.parse front).Governs module ancestor (.level name) ∧ levels.get? name = some least ∧
          least ≤ severity) := by
  have parsed := parse_entry front isName word isWord
  rw [asks] at parsed
  obtain ⟨after, done, decides⟩ :=
    Logger.exists_attempt levels fresh (front ++ "," ++ (module ++ "=" ++ word)) (by
      rw [parsed]
      exact Filter.known_put known asked)
  rw [parsed] at decides
  refine ⟨after, done, fun severity => ?_, fun differs severity => ?_⟩
  · rw [decides]
    constructor
    · rintro ⟨ancestor, name, least, governs, enough⟩
      exact ⟨name, least, Filter.governs_put_self.unique governs, enough⟩
    · rintro ⟨name, least, rfl, enough⟩
      exact ⟨_, name, least, Filter.governs_put_self, enough⟩
  · have apart := not_isAncestor_governedName isName differs
    simp only [decides, Filter.governs_put_iff apart]

/-- An entry for a module, with a level or with the word `false`, decides about the records of the module whose name
is its lower case, whatever stands before it in the text. If the name has no capital letter that is the module itself.
If it has one, the entry changes nothing for the module that it names: its records are written exactly if they are
without the entry. -/
theorem entry_governs_lower_case_name (levels : Registry) (logger : Logger) (profile front module word : String)
    (level : Level) (fresh : logger.profile ≠ some profile)
    (known : ∀ name ∈ (Filter.parse front).levelNames, levels.get? name ≠ none)
    (isName : module.toList.all isNameChar = true) (registered : levels.get? level.name = some level.severity)
    (legible : level.Legible) (spelled : level.SpelledBy word) :
    ∃ before governed silenced,
      logger.attempt levels profile (some front) = (.ok (), before) ∧
      logger.attempt levels profile (some (front ++ "," ++ (module ++ "=" ++ word))) = (.ok (), governed) ∧
      logger.attempt levels profile (some (front ++ "," ++ (module ++ "=" ++ "false"))) = (.ok (), silenced) ∧
      (∀ severity, governed.Admits (governedName module) severity ↔ level.severity ≤ severity) ∧
      (∀ severity, ¬silenced.Admits (governedName module) severity) ∧
      (governedName module = module ↔ ∀ c ∈ module.toList, c.isUpper = false) ∧
      (governedName module ≠ module → ∀ severity,
        (governed.Admits module severity ↔ before.Admits module severity) ∧
        (silenced.Admits module severity ↔ before.Admits module severity)) ∧
      ∀ (any : Logger) (r : Record), r.level.Legible →
        (any.write r ≠ [] ↔ any.Admits r.module r.level.severity) := by
  obtain ⟨isWord, asks⟩ := spelled.requestOf_eq legible
  have off : Filter.requestOf (lower "false".toList) = .off := by decide +kernel
  obtain ⟨before, done, decides⟩ := Logger.exists_attempt levels fresh front known
  obtain ⟨governed, doneLevel, governs, ignoresLevel⟩ :=
    Logger.exists_attempt_entry fresh known isName word isWord asks (by simp [Request.levelName?, registered])
  obtain ⟨silenced, doneOff, silences, ignoresOff⟩ :=
    Logger.exists_attempt_entry fresh known isName "false" (by decide) off (by simp [Request.levelName?])
  refine ⟨before, governed, silenced, done, doneLevel, doneOff, fun severity => ?_, fun severity admitted => ?_,
    governedName_eq_self_iff isName, fun differs severity => ⟨?_, ?_⟩, fun any r => any.write_ne_nil_iff⟩
  · rw [governs]
    constructor
    · rintro ⟨_, least, same, found, enough⟩
      cases same
      cases registered.symm.trans found
      exact enough
    · exact fun enough => ⟨level.name, level.severity, rfl, registered, enough⟩
  · obtain ⟨_, _, impossible, _⟩ := (silences severity).mp admitted
    cases impossible
  · rw [ignoresLevel differs, decides]
  · rw [ignoresOff differs, decides]

theorem entry_governs_lower_case_name_plugin :
    ∃ governed silenced,
      Logger.unconfigured.attempt .builtin "default" (some ("error,plugin=false" ++ "," ++ ("Plugin" ++ "=" ++ "Debug"))) =
        (.ok (), governed) ∧
      Logger.unconfigured.attempt .builtin "default" (some ("error,plugin=false" ++ "," ++ ("Plugin" ++ "=" ++ "false"))) =
        (.ok (), silenced) ∧
      governed.Admits "plugin" 10 ∧ ¬governed.Admits "Plugin" 10 ∧ silenced.Admits "Plugin" 40 := by
  have fresh : Logger.unconfigured.profile ≠ some "default" := by decide
  have known : ∀ name ∈ (Filter.parse "error,plugin=false").levelNames, Registry.builtin.get? name ≠ none := by
    decide +kernel
  have spelled : Level.debug.SpelledBy "Debug" := ⟨by decide, by decide +kernel⟩
  have lowered : governedName "Plugin" = "plugin" := by decide +kernel
  obtain ⟨before, governed, silenced, done, doneLevel, doneOff, governs, _, _, ignored, _⟩ :=
    entry_governs_lower_case_name .builtin .unconfigured "default" "error,plugin=false" "Plugin" "Debug" .debug fresh
      known (by decide) (by decide +kernel) (Level.legible_of_mem_builtin (by decide)) spelled
  rw [lowered] at governs ignored
  have found : before = (Logger.unconfigured.attempt .builtin "default" (some "error,plugin=false")).2 := by rw [done]
  refine ⟨governed, silenced, doneLevel, doneOff, (governs 10).mpr (by decide), ?_, ?_⟩
  · rw [(ignored (by decide) 10).1, found]
    decide +kernel
  · rw [(ignored (by decide) 40).2, found]
    decide +kernel

/-- Neither a level nor `false` reaches a module with a capital in its name: a record at the level that its entry asks
for is not written, and one of a module whose entry turns it off is. -/
theorem entry_misses_module_with_capital :
    (Logger.unconfigured.attempt .builtin "default" (some "info,Plugin=debug")).1 = .ok () ∧
      (Logger.unconfigured.attempt .builtin "default" (some "info,Plugin=debug")).2.write ⟨.debug, "Plugin", "f", "ready"⟩ = [] ∧
      (Logger.unconfigured.attempt .builtin "default" (some "info,Plugin=false")).1 = .ok () ∧
      (Logger.unconfigured.attempt .builtin "default" (some "info,Plugin=false")).2.write ⟨.info, "Plugin", "f", "ready"⟩ =
        [(.stderr, "INFO   | Plugin:f | ready")] := by
  decide +kernel

end Calculi.Log
