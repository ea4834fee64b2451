import Calculi.Log.Filter
import Calculi.Proofs.Entries
import Calculi.Proofs.TextLaws
import Mathlib.Data.List.Induction

/-!
Reading filter texts. A text behind a comma is read as an update of what stands before it, and a filter that was read
can be written down again so that reading gives it back.
-/
namespace Calculi.Log

open Text

namespace Filter

/-! One part -/

variable (filter : Filter)

theorem add_of_cut {part module level : List Char} (cut : cutAt '=' part = some (module, level)) :
    filter.add part = filter.put (String.ofList (trim module)) (requestOf (trim level)) := by
  rw [add, cut]

theorem add_of_uncut {part : List Char} (uncut : '=' ∉ part) :
    filter.add part = { filter with level := String.ofList part } := by
  rw [add, cutAt_eq_none_iff.mpr uncut]

theorem add_cases (part : List Char) :
    ('=' ∉ part ∧ filter.add part = { filter with level := String.ofList part }) ∨
    ∃ module level, part = module ++ '=' :: level ∧ '=' ∉ module ∧
      filter.add part = filter.put (String.ofList (trim module)) (requestOf (trim level)) := by
  cases cut : cutAt '=' part with
  | none =>
    have uncut := cutAt_eq_none_iff.mp cut
    exact .inl ⟨uncut, filter.add_of_uncut uncut⟩
  | some halves =>
    obtain ⟨whole, apart⟩ := eq_of_cutAt cut
    exact .inr ⟨halves.1, halves.2, whole, apart, filter.add_of_cut cut⟩

/-! Texts one behind the other -/

theorem parts_append_comma (front back : List Char) : parts (front ++ ',' :: back) = parts front ++ parts back := by
  rw [parts, lower_append_comma, splitAt, splitWhere_append_sep (by simp), List.map_append, List.filter_append]
  rfl

theorem parse_append_comma (front back : String) :
    parse (front ++ "," ++ back) = (parts back.toList).foldl add (parse front) := by
  have text : (front ++ "," ++ back).toList = front.toList ++ ',' :: back.toList := by simp
  rw [parse, text, parts_append_comma, List.foldl_append]
  rfl

/-- Parts do to any filter what they do to the default one: they update its modules, and they set its level if one
of them does so at all. -/
theorem foldl_add (parts : List (List Char)) :
    (parts.foldl add filter).modules = filter.modules.putAll (parts.foldl add default).modules ∧
      ((∃ part ∈ parts, '=' ∉ part) → (parts.foldl add filter).level = (parts.foldl add default).level) ∧
      ((∀ part ∈ parts, '=' ∈ part) → (parts.foldl add filter).level = filter.level) := by
  induction parts using List.reverseRecOn with
  | nil => exact ⟨rfl, fun some => absurd some (by simp), fun _ => rfl⟩
  | append_singleton parts part ih =>
    obtain ⟨modules, set, unset⟩ := ih
    simp only [List.foldl_append, List.foldl_cons, List.foldl_nil, List.forall_mem_append, List.forall_mem_singleton]
    rcases add_cases (parts.foldl add filter) part with ⟨uncut, added⟩ | ⟨module, level, whole, apart, added⟩
    · rw [added, add_of_uncut _ uncut]
      exact ⟨modules, fun _ => rfl, fun all => absurd all.2 uncut⟩
    · have cut : cutAt '=' part = some (module, level) := by rw [whole, cutAt_append apart]
      have inside : '=' ∈ part := by simp [whole]
      rw [added, add_of_cut _ cut, modules_put, modules_put, level_put, level_put, modules,
        Entries.putAll_put _ (parts.foldl add default).distinct]
      refine ⟨rfl, fun some => set ?_, fun all => unset all.1⟩
      obtain ⟨other, mem, uncut⟩ := some
      rcases List.mem_append.mp mem with earlier | here
      · exact ⟨other, earlier, uncut⟩
      · rw [List.mem_singleton.mp here] at uncut
        exact absurd inside uncut

def SetsLevel (text : String) : Prop :=
  ∃ piece ∈ splitAt ',' text.toList, (∃ c ∈ piece, isBlank c = false) ∧ '=' ∉ piece

theorem exists_part_iff_setsLevel {text : String} (ascii : text.toList.all isAscii = true) :
    (∃ part ∈ parts text.toList, '=' ∉ part) ↔ SetsLevel text := by
  rw [List.all_eq_true] at ascii
  have pieces : splitAt ',' (lower text.toList) = (splitAt ',' text.toList).map (List.map Char.toLower) := by
    rw [lower_of_ascii (List.all_eq_true.mpr ascii), splitAt, splitWhere_map]
    · rfl
    · intro c mem
      simp [toLower_eq_separator_iff (ascii c mem) (.inl rfl)]
  have lowered : ∀ piece ∈ splitAt ',' text.toList,
      (trim (piece.map Char.toLower) ≠ [] ∧ '=' ∉ trim (piece.map Char.toLower) ↔
        (∃ c ∈ piece, isBlank c = false) ∧ '=' ∉ piece) := by
    intro piece isPiece
    have inside : ∀ c ∈ piece, isAscii c = true := fun c mem => ascii c (mem_of_mem_splitWhere isPiece mem).1
    have sameBlanks : (piece.map Char.toLower).all isBlank = piece.all isBlank := by
      rw [Bool.eq_iff_iff, List.all_map, List.all_eq_true, List.all_eq_true]
      exact forall₂_congr fun c mem => by rw [Function.comp_apply, isBlank_toLower (inside c mem)]
    have sameEquals : '=' ∈ piece.map Char.toLower ↔ '=' ∈ piece := by
      rw [List.mem_map]
      constructor
      · rintro ⟨c, mem, same⟩
        rwa [(toLower_eq_separator_iff (inside c mem) (.inr rfl)).mp same] at mem
      · exact fun mem => ⟨'=', mem, rfl⟩
    rw [ne_eq, trim_eq_nil_iff, mem_trim_iff (by decide +kernel), sameBlanks, sameEquals]
    simp
  have asPieces : (∃ part ∈ parts text.toList, '=' ∉ part) ↔ ∃ piece ∈ splitAt ',' text.toList,
      trim (piece.map Char.toLower) ≠ [] ∧ '=' ∉ trim (piece.map Char.toLower) := by
    simp only [parts, pieces, List.map_map, List.mem_filter, List.mem_map]
    constructor
    · rintro ⟨_, ⟨⟨piece, mem, rfl⟩, nonempty⟩, uncut⟩
      exact ⟨piece, mem, by simpa using nonempty, uncut⟩
    · rintro ⟨piece, mem, nonempty, uncut⟩
      exact ⟨_, ⟨⟨piece, mem, rfl⟩, by simpa using nonempty⟩, uncut⟩
  rw [asPieces]
  exact exists_congr fun piece => and_congr_right (lowered piece)

/-! Filters that can be written down -/

/-- What may stand between two separators: no comma, no blank at its ends, nothing that lower case would change. -/
structure Clean (cs : List Char) : Prop where
  neat : Neat cs
  uncut : ',' ∉ cs
  lowered : cs.all isLowered = true

theorem Clean.trim_of_subset {whole cs : List Char} (clean : Clean whole) (inside : ∀ c ∈ cs, c ∈ whole) :
    Clean (trim cs) := by
  refine ⟨neat_trim cs, fun comma => clean.uncut (inside _ (mem_of_mem_trim comma)), ?_⟩
  rw [List.all_eq_true]
  exact fun c mem => List.all_eq_true.mp clean.lowered c (inside c (mem_of_mem_trim mem))

theorem clean_of_mem_parts {text part : List Char} (ascii : text.all isAscii = true) (isPart : part ∈ parts text) :
    Clean part ∧ part ≠ [] := by
  obtain ⟨mem, nonempty⟩ := List.mem_filter.mp isPart
  obtain ⟨piece, isPiece, rfl⟩ := List.mem_map.mp mem
  refine ⟨⟨neat_trim piece, fun comma => ?_, ?_⟩, by simpa using nonempty⟩
  · have apart := (mem_of_mem_splitWhere isPiece (mem_of_mem_trim comma)).2
    simp at apart
  · rw [List.all_eq_true]
    intro c inside
    have mem := (mem_of_mem_splitWhere isPiece (mem_of_mem_trim inside)).1
    exact List.all_eq_true.mp (lowered_lower ascii) c mem

end Filter

def Request.text : Request → String
  | .off => "false"
  | .level name => name

namespace Filter

def write (filter : Filter) : String :=
  filter.level ++ String.join (filter.modules.map fun (module, request) => "," ++ (module ++ "=" ++ request.text))

structure Writable (filter : Filter) : Prop where
  level : Clean filter.level.toList ∧ filter.level.toList ≠ [] ∧ '=' ∉ filter.level.toList
  entries : ∀ module request, (module, request) ∈ filter.modules →
    (Clean module.toList ∧ '=' ∉ module.toList) ∧ ∃ text, Clean text ∧ requestOf text = request

theorem clean_info : Clean "info".toList := by
  refine ⟨⟨?_, ?_⟩, by decide, by decide⟩
  · intro c first
    cases first
    decide
  · intro c last
    cases last
    decide

theorem writable_default : Writable default :=
  ⟨⟨clean_info, by decide, by decide⟩, fun _ _ mem => absurd mem List.not_mem_nil⟩

theorem Writable.add {filter : Filter} (writable : filter.Writable) {part : List Char} (clean : Clean part)
    (nonempty : part ≠ []) : (filter.add part).Writable := by
  rcases filter.add_cases part with ⟨uncut, added⟩ | ⟨module, level, rfl, apart, added⟩
  · rw [added]
    exact ⟨by simpa using ⟨clean, nonempty, uncut⟩, writable.entries⟩
  · rw [added]
    refine ⟨writable.level, fun name request mem => ?_⟩
    rcases Entries.mem_put mem with new | old
    · cases new
      refine ⟨⟨?_, ?_⟩, trim level, clean.trim_of_subset (by simp; tauto), rfl⟩
      · simpa using clean.trim_of_subset (by simp; tauto)
      · simpa using fun inside => apart (mem_of_mem_trim inside)
    · exact writable.entries name request old

theorem writable_parse {text : String} (ascii : text.toList.all isAscii = true) : (parse text).Writable := by
  have folds : ∀ (parts : List (List Char)) (filter : Filter), filter.Writable →
      (∀ part ∈ parts, Clean part ∧ part ≠ []) → (parts.foldl Filter.add filter).Writable := by
    intro parts
    induction parts with
    | nil => exact fun _ writable _ => writable
    | cons part rest ih =>
      intro filter writable clean
      rw [List.forall_mem_cons] at clean
      exact ih _ (writable.add clean.1.1 clean.1.2) clean.2
  exact folds _ _ writable_default fun part => clean_of_mem_parts ascii

theorem parts_of_clean {text : List Char} (clean : Clean (lower text)) (nonempty : lower text ≠ []) :
    parts text = [lower text] := by
  have single : splitAt ',' (lower text) = [lower text] := by
    apply splitWhere_of_none
    intro c mem
    exact decide_eq_false fun comma => clean.uncut (comma ▸ mem)
  simp [parts, single, clean.neat.trim_eq, nonempty]

theorem lower_text_requestOf {text : List Char} (clean : Clean text) :
    (requestOf text).text.toList.all isAscii = true ∧ lower (requestOf text).text.toList = text := by
  by_cases isOff : text = "false".toList
  · rw [requestOf, if_pos isOff, isOff]
    decide +kernel
  · rw [requestOf, if_neg isOff, Request.text, String.toList_ofList]
    exact lower_upper clean.lowered

theorem foldl_add_entry (filter : Filter) {module word : List Char} (asciiModule : module.all isAscii = true)
    (asciiWord : word.all isAscii = true) (cleanModule : Clean (lower module)) (apart : '=' ∉ lower module)
    (cleanWord : Clean (lower word)) :
    (parts (module ++ '=' :: word)).foldl add filter =
      filter.put (String.ofList (lower module)) (requestOf (lower word)) := by
  have lowered : lower (module ++ '=' :: word) = lower module ++ '=' :: lower word := by
    have equals : lower ('=' :: word) = '=' :: lower word := @lower_append_of_ascii ['='] _ (by decide) asciiWord
    have asciiRest : ('=' :: word).all isAscii = true := by
      rw [List.all_cons, asciiWord]
      rfl
    rw [lower_append_of_ascii asciiModule asciiRest, equals]
  have whole : Clean (lower module ++ '=' :: lower word) := by
    refine ⟨cleanModule.neat.append_cons cleanWord.neat (by decide +kernel), ?_, ?_⟩
    · simp [cleanModule.uncut, cleanWord.uncut]
    · rw [List.all_append, List.all_cons, cleanModule.lowered, cleanWord.lowered]
      decide +kernel
  rw [parts_of_clean (by rw [lowered]; exact whole) (by rw [lowered]; simp), lowered, List.foldl_cons,
    List.foldl_nil, add_of_cut _ (cutAt_append apart _), cleanModule.neat.trim_eq, cleanWord.neat.trim_eq]

theorem foldl_add_written (filter : Filter) {module : String} {text : List Char} (clean : Clean module.toList)
    (apart : '=' ∉ module.toList) (cleanText : Clean text) :
    (parts (module ++ "=" ++ (requestOf text).text).toList).foldl add filter = filter.put module (requestOf text) := by
  obtain ⟨ascii, readBack⟩ := lower_text_requestOf cleanText
  have unchanged := lower_eq_self clean.lowered
  have written : (module ++ "=" ++ (requestOf text).text).toList =
      module.toList ++ '=' :: (requestOf text).text.toList := by simp
  rw [written, foldl_add_entry filter (isAscii_of_lowered clean.lowered) ascii (by rw [unchanged]; exact clean)
    (by rw [unchanged]; exact apart) (by rw [readBack]; exact cleanText), unchanged, readBack, String.ofList_toList]

theorem write_put (filter : Filter) {module : String} (new : module ∉ filter.modules.keys) (request : Request) :
    (filter.put module request).write = filter.write ++ "," ++ (module ++ "=" ++ request.text) := by
  simp [write, put, Entries.put_of_not_mem new, String.append_assoc]

/-- Reading gives back every filter that can be written down. The induction is on the entries from the last one, which
is behind a comma and so read into the filter of the others. -/
theorem Writable.parse_write {filter : Filter} (writable : filter.Writable) : parse filter.write = filter := by
  obtain ⟨level, modules, distinct⟩ := filter
  induction modules using List.reverseRecOn with
  | nil =>
    obtain ⟨clean, nonempty, uncut⟩ := writable.level
    have text : write ⟨level, [], distinct⟩ = level := by simp [write]
    have lowered := lower_eq_self clean.lowered
    rw [text, parse, parts_of_clean (by rw [lowered]; exact clean) (by rw [lowered]; exact nonempty), lowered,
      List.foldl_cons, List.foldl_nil, add_of_uncut _ uncut, String.ofList_toList]
    rfl
  | append_singleton modules entry ih =>
    obtain ⟨module, request⟩ := entry
    have separate := distinct
    simp only [Entries.keys, List.map_append, List.map_cons, List.map_nil] at separate
    obtain ⟨first, _, apart⟩ := List.nodup_append.mp separate
    have new : module ∉ Entries.keys modules := fun old => apart module old module List.mem_cons_self rfl
    have others : Writable ⟨level, modules, first⟩ :=
      ⟨writable.level, fun name other mem => writable.entries name other (List.mem_append_left _ mem)⟩
    have added : (⟨level, modules ++ [(module, request)], distinct⟩ : Filter) =
        put ⟨level, modules, first⟩ module request := by
      simp only [put, Entries.put_of_not_mem new]
    obtain ⟨⟨clean, uncut⟩, text, cleanText, rfl⟩ := writable.entries module request (by simp)
    rw [added, write_put _ new, parse_append_comma, ih first others, foldl_add_written _ clean uncut cleanText]

/-- A text behind a comma updates what stands before it: new modules come last, a module named again keeps its place
and gets the later request, and the level changes if the second text has a part that sets it. What was read from a
text and written down again is read as the same filter. -/
theorem reading_composes_and_inverts_writing :
    (∀ front back : String, front.toList.all isAscii = true → back.toList.all isAscii = true →
      (parse (front ++ "," ++ back)).modules = (parse front).modules.putAll (parse back).modules ∧
      (parse (front ++ "," ++ back)).modules.keys = (parse front).modules.keys ++
        (parse back).modules.keys.filter (fun module => module ∉ (parse front).modules.keys) ∧
      (∀ module, (parse (front ++ "," ++ back)).modules.get? module =
        ((parse back).modules.get? module).or ((parse front).modules.get? module)) ∧
      (SetsLevel back → (parse (front ++ "," ++ back)).level = (parse back).level) ∧
      (¬SetsLevel back → (parse (front ++ "," ++ back)).level = (parse front).level)) ∧
    ∀ text : String, text.toList.all isAscii = true → parse (parse text).write = parse text := by
  refine ⟨fun front back _ ascii => ?_, fun text ascii => (writable_parse ascii).parse_write⟩
  obtain ⟨modules, set, unset⟩ := foldl_add (parse front) (parts back.toList)
  rw [← exists_part_iff_setsLevel ascii, parse_append_comma, modules]
  have distinct := (parse back).distinct
  refine ⟨rfl, Entries.keys_putAll _ distinct, Entries.get?_putAll _ distinct, set, fun none => unset ?_⟩
  intro part mem
  by_contra uncut
  exact none ⟨part, mem, uncut⟩

/-- Blanks, capitals, empty parts and further equals signs make no difference. -/
theorem reading_composes_and_inverts_writing_untidy :
    SetsLevel " tapl.eval = FALSE ,, Debug ,=x=y" ∧
      (parse ("info,tapl.eval=trace" ++ "," ++ " tapl.eval = FALSE ,, Debug ,=x=y")).level = "debug" ∧
      (parse ("info,tapl.eval=trace" ++ "," ++ " tapl.eval = FALSE ,, Debug ,=x=y")).modules.get? "tapl.eval" =
        some .off ∧
      parse (parse " tapl.eval = FALSE ,, Debug ,=x=y").write = parse " tapl.eval = FALSE ,, Debug ,=x=y" := by
  obtain ⟨composes, inverts⟩ := reading_composes_and_inverts_writing
  obtain ⟨_, _, later, set, _⟩ := composes "info,tapl.eval=trace" " tapl.eval = FALSE ,, Debug ,=x=y" (by decide)
    (by decide)
  have sets : SetsLevel " tapl.eval = FALSE ,, Debug ,=x=y" :=
    ⟨" Debug ".toList, by decide, ⟨'D', by decide, by decide⟩, by decide⟩
  refine ⟨sets, (set sets).trans (by decide +kernel), (later "tapl.eval").trans (by decide +kernel), ?_⟩
  exact inverts _ (by decide)

end Filter

end Calculi.Log
