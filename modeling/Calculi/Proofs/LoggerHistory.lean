import Calculi.Log.Logger
import Calculi.Proofs.Outcome
import Mathlib.Data.List.Induction

/-!
What a program's logger is after any sequence of attempts to configure it and of records. It is as it was at the
start until an attempt succeeds. From then on it has one sink, the one that the last effective attempt asked for; an
attempt that fails and one for the profile in force leave no trace.
-/
namespace Calculi.Log

/-! When a filter gives a sink -/

def Request.levelName? : Request → Option String
  | .off => none
  | .level name => some name

def Filter.levelNames (filter : Filter) : List String :=
  String.ofList (Text.upper filter.level.toList) :: filter.modules.filterMap fun entry => entry.2.levelName?

theorem Registry.exists_level_iff (levels : Registry) (name : String) :
    (∃ level, levels.level name = .ok level) ↔ levels.get? name ≠ none := by
  cases found : levels.get? name <;> simp [Registry.level, found]

theorem Request.exists_resolve_iff (levels : Registry) (request : Request) :
    (∃ rule, request.resolve levels = .ok rule) ↔ ∀ name ∈ request.levelName?, levels.get? name ≠ none := by
  cases request with
  | off => simp [Request.resolve, Request.levelName?]
  | level name =>
    rw [Request.resolve, exists_bind_eq_ok_iff]
    simp [Registry.exists_level_iff, Request.levelName?, pure, Except.pure]

namespace Sink

theorem exists_resolveModules_iff (levels : Registry) (modules : Entries Request) :
    (∃ rules, resolveModules levels modules = .ok rules) ↔
      ∀ name ∈ modules.filterMap fun entry => entry.2.levelName?, levels.get? name ≠ none := by
  induction modules with
  | nil => simp [resolveModules]
  | cons entry rest ih =>
    obtain ⟨module, request⟩ := entry
    have both : (∃ rules, resolveModules levels ((module, request) :: rest) = .ok rules) ↔
        (∃ rule, request.resolve levels = .ok rule) ∧ ∃ rules, resolveModules levels rest = .ok rules := by
      simp [resolveModules, exists_bind_eq_ok_iff, pure, Except.pure]
    rw [both, request.exists_resolve_iff, ih]
    cases asked : request.levelName? <;> simp [asked]

theorem exists_ofFilter_iff (levels : Registry) (stream : Stream) (filter : Filter) :
    (∃ sink, ofFilter levels stream filter = .ok sink) ↔ ∀ name ∈ filter.levelNames, levels.get? name ≠ none := by
  have both : (∃ sink, ofFilter levels stream filter = .ok sink) ↔
      (∃ level, levels.level (String.ofList (Text.upper filter.level.toList)) = .ok level) ∧
        ∃ rules, resolveModules levels filter.modules = .ok rules := by
    simp [ofFilter, exists_bind_eq_ok_iff, pure, Except.pure]
  rw [both, Registry.exists_level_iff, exists_resolveModules_iff, Filter.levelNames, List.forall_mem_cons]

theorem stream_ofFilter {levels : Registry} {stream : Stream} {filter : Filter} {sink : Sink}
    (built : ofFilter levels stream filter = .ok sink) : sink.stream = stream := by
  obtain ⟨level, _, rest⟩ := bind_eq_ok_iff.mp built
  obtain ⟨rules, _, done⟩ := bind_eq_ok_iff.mp rest
  cases done
  rfl

end Sink

/-! One attempt -/

def Filter.inForce (text : Option String) : Filter :=
  Filter.parse (text.getD "info")

namespace Logger

variable (logger : Logger) (levels : Registry) (profile : String) (filter : Option String)

/-- All that an attempt can do: nothing, because its profile is configured; nothing, because a level is unknown; or
put a new sink in the place of all others. -/
theorem attempt_cases :
    (logger.profile = some profile ∧ logger.attempt levels profile filter = (.ok (), logger)) ∨
    (logger.profile ≠ some profile ∧ ∃ e, Sink.ofFilter levels (.ofProfile profile) (.inForce filter) = .error e ∧
      logger.attempt levels profile filter = (.error e, logger)) ∨
    (logger.profile ≠ some profile ∧ ∃ sink, Sink.ofFilter levels (.ofProfile profile) (.inForce filter) = .ok sink ∧
      logger.attempt levels profile filter = (.ok (), ⟨some profile, [sink], true⟩)) := by
  have unfolded : logger.attempt levels profile filter =
      (if logger.profile ≠ some profile then do
        let sink ← Sink.ofFilter levels (.ofProfile profile) (.inForce filter)
        install profile sink
      else pure () : ExceptT UnknownLevel (StateM Logger) Unit).run.run logger := rfl
  by_cases configured : logger.profile = some profile
  · rw [if_neg (not_not_intro configured)] at unfolded
    exact .inl ⟨configured, unfolded⟩
  · rw [if_pos configured] at unfolded
    cases built : Sink.ofFilter levels (.ofProfile profile) (.inForce filter) with
    | error e =>
      rw [built] at unfolded
      exact .inr (.inl ⟨configured, e, rfl, unfolded⟩)
    | ok sink =>
      rw [built] at unfolded
      exact .inr (.inr ⟨configured, sink, rfl, unfolded⟩)

theorem attempt_fails_iff :
    (∃ e, (logger.attempt levels profile filter).1 = .error e) ↔
      logger.profile ≠ some profile ∧ ∃ name ∈ (Filter.inForce filter).levelNames, levels.get? name = none := by
  have accepted := Sink.exists_ofFilter_iff levels (.ofProfile profile) (.inForce filter)
  rcases logger.attempt_cases levels profile filter with
    ⟨same, done⟩ | ⟨other, e, refused, done⟩ | ⟨other, sink, built, done⟩
  · simp [done, same]
  · have unknown : ¬∀ name ∈ (Filter.inForce filter).levelNames, levels.get? name ≠ none := by
      rw [← accepted, refused]
      simp
    simp only [done, Except.error.injEq, exists_eq', true_iff]
    exact ⟨other, by simpa using unknown⟩
  · have known := accepted.mp ⟨sink, built⟩
    simp only [done, reduceCtorEq, exists_false, false_iff, not_and, not_exists]
    exact fun _ name asked => known name asked

end Logger

/-! Histories -/

/-- What happens to logging while a program runs. An attempt finds the levels that are known at that time. -/
inductive Event where
  | configure (levels : Registry) (profile : String) (filter : Option String)
  | record (level module function message : String)

def Event.Succeeds (logger : Logger) : Event → Prop
  | .configure levels profile filter => (logger.attempt levels profile filter).1 = .ok ()
  | .record .. => False

def Event.TakesEffect (logger : Logger) : Event → Prop
  | .configure levels profile filter =>
    logger.profile ≠ some profile ∧ (logger.attempt levels profile filter).1 = .ok ()
  | .record .. => False

namespace Logger

def next (logger : Logger) : Event → Logger
  | .configure levels profile filter => (logger.attempt levels profile filter).2
  | .record .. => logger

def after (history : List Event) : Logger :=
  history.foldl next unconfigured

theorem after_append_singleton (history : List Event) (event : Event) :
    after (history ++ [event]) = (after history).next event := by
  simp [after]

end Logger

/-- The event at this place of a history is one of a kind, which may depend on the logger that it finds. -/
def HappensAt (kind : Logger → Event → Prop) (history : List Event) (i : Nat) : Prop :=
  ∃ event, history[i]? = some event ∧ kind (.after (history.take i)) event

theorem happensAt_append_singleton_iff {kind : Logger → Event → Prop} {history : List Event} {event : Event}
    {i : Nat} :
    HappensAt kind (history ++ [event]) i ↔
      HappensAt kind history i ∨ i = history.length ∧ kind (.after history) event := by
  rcases Nat.lt_trichotomy i history.length with earlier | rfl | beyond
  · simp [HappensAt, List.getElem?_append_left earlier, List.take_append_of_le_length (Nat.le_of_lt earlier),
      Nat.ne_of_lt earlier]
  · simp [HappensAt]
  · simp [HappensAt, List.getElem?_eq_none (show (history ++ [event]).length ≤ i by simp; omega),
      List.getElem?_eq_none (Nat.le_of_lt beyond), Nat.ne_of_gt beyond]

inductive Explains (history : List Event) : Logger → Prop where
  | unconfigured (failed : ∀ i, ¬HappensAt Event.Succeeds history i) : Explains history .unconfigured
  | configured {i : Nat} {levels : Registry} {profile : String} {filter : Option String} {sink : Sink}
      (asked : history[i]? = some (.configure levels profile filter))
      (effective : HappensAt Event.TakesEffect history i)
      (last : ∀ j, HappensAt Event.TakesEffect history j → j ≤ i)
      (built : Sink.ofFilter levels (.ofProfile profile) (.inForce filter) = .ok sink) :
      Explains history ⟨some profile, [sink], true⟩

namespace Explains

variable {history : List Event}

/-- An event without effect changes no explanation: where nothing is configured, an attempt that succeeds has one. -/
theorem keep {event : Event} (explained : Explains history (.after history))
    (idle : ¬event.TakesEffect (.after history)) : Explains (history ++ [event]) (.after history) := by
  have sameEffects : ∀ i, HappensAt Event.TakesEffect (history ++ [event]) i ↔
      HappensAt Event.TakesEffect history i := by
    intro i
    simp [happensAt_append_singleton_iff, idle]
  generalize found : Logger.after history = logger at explained idle
  cases explained with
  | unconfigured failed =>
    apply Explains.unconfigured
    intro i succeeds
    rcases happensAt_append_singleton_iff.mp succeeds with earlier | ⟨_, now⟩
    · exact failed i earlier
    · rw [found] at now
      cases event with
      | configure levels profile filter => exact idle ⟨Option.some_ne_none profile |>.symm, now⟩
      | record => exact now
  | @configured i levels profile filter sink asked effective last built =>
    have inside : i < history.length := (List.getElem?_eq_some_iff.mp asked).1
    have asked' : (history ++ [event])[i]? = some (.configure levels profile filter) := by
      rw [List.getElem?_append_left inside, asked]
    exact .configured asked' ((sameEffects i).mpr effective) (fun j later => last j ((sameEffects j).mp later)) built

theorem replace {levels : Registry} {profile : String} {filter : Option String} {sink : Sink}
    (effective : (Event.configure levels profile filter).TakesEffect (.after history))
    (built : Sink.ofFilter levels (.ofProfile profile) (.inForce filter) = .ok sink) :
    Explains (history ++ [.configure levels profile filter]) ⟨some profile, [sink], true⟩ := by
  have asked : (history ++ [.configure levels profile filter])[history.length]? =
      some (.configure levels profile filter) := by simp
  refine .configured asked (happensAt_append_singleton_iff.mpr (.inr ⟨rfl, effective⟩)) ?_ built
  rintro j ⟨event, present, _⟩
  have inside := (List.getElem?_eq_some_iff.mp present).1
  rw [List.length_append, List.length_singleton] at inside
  omega

theorem next (event : Event) (explained : Explains history (.after history)) :
    Explains (history ++ [event]) ((Logger.after history).next event) := by
  cases event with
  | record level module function message => exact explained.keep not_false
  | configure levels profile filter =>
    rcases (Logger.after history).attempt_cases levels profile filter with
      ⟨same, done⟩ | ⟨other, e, refused, done⟩ | ⟨other, sink, built, done⟩
    · rw [Logger.next, done]
      exact explained.keep fun effective => effective.1 same
    · rw [Logger.next, done]
      apply explained.keep
      rintro ⟨_, succeeded⟩
      rw [done] at succeeded
      cases succeeded
    · rw [Logger.next, done]
      exact replace ⟨other, by rw [done]⟩ built

end Explains

theorem explains_after (history : List Event) : Explains history (.after history) := by
  induction history using List.reverseRecOn with
  | nil =>
    apply Explains.unconfigured
    rintro i ⟨event, impossible, _⟩
    cases impossible
  | append_singleton history event ih =>
    rw [Logger.after_append_singleton]
    exact ih.next event

/-- After every history either no attempt has succeeded and nothing has changed since the start, or the logger has
exactly one sink, on the stream of the configured profile and with the level and rules of the filter that was in force
at the last effective attempt. An attempt for the configured profile changes nothing, whatever the filter says; any
other fails exactly if its filter names a level that is not known then, and it changes nothing either. -/
theorem logger_follows_last_effective_attempt :
    (∀ history : List Event,
      ((∀ i, ¬HappensAt Event.Succeeds history i) ∧ Logger.after history = ⟨none, [], false⟩) ∨
      ∃ i levels profile filter sink,
        history[i]? = some (.configure levels profile filter) ∧
        HappensAt Event.TakesEffect history i ∧ (∀ j, HappensAt Event.TakesEffect history j → j ≤ i) ∧
        Logger.after history = ⟨some profile, [sink], true⟩ ∧
        sink.stream = (if profile = "cli" then .stdout else .stderr) ∧
        Sink.ofFilter levels sink.stream (.inForce filter) = .ok sink) ∧
    ∀ (levels : Registry) (logger : Logger) (profile : String) (filter : Option String),
      (logger.profile = some profile → logger.attempt levels profile filter = (.ok (), logger)) ∧
      ((∃ e, (logger.attempt levels profile filter).1 = .error e) ↔
        logger.profile ≠ some profile ∧ ∃ name ∈ (Filter.inForce filter).levelNames, levels.get? name = none) ∧
      ∀ e, (logger.attempt levels profile filter).1 = .error e → (logger.attempt levels profile filter).2 = logger := by
  refine ⟨fun history => ?_, fun levels logger profile filter => ⟨fun configured => ?_, ?_, fun e failed => ?_⟩⟩
  · generalize found : Logger.after history = logger
    cases found ▸ explains_after history with
    | unconfigured failed => exact .inl ⟨failed, rfl⟩
    | @configured i levels profile filter sink asked effective last built =>
      have stream := Sink.stream_ofFilter built
      exact .inr ⟨i, levels, profile, filter, sink, asked, effective, last, rfl, stream, stream ▸ built⟩
  · rcases logger.attempt_cases levels profile filter with ⟨_, done⟩ | ⟨other, _⟩ | ⟨other, _⟩
    · exact done
    · exact absurd configured other
    · exact absurd configured other
  · exact logger.attempt_fails_iff levels profile filter
  · rcases logger.attempt_cases levels profile filter with ⟨_, done⟩ | ⟨_, _, _, done⟩ | ⟨_, _, _, done⟩
    · rw [done]
    · rw [done]
    · rw [done] at failed
      cases failed

def misspelt : List Event := [
  .configure .builtin "cli" (some "loud"),
  .configure .builtin "cli" (some "debug,tapl.eval=false"),
  .record "INFO" "tapl.chapters" "f" "ready",
  .configure .builtin "plain" (some "tapl=loud")]

/-- Only the second attempt shows, and later ones for its profile or with unknown levels change nothing. -/
theorem logger_follows_last_effective_attempt_misspelt :
    (∃ sink, Logger.after misspelt = ⟨some "cli", [sink], true⟩ ∧ sink.stream = .stdout) ∧
      (Logger.after misspelt).attempt .builtin "cli" (some "loud") = (.ok (), .after misspelt) ∧
      ((Logger.after misspelt).attempt .builtin "plain" (some "loud")).1 = .error ⟨"LOUD"⟩ ∧
      ((Logger.after misspelt).attempt .builtin "plain" (some "loud")).2 = .after misspelt := by
  obtain ⟨histories, attempts⟩ := logger_follows_last_effective_attempt
  have configured : (Logger.after misspelt).profile = some "cli" := by decide +kernel
  have failed : ((Logger.after misspelt).attempt .builtin "plain" (some "loud")).1 = .error ⟨"LOUD"⟩ := by
    decide +kernel
  refine ⟨?_, (attempts _ _ _ _).1 configured, failed, (attempts _ _ _ _).2.2 _ failed⟩
  rcases histories misspelt with ⟨_, nothing⟩ | ⟨i, levels, profile, filter, sink, _, _, _, found, stream, _⟩
  · rw [nothing] at configured
    cases configured
  · rw [found] at configured
    cases configured
    exact ⟨sink, found, stream⟩

end Calculi.Log
