import Calculi.Log.Filter
import Calculi.Log.Record
import Calculi.Terminal.Layout
import Calculi.Text.Lines

/-!
Where log lines go and which records get there. A record first has to reach the sink's threshold, which is the
lowest level that any rule asks for; then the rule of its module, or of the nearest parent that has one, decides.
-/
namespace Calculi.Log

inductive Stream where
  | stdout
  | stderr
  deriving DecidableEq

inductive Rule where
  | off
  | least (level : Level)
  deriving DecidableEq

def Rule.level? : Rule → Option Level
  | .off => none
  | .least level => some level

def Rule.accepts : Rule → Nat → Bool
  | .off, _ => false
  | .least level, severity => level.severity ≤ severity

structure Sink where
  stream : Stream
  threshold : Nat
  rules : Entries Rule
  deriving DecidableEq

/-- On a name read backwards: what is left after each dot, and the empty name last. -/
def dottedTails : List Char → List (List Char)
  | [] => [[]]
  | c :: cs => if c = '.' then cs :: dottedTails cs else dottedTails cs

/-- A module's name and those of its parents, nearest first; the empty name is the parent of all. -/
def ancestry (module : String) : List String :=
  module :: (dottedTails module.toList.reverse).map fun tail => String.ofList tail.reverse

def Request.resolve (levels : Registry) : Request → Except UnknownLevel Rule
  | .off => .ok .off
  | .level name => return .least (← levels.level name)

namespace Sink

def resolveModules (levels : Registry) : Entries Request → Except UnknownLevel (Entries Rule)
  | [] => .ok []
  | (module, request) :: rest => do
    let rule ← request.resolve levels
    return (module, rule) :: (← resolveModules levels rest)

/-- The level of everything becomes the rule of the empty name, unless the filter has one for it. -/
def ofFilter (levels : Registry) (stream : Stream) (filter : Filter) : Except UnknownLevel Sink := do
  let level ← levels.level (String.ofList (Text.upper filter.level.toList))
  let modules ← resolveModules levels filter.modules
  let asked := modules.filterMap fun entry => entry.2.level?
  return {
    stream
    threshold := asked.foldl (fun lowest other => min lowest other.severity) level.severity
    rules := Entries.putAll [("", .least level)] modules }

def ruleFor? (sink : Sink) (module : String) : Option Rule :=
  (ancestry module).findSome? sink.rules.get?

def accepts (sink : Sink) (module : String) (severity : Nat) : Bool :=
  sink.threshold ≤ severity &&
    match sink.ruleFor? module with
    | some rule => rule.accepts severity
    | none => true

def terminalLines (r : Record) : List String :=
  let margin := List.replicate 9 ' '
  let label := (Text.padRight 8 r.level.name ++ " ").toList
  match Terminal.layout r.message.toList with
  | [] => Text.writtenLines label
  | first :: rest => ((label ++ first) :: rest.map (margin ++ ·)).flatMap Text.writtenLines

def plainLines (r : Record) : List String :=
  let line := Text.padRight 6 r.level.name ++ " | " ++ r.module ++ ":" ++ r.function ++ " | " ++ r.message
  Text.writtenLines line.toList

def lines (sink : Sink) (r : Record) : List String :=
  if sink.accepts r.module r.level.severity then
    match sink.stream with
    | .stdout => terminalLines r
    | .stderr => plainLines r
  else []

end Sink

end Calculi.Log
