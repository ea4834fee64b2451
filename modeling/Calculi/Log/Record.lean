import Calculi.Entries

/-!
Log levels and records. A level is a name with a severity; which names are levels is for a registry to say.
-/
namespace Calculi.Log

structure Level where
  name : String
  severity : Nat
  deriving DecidableEq

namespace Level

def trace : Level := ⟨"TRACE", 5⟩

def debug : Level := ⟨"DEBUG", 10⟩

def info : Level := ⟨"INFO", 20⟩

def success : Level := ⟨"SUCCESS", 25⟩

def warning : Level := ⟨"WARNING", 30⟩

def error : Level := ⟨"ERROR", 40⟩

def critical : Level := ⟨"CRITICAL", 50⟩

def builtin : List Level := [trace, debug, info, success, warning, error, critical]

end Level

/-- Names of levels with their severities. A name is known only as it is spelled here. -/
abbrev Registry := Entries Nat

def Registry.builtin : Registry :=
  Level.builtin.map fun level => (level.name, level.severity)

structure UnknownLevel where
  text : String
  deriving DecidableEq

def UnknownLevel.message (e : UnknownLevel) : String :=
  "Level '" ++ e.text ++ "' does not exist"

def Registry.level (levels : Registry) (name : String) : Except UnknownLevel Level :=
  match levels.get? name with
  | some severity => .ok ⟨name, severity⟩
  | none => .error ⟨name⟩

structure Record where
  level : Level
  module : String
  function : String
  message : String
  deriving DecidableEq

end Calculi.Log
