import Calculi.Log.Sink

/-!
The state of logging. It starts without a sink and with the package's own records held back. A program has one
logger, and configuring a profile changes it step by step: what was changed before a failure stays changed. So the
new sink has to be known to be good before the old one goes.
-/
namespace Calculi.Log

structure Logger where
  /-- The profile configured last; configuring it again does nothing. -/
  profile : Option String
  /-- A record goes to each of them, in the order in which they were added. -/
  sinks : List Sink
  /-- Whether the package's own records are let through. -/
  enabled : Bool
  deriving DecidableEq

/-- Library use stays quiet under this module and those below it. -/
def package : String := "tapl"

def inPackage (module : String) : Bool :=
  (ancestry module).contains package

/-- Only the command line's profile writes to the terminal; any other name stands for plain lines. -/
def Stream.ofProfile (profile : String) : Stream :=
  if profile = "cli" then .stdout else .stderr

namespace Logger

def unconfigured : Logger := ⟨none, [], false⟩

def removeSinks (logger : Logger) : Logger :=
  { logger with sinks := [] }

def enable (logger : Logger) : Logger :=
  { logger with enabled := true }

def addSink (sink : Sink) (logger : Logger) : Logger :=
  { logger with sinks := logger.sinks ++ [sink] }

def recordProfile (profile : String) (logger : Logger) : Logger :=
  { logger with profile := some profile }

/-- Put a sink in the place of those that there are. The profile counts as configured only when the rest is done. -/
def install (profile : String) (sink : Sink) : StateM Logger Unit := do
  modify removeSinks
  modify enable
  modify (addSink sink)
  modify (recordProfile profile)

/-- The filter text is read only if the profile is new, and all its levels are looked up before anything changes. -/
def configureM (levels : Registry) (profile : String) (filter : Option String) :
    ExceptT UnknownLevel (StateM Logger) Unit := do
  if (← get).profile ≠ some profile then
    let sink ← Sink.ofFilter levels (.ofProfile profile) (Filter.parse (filter.getD Filter.default.level))
    install profile sink

def attempt (logger : Logger) (levels : Registry) (profile : String) (filter : Option String) :
    Except UnknownLevel Unit × Logger :=
  (configureM levels profile filter).run.run logger

def configure (logger : Logger) (levels : Registry) (profile : String) (filter : Option String) :
    Except UnknownLevel Logger :=
  let (outcome, after) := logger.attempt levels profile filter
  outcome.map fun _ => after

def sinksFor (logger : Logger) (module : String) : List Sink :=
  if logger.enabled || !inPackage module then logger.sinks else []

def write (logger : Logger) (r : Record) : List (Stream × String) :=
  (logger.sinksFor r.module).flatMap fun sink => (sink.lines r).map fun line => (sink.stream, line)

/-- Log under a level given by name. The name is not looked up when the record has nowhere to go. -/
def log (logger : Logger) (levels : Registry) (level module function message : String) :
    Except UnknownLevel (List (Stream × String)) :=
  if (logger.sinksFor module).isEmpty then .ok []
  else return logger.write ⟨← levels.level level, module, function, message⟩

end Logger

end Calculi.Log
