import Calculi.Chapter.Library
import Calculi.CommandLine.Commands

/-!
The program itself: it reads the variables and the file of variables, runs the command, and prints.
-/
open Calculi

def commandFuel : Nat := Nat.pow 10 18

def variableNames : List String :=
  let lower := [Settings.Field.strategy, .stepLimit, .suffix].map Settings.Field.variableName
  CommandLine.filterVariable :: lower.map (fun name => String.ofList (Text.upper name.toList)) ++ lower

def readEnvFile : IO (Option String) := do
  try return some (← IO.FS.readFile ".env")
  catch _ => return none

def readEnvironment (names : List String) : IO (Entries String) :=
  names.eraseDups.filterMapM fun name => do return (← IO.getEnv name).map fun value => (name, value)

def failureText : CommandLine.Failure → String
  | .usage error => error.message
  | .settings errors =>
    "\n".intercalate (errors.map fun error => error.field.key ++ ": " ++ error.flaw.message)
  | .level error => error.message
  | .check error => error.message
  | .markup error => error.message

def main (words : List String) : IO UInt32 := do
  let envFile ← readEnvFile
  let referenced := (envFile.map Settings.referencedNames).getD []
  let setup : CommandLine.Setup := {
    environment := ← readEnvironment (variableNames ++ referenced)
    envFile
    chapters := Chapter.library
    fuel := commandFuel }
  let session := CommandLine.run setup words
  for line in session.entries do IO.println line
  match session.outcome with
  | .ok code => return code.toUInt32
  | .error failure =>
    IO.eprintln (failureText failure)
    return match failure with
      | .usage _ => 2
      | _ => 1
