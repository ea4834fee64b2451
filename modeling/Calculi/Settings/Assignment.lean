import Calculi.Settings.Interpolation

/-!
Assignments to variables, one after the other. The last one to a key holds. A value may refer to what is assigned
above it and, past that, to the environment.
-/
namespace Calculi.Settings

abbrev Assignment := String × Option String

abbrev Reader := String → List Assignment

namespace Assignment

def lookup (environment : Entries String) (table : Entries (Option String)) (name : String) : Option (Option String) :=
  (table.get? name).or ((environment.get? name).map some)

def assign (environment : Entries String) (table : Entries (Option String)) (assignment : Assignment) :
    Entries (Option String) :=
  table.put assignment.1 (assignment.2.map (interpolate (lookup environment table)))

def values (environment : Entries String) (assignments : List Assignment) : Entries (Option String) :=
  assignments.foldl (assign environment) []

end Assignment

end Calculi.Settings
