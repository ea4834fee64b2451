import Calculi.Entries
import Calculi.Text.Blank
import Calculi.Text.Casing
import Calculi.Text.Split

/-!
Filter texts such as `info,tapl.eval=debug,tapl.chapters=false`: comma-separated parts, of which one without
an equals sign sets the level of everything and one with it sets the level of a module.
-/
namespace Calculi.Log

/-- What a filter asks of a module. Levels are not checked here, so any text may stand for one. -/
inductive Request where
  | off
  | level (name : String)
  deriving DecidableEq

structure Filter where
  level : String
  modules : Entries Request
  distinct : modules.keys.Nodup
  deriving DecidableEq

namespace Filter

def default : Filter := ⟨"info", [], List.nodup_nil⟩

def put (filter : Filter) (module : String) (request : Request) : Filter where
  level := filter.level
  modules := filter.modules.put module request
  distinct := Entries.nodup_keys_put filter.distinct module request

@[simp] theorem level_put (filter : Filter) (module : String) (request : Request) :
    (filter.put module request).level = filter.level := rfl

@[simp] theorem modules_put (filter : Filter) (module : String) (request : Request) :
    (filter.put module request).modules = filter.modules.put module request := rfl

/-- The parts of a text in lower case, without surrounding blanks; parts that are all blank do not count. -/
def parts (text : List Char) : List (List Char) :=
  ((Text.splitAt ',' (Text.lower text)).map Text.trim).filter fun part => !part.isEmpty

/-- The word `false` turns a module off; any other text names a level. -/
def requestOf (text : List Char) : Request :=
  if text = "false".toList then .off else .level (String.ofList (Text.upper text))

/-- A part is cut at its first equals sign, so a module's name holds none. -/
def add (filter : Filter) (part : List Char) : Filter :=
  match Text.cutAt '=' part with
  | some (module, level) => filter.put (String.ofList (Text.trim module)) (requestOf (Text.trim level))
  | none => { filter with level := String.ofList part }

def parse (text : String) : Filter :=
  (parts text.toList).foldl add default

end Filter

end Calculi.Log
