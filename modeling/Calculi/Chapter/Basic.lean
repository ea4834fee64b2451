import Calculi.Context
import Calculi.Typing

/-!
Chapters of example programs with what is expected of them.
-/
namespace Calculi

inductive ExpectedError where
  | any
  | only (kind : TypingError.Kind)
  deriving DecidableEq

namespace ExpectedError

def name : ExpectedError → String
  | .any => "TypeError"
  | .only kind => kind.name

def covers : ExpectedError → TypingError → Bool
  | .any, _ => true
  | .only kind, error => error.kind = kind

end ExpectedError

/-- A term with the final term, the type or the type error it should have. What is not set is not checked. -/
structure Example where
  name : String
  term : Term
  ctx : Context := []
  result : Option Term := none
  ty : Option Ty := none
  error : Option ExpectedError := none

structure Chapter where
  name : String
  title : String
  examples : List Example

inductive NameError where
  | unknownChapter (name : String) (known : List String)
  | unknownExample (name chapter : String)
  deriving DecidableEq

def NameError.message : NameError → String
  | .unknownChapter name known =>
    "Unknown chapter " ++ Text.quote name ++ "; expected one of " ++ ", ".intercalate known
  | .unknownExample name chapter =>
    "No example " ++ Text.quote name ++ " in chapter " ++ Text.quote chapter

namespace Chapter

def find (chapter : Chapter) (name : String) : Except NameError Example :=
  match chapter.examples.find? fun e => e.name == name with
  | some e => .ok e
  | none => .error (.unknownExample name chapter.name)

def get (chapters : List Chapter) (name : String) : Except NameError Chapter :=
  match chapters.find? fun chapter => chapter.name == name with
  | some chapter => .ok chapter
  | none => .error (.unknownChapter name (chapters.map Chapter.name))

def install (chapter : Chapter) : List Chapter → List Chapter
  | [] => [chapter]
  | other :: rest => if other.name = chapter.name then chapter :: rest else other :: install chapter rest

end Chapter

end Calculi
