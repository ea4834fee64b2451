import Calculi.Entries

/-!
References to variables inside values: `${NAME}` stands for the value of a variable, and `${NAME:-text}` gives
a text for the case that there is none. Anything else stays as it is.
-/
namespace Calculi.Settings

structure Reference where
  name : String
  fallback : Option String
  deriving DecidableEq

def isNameEnd (c : Char) : Bool :=
  c = '\x7d' || c = ':'

def reference? : List Char → Option (Reference × Nat)
  | '$' :: '\x7b' :: cs =>
    let name := cs.takeWhile fun c => !isNameEnd c
    match cs.dropWhile fun c => !isNameEnd c with
    | '\x7d' :: _ => some (⟨String.ofList name, none⟩, name.length + 3)
    | ':' :: '-' :: rest =>
      let fallback := rest.takeWhile (· != '\x7d')
      if '\x7d' ∈ rest then
        some (⟨String.ofList name, some (String.ofList fallback)⟩, name.length + fallback.length + 5)
      else none
    | _ => none
  | _ => none

/-- A variable may be known without having a value; then it stands for nothing, whatever the fallback. -/
def Reference.resolve (lookup : String → Option (Option String)) (reference : Reference) : String :=
  match lookup reference.name with
  | some value => value.getD ""
  | none => reference.fallback.getD ""

inductive Piece where
  | plain (c : Char)
  | reference (reference : Reference)
  deriving DecidableEq

/-- The pieces of a text of which `skip` characters still belong to the reference before. -/
def piecesFrom : Nat → List Char → List Piece
  | _, [] => []
  | skip + 1, _ :: cs => piecesFrom skip cs
  | 0, c :: cs =>
    match reference? (c :: cs) with
    | some (reference, length) => .reference reference :: piecesFrom (length - 1) cs
    | none => .plain c :: piecesFrom 0 cs

def Piece.expand (lookup : String → Option (Option String)) : Piece → List Char
  | .plain c => [c]
  | .reference r => (r.resolve lookup).toList

def interpolate (lookup : String → Option (Option String)) (text : String) : String :=
  String.ofList ((piecesFrom 0 text.toList).flatMap (Piece.expand lookup))

/-- The names that some part of a text refers to, wherever it starts. -/
def referencedNames (text : String) : List String :=
  (List.range text.length).filterMap fun i =>
    (reference? (text.toList.drop i)).map fun (reference, _) => reference.name

end Calculi.Settings
