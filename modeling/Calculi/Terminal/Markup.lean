import Calculi.Terminal.Emoji
import Calculi.Terminal.Style

/-!
Text with markup. A tag between brackets opens a style and `[/name]` or `[/]` closes one; a backslash before a
tag makes it plain text. On the page styles leave no trace, so only the text between the tags remains.
-/
namespace Calculi.Terminal

open Text

structure Tag where
  name : List Char
  parameters : Option (List Char)

def Tag.text (tag : Tag) : String :=
  match tag.parameters with
  | none => String.ofList ('[' :: tag.name ++ [']'])
  | some parameters => String.ofList ('[' :: tag.name ++ '=' :: parameters ++ [']'])

inductive MarkupError where
  /-- No tag of that name is open. -/
  | unmatched (tag : String) (position : Nat)
  /-- No tag at all is open. -/
  | nothingOpen (position : Nat)
  deriving DecidableEq

def MarkupError.message : MarkupError → String
  | .unmatched tag position => s!"closing tag '{tag}' at position {position} doesn't match any open tag"
  | .nothingOpen position => s!"closing tag '[/]' at position {position} has nothing to close"

structure TagFind where
  backslashes : Nat
  body : List Char

def TagFind.length (found : TagFind) : Nat :=
  found.backslashes + found.body.length + 2

def startsTag (c : Char) : Bool :=
  ('a' ≤ c && c ≤ 'z') || c = '#' || c = '/' || c = '@'

/-- A tag at the head of a text; it holds no opening bracket and ends at the first closing one. -/
def findTag? (cs : List Char) : Option TagFind :=
  let backslashes := (cs.takeWhile (· = '\\')).length
  match cs.drop backslashes with
  | '[' :: c :: rest =>
    let body := rest.takeWhile fun c => c ≠ '[' && c ≠ ']'
    if startsTag c && (rest.drop body.length).head? = some ']' then some ⟨backslashes, c :: body⟩ else none
  | _ => none

/-- Protect a text from being read as markup: backslashes before a tag are doubled and one more is put. A
backslash at the end is doubled too if it is the only one. -/
def escapeMarkup (cs : List Char) : List Char :=
  let escaped := replaceAll
    (fun cs => (findTag? cs).map fun found =>
      ⟨found.length, List.replicate (2 * found.backslashes + 1) '\\' ++ '[' :: found.body ++ [']']⟩) cs
  match escaped.reverse with
  | '\\' :: rest => if rest.head? = some '\\' then escaped else escaped ++ ['\\']
  | _ => escaped

inductive Piece where
  | text (cs : List Char)
  | tag (position : Nat) (tag : Tag)

def Tag.ofBody (body : List Char) : Tag :=
  match cutAt '=' body with
  | some (name, parameters) => ⟨name, some parameters⟩
  | none => ⟨body, none⟩

/-- Two backslashes stand for one, and a backslash left over makes the tag plain text. -/
def TagFind.pieces (position : Nat) (found : TagFind) : List Piece :=
  let slashes := List.replicate (found.backslashes / 2) '\\'
  (if slashes.isEmpty then [] else [.text slashes]) ++
    (if found.backslashes % 2 = 1 then [.text ('[' :: found.body ++ [']'])]
    else [.tag (position + found.backslashes) (Tag.ofBody found.body)])

def gathered (passed : List Char) : List Piece :=
  if passed.isEmpty then [] else [.text passed.reverse]

def piecesFrom : Nat → Nat → List Char → List Char → List Piece
  | _, _, passed, [] => gathered passed
  | position, skip + 1, passed, _ :: cs => piecesFrom (position + 1) skip passed cs
  | position, 0, passed, c :: cs =>
    match findTag? (c :: cs) with
    | some found =>
      gathered passed ++ found.pieces position ++ piecesFrom (position + 1) (found.length - 1) [] cs
    | none => piecesFrom (position + 1) 0 (c :: passed) cs

def pieces (cs : List Char) : List Piece :=
  piecesFrom 0 0 [] cs

/-- An opening bracket that starts no tag may have a backslash before it, which is not shown. -/
def unescapeBrackets : List Char → List Char
  | '\\' :: '[' :: cs => '[' :: unescapeBrackets cs
  | c :: cs => c :: unescapeBrackets cs
  | [] => []

def Tag.apply (position : Nat) (tag : Tag) (openStyles : List String) : Except MarkupError (List String) :=
  match tag.name with
  | '/' :: name =>
    if (trim name).isEmpty then
      match openStyles with
      | [] => .error (.nothingOpen position)
      | _ :: outer => .ok outer
    else
      let style := styleName (trim name)
      if openStyles.contains style then .ok (openStyles.erase style)
      else .error (.unmatched tag.text position)
  | name => .ok (styleName name :: openStyles)

def showPieces : List String → List Piece → Except MarkupError (List Char)
  | _, [] => .ok []
  | openStyles, .text cs :: rest => do
    return showEmoji (unescapeBrackets cs) ++ (← showPieces openStyles rest)
  | openStyles, .tag position tag :: rest => do
    showPieces (← tag.apply position openStyles) rest

def showMarkup (cs : List Char) : Except MarkupError (List Char) :=
  showPieces [] (pieces cs)

end Calculi.Terminal
