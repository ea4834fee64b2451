import Calculi.Terminal.EmojiNames
import Calculi.Text.Blank
import Calculi.Text.Casing
import Calculi.Text.Replace

/-!
Emoji by name: `:name:` stands for a character, in any letter case, and `:name-text:` or `:name-emoji:` also
says which of its two shapes is meant. A name that is not known stays as it is, colons and all.
-/
namespace Calculi.Terminal

open Text

def beforeEnding? (ending : String) (cs : List Char) : Option (List Char) :=
  (ending.toList.reverse.isPrefixOf? cs.reverse).map List.reverse

def nameAndShape (cs : List Char) : List Char × List Char :=
  match beforeEnding? "-emoji" cs, beforeEnding? "-text" cs with
  | some name, _ => (name, ['\ufe0f'])
  | none, some name => (name, ['\ufe0e'])
  | none, none => (cs, [])

def emojiNamed? (cs : List Char) : Option (List Char) :=
  let (name, shape) := nameAndShape cs
  (emojiNames.lookup (String.ofList (lower name))).map fun emoji => emoji.toList ++ shape

/-- Two colons with no blank and no colon between them, at the head of a text. -/
def findEmoji? : List Char → Option Find
  | ':' :: cs =>
    let name := cs.takeWhile fun c => c ≠ ':' && !isBlank c
    match cs.drop name.length with
    | ':' :: _ => some ⟨name.length + 2, (emojiNamed? name).getD (':' :: name ++ [':'])⟩
    | _ => none
  | _ => none

def showEmoji (cs : List Char) : List Char :=
  replaceAll findEmoji? cs

end Calculi.Terminal
