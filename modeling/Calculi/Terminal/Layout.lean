import Calculi.Terminal.CharWidth
import Calculi.Text.Split

/-!
Text as it comes to stand on the lines of a terminal: codes that would ring or move the cursor are dropped,
and a tab goes on to the next tab stop.
-/
namespace Calculi.Terminal

open Text

def isCursorCode (c : Char) : Bool :=
  [0x07, 0x08, 0x0b, 0x0c, 0x0d].contains c.toNat

def tabStop : Nat := 8

def expandTabs : Nat → List Char → List Char
  | _, [] => []
  | column, '\t' :: cs =>
    let width := tabStop - column % tabStop
    List.replicate width ' ' ++ expandTabs (column + width) cs
  | column, c :: cs => c :: expandTabs (column + charWidth c) cs

def layout (cs : List Char) : List (List Char) :=
  (splitAt '\n' (cs.filter fun c => !isCursorCode c)).map fun line =>
    if line.contains '\t' then expandTabs 0 line else line

end Calculi.Terminal
