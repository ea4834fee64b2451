import Calculi.Text.Blank
import Calculi.Text.Split

/-!
Written output as lines: a text is cut at its line ends, blanks at the end of a line are dropped, and so are
lines with nothing else on them.
-/
namespace Calculi.Text

/-- Line feed, vertical tab, form feed, carriage return, the separators of files, groups and records, next
line, and the separators of lines and paragraphs. -/
def isLineEnd (c : Char) : Bool :=
  [0x0a, 0x0b, 0x0c, 0x0d, 0x1c, 0x1d, 0x1e, 0x85, 0x2028, 0x2029].contains c.toNat

/-- What is left of a text. A carriage return before a line feed makes one more empty line, which is dropped
like every other. -/
def writtenLines (cs : List Char) : List String :=
  ((splitWhere isLineEnd cs).map trimRight).filterMap fun line =>
    if line.isEmpty then none else some (String.ofList line)

def padRight (width : Nat) (text : String) : String :=
  text ++ String.ofList (List.replicate (width - text.length) ' ')

def padLeft (width : Nat) (text : String) : String :=
  String.ofList (List.replicate (width - text.length) ' ') ++ text

end Calculi.Text
