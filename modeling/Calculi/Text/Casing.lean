import Calculi.Text.CasingTables
import Calculi.Text.Ranges

/-!
Lower and upper case of whole texts. ASCII letters follow the core library; the rest follows the tables, where
one letter may become several and a sigma depends on its neighbours.
-/
namespace Calculi.Text

def CaseRun.image? (run : CaseRun) (n : Nat) : Option Nat :=
  if run.first ≤ n && n ≤ run.last && (n - run.first) % run.stride == 0 then some (n + run.offset).toNat else none

def mapCase (runs : List CaseRun) (expansions : List (Nat × List Nat)) (c : Char) : List Char :=
  match expansions.lookup c.toNat with
  | some letters => letters.map Char.ofNat
  | none => [((runs.findSome? (CaseRun.image? · c.toNat)).map Char.ofNat).getD c]

def isAscii (c : Char) : Bool :=
  c.toNat < 0x80

def upperChar (c : Char) : List Char :=
  if isAscii c then [c.toUpper] else mapCase upperRuns upperExpansions c

def lowerChar (c : Char) : List Char :=
  if isAscii c then [c.toLower] else mapCase lowerRuns lowerExpansions c

def upper (cs : List Char) : List Char :=
  cs.flatMap upperChar

def isCaseIgnorable (c : Char) : Bool :=
  inRanges caseIgnorableRanges c

/-- Whether the nearest character that is not ignorable has a case. -/
def meetsCased (cs : List Char) : Bool :=
  match cs.dropWhile isCaseIgnorable with
  | [] => false
  | c :: _ => inRanges casedRanges c

def capitalSigma : Char := 'Σ'

/-- Lower case with the text already passed, nearest first: a sigma that ends a word takes its final form. -/
def lowerAfter : List Char → List Char → List Char
  | _, [] => []
  | passed, c :: cs =>
    (if c = capitalSigma then [if meetsCased passed && !meetsCased cs then 'ς' else 'σ'] else lowerChar c)
      ++ lowerAfter (c :: passed) cs

def lower (cs : List Char) : List Char :=
  lowerAfter [] cs

end Calculi.Text
