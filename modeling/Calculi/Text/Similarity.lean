/-!
How alike two texts are: the longest block they share is found first, then the blocks to its left and right,
and the share of characters in blocks is compared with three fifths.
-/
namespace Calculi.Text

def commonLength : List Char → List Char → Nat
  | a :: as, b :: bs => if a = b then commonLength as bs + 1 else 0
  | _, _ => 0

structure Block where
  left : Nat
  right : Nat
  length : Nat

/-- The longest block; of several, the one that starts first in the left text, then in the right one. -/
def longestBlock (as bs : List Char) : Block :=
  let starts := (List.range as.length).flatMap fun i => (List.range bs.length).map fun j => (i, j)
  starts.foldl
    (fun best (i, j) =>
      let length := commonLength (as.drop i) (bs.drop j)
      if best.length < length then ⟨i, j, length⟩ else best)
    ⟨0, 0, 0⟩

/-- Characters in shared blocks. Every block is shorter than its text, so the text's length is enough fuel. -/
def sharedLength : Nat → List Char → List Char → Nat
  | 0, _, _ => 0
  | fuel + 1, as, bs =>
    let block := longestBlock as bs
    if block.length = 0 then 0
    else
      sharedLength fuel (as.take block.left) (bs.take block.right) + block.length +
        sharedLength fuel (as.drop (block.left + block.length)) (bs.drop (block.right + block.length))

structure Likeness where
  shared : Nat
  total : Nat

def likeness (a b : String) : Likeness :=
  ⟨2 * sharedLength (a.length + 1) a.toList b.toList, a.length + b.length⟩

def Likeness.isClose (l : Likeness) : Bool :=
  3 * l.total ≤ 5 * l.shared

def betterMatch (x y : String × Likeness) : Bool :=
  let left := x.2.shared * y.2.total
  let right := y.2.shared * x.2.total
  right < left || (left = right && y.1 ≤ x.1)

def closeMatches (text : String) (candidates : List String) : List String :=
  let rated := candidates.map fun candidate => (candidate, likeness candidate text)
  (((rated.filter fun entry => entry.2.isClose).mergeSort betterMatch).take 3).map (·.1)

end Calculi.Text
