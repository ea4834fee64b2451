/-!
Character classes given as tables of code point ranges.
-/
namespace Calculi.Text

def inRanges (ranges : List (Nat × Nat)) (c : Char) : Bool :=
  ranges.any fun (first, last) => first ≤ c.toNat && c.toNat ≤ last

end Calculi.Text
