import Calculi.Text.Ranges

/-!
Blank characters and trimming. Numbers are trimmed of Unicode white space; every other text is also trimmed
of the four information separators.
-/
namespace Calculi.Text

def whiteSpaceRanges : List (Nat × Nat) := [
  (0x09, 0x0d), (0x20, 0x20), (0x85, 0x85), (0xa0, 0xa0), (0x1680, 0x1680), (0x2000, 0x200a), (0x2028, 0x2029),
  (0x202f, 0x202f), (0x205f, 0x205f), (0x3000, 0x3000)]

def isWhiteSpace (c : Char) : Bool :=
  inRanges whiteSpaceRanges c

/-- White space and the information separators U+001C to U+001F. -/
def isBlank (c : Char) : Bool :=
  isWhiteSpace c || (0x1c ≤ c.toNat && c.toNat ≤ 0x1f)

def trimRightWith (drop : Char → Bool) (cs : List Char) : List Char :=
  (cs.reverse.dropWhile drop).reverse

def trimWith (drop : Char → Bool) (cs : List Char) : List Char :=
  trimRightWith drop (cs.dropWhile drop)

def trim (cs : List Char) : List Char :=
  trimWith isBlank cs

def trimRight (cs : List Char) : List Char :=
  trimRightWith isBlank cs

end Calculi.Text
