/-!
Replacing what a pattern finds. Finds are taken from left to right and never overlap.
-/
namespace Calculi.Text

structure Find where
  length : Nat
  replacement : List Char

/-- Replace with `skip` characters still covered by the find before. -/
def replaceFrom (find? : List Char → Option Find) : Nat → List Char → List Char
  | _, [] => []
  | skip + 1, _ :: cs => replaceFrom find? skip cs
  | 0, c :: cs =>
    match find? (c :: cs) with
    | some found => found.replacement ++ replaceFrom find? (found.length - 1) cs
    | none => c :: replaceFrom find? 0 cs

def replaceAll (find? : List Char → Option Find) (cs : List Char) : List Char :=
  replaceFrom find? 0 cs

end Calculi.Text
