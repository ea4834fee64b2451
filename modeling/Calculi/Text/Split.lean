/-!
Cutting texts at a separator.
-/
namespace Calculi.Text

def splitWhere (isSep : Char → Bool) : List Char → List (List Char)
  | [] => [[]]
  | c :: cs =>
    if isSep c then [] :: splitWhere isSep cs
    else match splitWhere isSep cs with
      | [] => [[c]]
      | piece :: pieces => (c :: piece) :: pieces

def splitAt (sep : Char) (cs : List Char) : List (List Char) :=
  splitWhere (· = sep) cs

def cutAt (sep : Char) : List Char → Option (List Char × List Char)
  | [] => none
  | c :: cs =>
    if c = sep then some ([], cs)
    else (cutAt sep cs).map fun (before, after) => (c :: before, after)

end Calculi.Text
