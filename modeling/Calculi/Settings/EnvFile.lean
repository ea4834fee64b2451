import Calculi.Settings.Assignment
import Calculi.Text.Blank

/-!
Files of variables, one `KEY=value` a line; only what stands between quotes may run over several lines. A line
that does not follow the form is passed over, and a key without an equals sign takes back what was said of it
before. Every assignment takes up some text, which is why reading comes to an end.
-/
namespace Calculi.Settings.EnvFile

open Text

/-- Every line end becomes a line feed: a carriage return counts as one, alone or before a line feed. -/
def unifyLineEnds : List Char → List Char
  | '\r' :: '\n' :: cs => '\n' :: unifyLineEnds cs
  | '\r' :: cs => '\n' :: unifyLineEnds cs
  | c :: cs => c :: unifyLineEnds cs
  | [] => []

/-- A file may start with one byte order mark, which is not part of it. -/
def dropMark : List Char → List Char
  | '\ufeff' :: cs => cs
  | cs => cs

def isGap (c : Char) : Bool :=
  isBlank c && c ≠ '\n'

def dropLine (cs : List Char) : List Char :=
  (cs.dropWhile (· ≠ '\n')).drop 1

/-- What follows the line, if only a gap and a comment are left of it. -/
def endLine? (cs : List Char) : Option (List Char) :=
  match cs.dropWhile isGap with
  | [] => some []
  | c :: rest =>
    if c = '\n' then some rest
    else if c = '#' then some (dropLine rest)
    else none

/-- Up to the closing quote, and what follows it. A character after a backslash never closes. -/
def closeQuote? (quote : Char) : List Char → Option (List Char × List Char)
  | [] => none
  | '\\' :: c :: cs => (closeQuote? quote cs).map fun (inside, rest) => ('\\' :: c :: inside, rest)
  | c :: cs =>
    if c = quote then some ([], cs)
    else (closeQuote? quote cs).map fun (inside, rest) => (c :: inside, rest)

def singleEscape? : Char → Option Char
  | '\\' => some '\\'
  | '\'' => some '\''
  | _ => none

def doubleEscape? : Char → Option Char
  | '\\' => some '\\'
  | '\'' => some '\''
  | '"' => some '"'
  | 'a' => some '\x07'
  | 'b' => some '\x08'
  | 'f' => some '\x0c'
  | 'n' => some '\n'
  | 'r' => some '\r'
  | 't' => some '\t'
  | 'v' => some '\x0b'
  | _ => none

def unescape (escape? : Char → Option Char) : List Char → List Char
  | '\\' :: c :: cs =>
    match escape? c with
    | some e => e :: unescape escape? cs
    | none => '\\' :: unescape escape? (c :: cs)
  | c :: cs => c :: unescape escape? cs
  | [] => []

/-- An unquoted value ends where blanks lead up to a comment. -/
def cutComment : List Char → List Char
  | [] => []
  | c :: cs =>
    if isBlank c && (cs.dropWhile isBlank).head? = some '#' then [] else c :: cutComment cs

def readQuoted? (quote : Char) (escape? : Char → Option Char) (cs : List Char) :
    Option (List Char × List Char) :=
  (closeQuote? quote cs).map fun (inside, rest) => (unescape escape? inside, rest)

/-- Blanks between the equals sign and a number sign make a comment of what follows; without them it is a value. -/
def readValue? (cs : List Char) : Option (List Char × List Char) :=
  match cs.dropWhile isGap with
  | '\'' :: rest => readQuoted? '\'' singleEscape? rest
  | '"' :: rest => readQuoted? '"' doubleEscape? rest
  | _ =>
    let line := cs.takeWhile (· ≠ '\n')
    some (trim (cutComment line), cs.drop line.length)

def isKeyChar (c : Char) : Bool :=
  !(c = '=' || c = '#' || isBlank c)

def readKey? : List Char → Option (List Char × List Char)
  | '\'' :: cs =>
    match cs.takeWhile (· ≠ '\''), cs.dropWhile (· ≠ '\'') with
    | c :: key, _ :: rest => some (c :: key, rest)
    | _, _ => none
  | cs =>
    if cs.takeWhile isKeyChar = [] then none else some (cs.takeWhile isKeyChar, cs.dropWhile isKeyChar)

def dropExport (cs : List Char) : List Char :=
  let word := "export".toList
  let rest := cs.drop word.length
  if word.isPrefixOf cs && rest.head?.any isGap then rest.dropWhile isGap else cs

def endAssignment (assignment : Assignment) (rest : List Char) : Option Assignment × List Char :=
  match endLine? rest with
  | some next => (some assignment, next)
  | none => (none, dropLine rest)

/-- The assignment at the start of a text, if it is well formed, and where to go on. After a mistake that is
the line after the one where the mistake showed. -/
def readAssignment (cs : List Char) : Option Assignment × List Char :=
  match readKey? (dropExport cs) with
  | none => (none, dropLine (dropExport cs))
  | some (key, afterKey) =>
    match afterKey.dropWhile isGap with
    | '=' :: value =>
      match readValue? value with
      | some (text, rest) => endAssignment (String.ofList key, some (String.ofList text)) rest
      | none => (none, dropLine value)
    | rest => endAssignment (String.ofList key, none) rest

theorem dropLine_suffix (cs : List Char) : dropLine cs <:+ cs :=
  (List.drop_suffix 1 _).trans (List.dropWhile_suffix _)

theorem length_dropLine_lt {cs : List Char} (nonempty : cs ≠ []) : (dropLine cs).length < cs.length := by
  have remaining := (cs.dropWhile_suffix (· ≠ '\n')).length_le
  have positive := List.length_pos_iff.mpr nonempty
  rw [dropLine, List.length_drop]
  omega

theorem endLine?_suffix {cs rest : List Char} (ended : endLine? cs = some rest) : rest <:+ cs := by
  have afterGap := cs.dropWhile_suffix isGap
  unfold endLine? at ended
  split at ended
  · cases ended
    exact List.nil_suffix
  · rename_i c text visible
    rw [visible] at afterGap
    have afterVisible : text <:+ cs := (List.suffix_cons c text).trans afterGap
    split at ended
    · cases ended
      exact afterVisible
    · split at ended
      · cases ended
        exact (dropLine_suffix text).trans afterVisible
      · cases ended

theorem closeQuote?_suffix {quote : Char} {cs inside rest : List Char}
    (closed : closeQuote? quote cs = some (inside, rest)) : rest <:+ cs := by
  fun_induction closeQuote? quote cs generalizing inside with
  | case1 => cases closed
  | case2 c cs ih =>
    obtain ⟨_, closedLater, same⟩ := Option.map_eq_some_iff.mp closed
    cases same
    exact (ih closedLater).trans ((List.suffix_cons c cs).trans (List.suffix_cons _ _))
  | case3 =>
    cases closed
    exact List.suffix_cons _ _
  | case4 c cs _ _ ih =>
    obtain ⟨_, closedLater, same⟩ := Option.map_eq_some_iff.mp closed
    cases same
    exact (ih closedLater).trans (List.suffix_cons c cs)

theorem readQuoted?_suffix {quote : Char} {escape? : Char → Option Char} {cs value rest : List Char}
    (found : readQuoted? quote escape? cs = some (value, rest)) : rest <:+ cs := by
  obtain ⟨_, closed, same⟩ := Option.map_eq_some_iff.mp found
  cases same
  exact closeQuote?_suffix closed

theorem readValue?_suffix {cs value rest : List Char} (found : readValue? cs = some (value, rest)) : rest <:+ cs := by
  have afterGap := cs.dropWhile_suffix isGap
  unfold readValue? at found
  split at found
  · rename_i text opened
    rw [opened] at afterGap
    exact (readQuoted?_suffix found).trans ((List.suffix_cons _ _).trans afterGap)
  · rename_i text opened
    rw [opened] at afterGap
    exact (readQuoted?_suffix found).trans ((List.suffix_cons _ _).trans afterGap)
  · cases found
    exact List.drop_suffix _ _

theorem dropExport_suffix (cs : List Char) : dropExport cs <:+ cs := by
  dsimp only [dropExport]
  split
  · exact (List.dropWhile_suffix _).trans (List.drop_suffix _ _)
  · exact List.suffix_refl cs

theorem endAssignment_suffix (assignment : Assignment) (rest : List Char) :
    (endAssignment assignment rest).2 <:+ rest := by
  unfold endAssignment
  split
  · rename_i ended
    exact endLine?_suffix ended
  · exact dropLine_suffix rest

theorem length_readKey?_lt {cs key rest : List Char} (found : readKey? cs = some (key, rest)) :
    rest.length < cs.length := by
  unfold readKey? at found
  split at found
  · rename_i cs
    have afterQuoted := (cs.dropWhile_suffix (· ≠ '\'')).length_le
    split at found
    · rename_i c key quote text _ closed
      cases found
      rw [closed, List.length_cons] at afterQuoted
      rw [List.length_cons]
      omega
    · cases found
  · split at found
    · cases found
    · rename_i keyed
      cases found
      have positive := List.length_pos_iff.mpr keyed
      have whole := congrArg List.length (cs.takeWhile_append_dropWhile (p := isKeyChar))
      rw [List.length_append] at whole
      omega

/-- Where there is text, reading an assignment takes up some of it. -/
theorem length_readAssignment_lt {cs : List Char} (nonempty : cs ≠ []) :
    (readAssignment cs).2.length < cs.length := by
  have afterExport := (dropExport_suffix cs).length_le
  unfold readAssignment
  split
  · by_cases exported : dropExport cs = []
    · simpa [exported, dropLine] using List.length_pos_iff.mpr nonempty
    · exact Nat.lt_of_lt_of_le (length_dropLine_lt exported) afterExport
  · rename_i key text keyed
    have afterKey := length_readKey?_lt keyed
    have afterGap := (text.dropWhile_suffix isGap).length_le
    split
    · rename_i value equals
      rw [equals, List.length_cons] at afterGap
      split
      · rename_i given rest found
        have afterValue := (readValue?_suffix found).length_le
        have afterLine := (endAssignment_suffix (String.ofList key, some (String.ofList given)) rest).length_le
        omega
      · have afterLine := (dropLine_suffix value).length_le
        dsimp only
        omega
    · have afterLine := (endAssignment_suffix (String.ofList key, none) (text.dropWhile isGap)).length_le
      omega

def readAssignments (cs : List Char) : List Assignment :=
  match _ : cs.dropWhile isBlank with
  | [] => []
  | c :: text => (readAssignment (c :: text)).1.toList ++ readAssignments (readAssignment (c :: text)).2
  termination_by cs.length
  decreasing_by
    rename_i visible
    have afterBlanks := (cs.dropWhile_suffix isBlank).length_le
    have afterLine := length_readAssignment_lt (List.cons_ne_nil c text)
    rw [visible] at afterBlanks
    omega

theorem readAssignments_nil : readAssignments [] = [] := by
  rw [readAssignments]
  rfl

theorem readAssignments_eq_cons {cs rest : List Char} {assignment : Assignment}
    (first : readAssignment (cs.dropWhile isBlank) = (some assignment, rest)) :
    readAssignments cs = assignment :: readAssignments rest := by
  rw [readAssignments]
  split
  · rename_i blank
    rw [blank] at first
    cases first
  · rename_i start
    rw [start] at first
    rw [first, Option.toList_some, List.singleton_append]

def read : Reader := fun text =>
  readAssignments (unifyLineEnds (dropMark text.toList))

end Calculi.Settings.EnvFile
