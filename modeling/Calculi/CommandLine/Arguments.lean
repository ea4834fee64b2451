import Calculi.Chapter.Basic
import Calculi.Strategy
import Calculi.Text.Blank
import Calculi.Text.Similarity
import Calculi.Text.Split

/-!
What the words of a command line ask for. Options may stand anywhere among a command's arguments until two
dashes end them; the last of repeated options holds.
-/
namespace Calculi.CommandLine

inductive Command where
  | list
  | chapters (names : List String) (strategy : Option Strategy)
  | eval (target : String) (strategy : Option Strategy)
  | help
  deriving DecidableEq

inductive UsageError where
  | missingCommand
  | noSuchCommand (name : String)
  | noSuchOption (name : String) (similar : List String)
  | needsArgument (option : String)
  | takesNoArgument (option : String)
  | badStrategy (text : String)
  | missingTarget
  | extraArguments (words : List String)
  | badTarget (text : String)
  | badName (error : NameError)
  /-- An error where a command's name was looked for, with the commands that may have been meant. -/
  | suggesting (error : UsageError) (commands : List String)
  deriving DecidableEq

def withoutStops (text : String) : String :=
  String.ofList (Text.trimRightWith (· = '.') text.toList)

def UsageError.statement : UsageError → String
  | .missingCommand => "Missing command."
  | .noSuchCommand name => s!"No such command {Text.quote name}."
  | .noSuchOption name _ => s!"No such option: {name}"
  | .needsArgument option => s!"Option {Text.quote option} requires an argument."
  | .takesNoArgument option => s!"Option {Text.quote option} does not take a value."
  | .badStrategy text =>
    "Invalid value for '--strategy' / '-s': Value error, " ++ Text.quote text ++ " is not one of "
      ++ ", ".intercalate (Strategy.all.map fun strategy => Text.quote strategy.name) ++ "."
  | .missingTarget => "Missing argument 'target'."
  | .extraArguments words => "Got unexpected extra argument(s) (" ++ " ".intercalate words ++ ")"
  | .badTarget text => s!"Invalid value: expected CHAPTER/EXAMPLE, got {Text.quote text}"
  | .badName error => s!"Invalid value: {error.message}"
  | .suggesting error [] => error.statement
  | .suggesting error commands =>
    withoutStops error.statement ++ ". Did you mean " ++ ", ".intercalate (commands.map Text.quote) ++ "?"

def UsageError.possibleOptions : UsageError → List String
  | .noSuchOption _ similar => similar.mergeSort fun a b => a ≤ b
  | .suggesting error _ => error.possibleOptions
  | _ => []

/-- Messages repeat words of the command line, whose control characters are written out. -/
def UsageError.message (error : UsageError) : String :=
  let options := match error.possibleOptions with
    | [] => ""
    | options => " (Possible options: " ++ ", ".intercalate options ++ ")"
  Text.escapeControls (error.statement ++ options)

inductive Word where
  | endOfOptions
  | argument
  /-- Two dashes and a name, with a value if an equals sign gives one. -/
  | long (name : String) (value : Option String)
  /-- One dash and a letter, with whatever follows the letter. -/
  | short (letter : Char) (attached : List Char)

def Word.of (word : String) : Word :=
  match word.toList with
  | ['-', '-'] => .endOfOptions
  | '-' :: '-' :: cs =>
    match Text.cutAt '=' ('-' :: '-' :: cs) with
    | some (name, value) => .long (String.ofList name) (some (String.ofList value))
    | none => .long word none
  | '-' :: c :: cs => .short c cs
  | _ => .argument

structure Sorted where
  arguments : List String := []
  strategy : Option String := none
  help : Bool := false

def noSuchOption (known : List String) (name : String) : UsageError :=
  .noSuchOption name (Text.closeMatches name known)

def noSuchLetter (letter : Char) : UsageError :=
  .noSuchOption (String.ofList ['-', letter]) []

def Sorted.withStrategy (text : String) (later : Sorted) : Sorted :=
  { later with strategy := later.strategy <|> some text }

def sortWords (takesStrategy : Bool) : List String → Except UsageError Sorted
  | [] => .ok {}
  | word :: rest =>
    match Word.of word with
    | .endOfOptions => .ok { arguments := rest }
    | .argument => do
      let sorted ← sortWords takesStrategy rest
      return { sorted with arguments := word :: sorted.arguments }
    | .long name value =>
      if name = "--help" then
        match value with
        | some _ => .error (.takesNoArgument name)
        | none => do return { ← sortWords takesStrategy rest with help := true }
      else if takesStrategy && name = "--strategy" then
        match value, rest with
        | some text, rest => do return (← sortWords takesStrategy rest).withStrategy text
        | none, text :: rest => do return (← sortWords takesStrategy rest).withStrategy text
        | none, [] => .error (.needsArgument name)
      else .error (noSuchOption (if takesStrategy then ["--help", "--strategy"] else ["--help"]) name)
    | .short letter attached =>
      if takesStrategy && letter = 's' then
        match attached, rest with
        | c :: cs, rest => do return (← sortWords takesStrategy rest).withStrategy (String.ofList (c :: cs))
        | [], text :: rest => do return (← sortWords takesStrategy rest).withStrategy text
        | [], [] => .error (.needsArgument "-s")
      else .error (noSuchLetter letter)

def readStrategy : Option String → Except UsageError (Option Strategy)
  | none => .ok none
  | some text =>
    match Strategy.ofName? text with
    | some strategy => .ok (some strategy)
    | none => .error (.badStrategy text)

def noMore : List String → Except UsageError Unit
  | [] => .ok ()
  | words => .error (.extraArguments words)

/-- Options come before arguments when values are checked, and both before leftover words. -/
def listOf (sorted : Sorted) : Except UsageError Command := do
  noMore sorted.arguments
  return .list

def chaptersOf (sorted : Sorted) : Except UsageError Command := do
  return .chapters sorted.arguments (← readStrategy sorted.strategy)

def evalOf (sorted : Sorted) : Except UsageError Command := do
  let strategy ← readStrategy sorted.strategy
  match sorted.arguments with
  | [] => throw .missingTarget
  | target :: rest =>
    noMore rest
    return .eval target strategy

structure CommandForm where
  name : String
  takesStrategy : Bool
  build : Sorted → Except UsageError Command

def commandForms : List CommandForm := [
  ⟨"list", false, listOf⟩,
  ⟨"chapters", true, chaptersOf⟩,
  ⟨"eval", true, evalOf⟩]

def CommandForm.parse (form : CommandForm) (words : List String) : Except UsageError Command := do
  let sorted ← sortWords form.takesStrategy words
  if sorted.help then return .help
  form.build sorted

/-- Read the options before a command's name, of which there is none but help: whether help is asked for, and
the words that are left. After a mistake those are the words behind it. -/
def leadingOptions : List String → Except UsageError Bool × List String
  | [] => (.ok false, [])
  | word :: rest =>
    match Word.of word with
    | .endOfOptions => (.ok false, rest)
    | .argument => (.ok false, word :: rest)
    | .long name value =>
      if name = "--help" then
        match value with
        | some _ => (.error (.takesNoArgument name), rest)
        | none =>
          let (outcome, left) := leadingOptions rest
          (outcome.map fun _ => true, left)
      else (.error (noSuchOption ["--help"] name), rest)
    | .short letter _ => (.error (noSuchLetter letter), rest)

def similarCommands : List String → List String
  | [] => []
  | word :: _ => Text.closeMatches word (commandForms.map CommandForm.name)

/-- A name that no command has is first tried as an option, for the case that two dashes hid it. -/
def unknownCommand (name : String) (rest : List String) : Except UsageError Command :=
  let (outcome, left) := leadingOptions (name :: rest)
  match outcome with
  | .ok true => .ok .help
  | .ok false => .error (.suggesting (.noSuchCommand name) (similarCommands left))
  | .error error => .error (.suggesting error (similarCommands left))

def parse (words : List String) : Except UsageError Command := do
  let (outcome, left) := leadingOptions words
  if ← outcome then return .help
  match left with
  | [] => throw .missingCommand
  | name :: rest =>
    match commandForms.find? fun form => form.name == name with
    | some form => form.parse rest
    | none => unknownCommand name rest

def splitTarget (target : String) : Except UsageError (String × String) :=
  match Text.cutAt '/' target.toList with
  | some (chapter, c :: cs) => .ok (String.ofList chapter, String.ofList (c :: cs))
  | _ => .error (.badTarget target)

end Calculi.CommandLine
