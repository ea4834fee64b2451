import Calculi.Chapter.Check
import Calculi.CommandLine.Arguments
import Calculi.Log.Logger
import Calculi.Settings.EnvFile
import Calculi.Settings.Evaluate
import Calculi.Terminal.Layout
import Calculi.Terminal.Markup

/-!
What each command does, as the lines it prints and the exit code it leaves or the failure it ends with.
-/
namespace Calculi.CommandLine

open Log

structure Setup where
  environment : Entries String
  /-- The text of the file of variables, if there is one. -/
  envFile : Option String
  chapters : List Chapter
  fuel : Nat

inductive Failure where
  | usage (error : UsageError)
  | settings (errors : List Settings.FieldError)
  | level (error : UnknownLevel)
  | check (error : CheckError)
  | markup (error : Terminal.MarkupError)
  deriving DecidableEq

abbrev Session := Journal String Failure

def print (markup : String) : Session Unit := do
  let shown ← .ofExcept ((Terminal.showMarkup markup.toList).mapError .markup)
  .write ((Terminal.layout shown).flatMap Text.writtenLines)

def verbatim (text : String) : String :=
  String.ofList (Terminal.escapeMarkup text.toList)

def logLines (logger : Logger) (r : Record) : List String :=
  (logger.write r).filterMap fun (stream, line) => if stream = .stdout then some line else none

def usage {α : Type} (outcome : Except UsageError α) : Session α :=
  .ofExcept (outcome.mapError .usage)

def named {α : Type} (outcome : Except NameError α) : Session α :=
  usage (outcome.mapError .badName)

def shown (suffix : String) (ctx : Context) (t : Term) : Session String :=
  .ofExcept ((t.render suffix ctx).mapError fun error => .check (.rendering error))

def filterVariable : String := "TAPL_LOG_FILTER"

namespace Setup

def settings (setup : Setup) : Session Settings :=
  let around : Settings.Surroundings := { environment := setup.environment, envFile := setup.envFile }
  .ofExcept ((Settings.load (around.sources Settings.EnvFile.read)).mapError .settings)

def logger (setup : Setup) : Session Logger :=
  .ofExcept ((Logger.unconfigured.configure .builtin "cli" (setup.environment.get? filterVariable)).mapError .level)

def machine (setup : Setup) (settings : Settings) : Machine :=
  settings.machine setup.fuel

def list (setup : Setup) : Session Nat := do
  let settings ← setup.settings
  for chapter in setup.chapters do
    print s!"[bold]{chapter.name}[/bold]: {chapter.title}"
    for e in chapter.examples do
      let text ← shown settings.suffix e.ctx e.term
      print s!"  {chapter.name}/{e.name}: {verbatim text}"
  return 0

def startRecord (names : List String) (strategies : List Strategy) : Record :=
  ⟨.info, "tapl.cli.app", "chapters",
    s!"chapters.start names={Text.quoteList names} strategies={Text.quoteList (strategies.map Strategy.name)}"⟩

def printResult (r : CheckResult) : Session Unit :=
  let place := s!"{r.chapter}/{r.exampleName} [dim]{r.check.label}[/dim]"
  if r.passed then print s!"[green]ok[/green]   {place}"
  else print s!"[red]FAIL[/red] {place}: {verbatim r.detail}"

def runChapter (setup : Setup) (logger : Logger) (plan : CheckPlan) (name : String) : Session Nat := do
  let chapter ← named (Chapter.get setup.chapters name)
  let results ← (chapter.run plan).relabel (logLines logger) .check
  for r in results do printResult r
  return results.countP fun r => !r.passed

/-- Chapters run in the order given, each printed before the next one is looked for. -/
def runChapters (setup : Setup) (names : List String) (strategy : Option Strategy) : Session Nat := do
  let logger ← setup.logger
  let settings ← setup.settings
  let selected := if names.isEmpty then setup.chapters.map Chapter.name else names
  let strategies := (strategy.map ([·])).getD Strategy.all
  .write (logLines logger (startRecord selected strategies))
  let plan : CheckPlan := ⟨setup.machine settings, strategies, settings.suffix⟩
  let counts ← selected.mapM (setup.runChapter logger plan)
  let failures := counts.foldl Nat.add 0
  if failures = 0 then
    print "[bold green]all checks passed[/bold green]"
    return 0
  print s!"[red]{failures} check(s) failed[/red]"
  return 1

def printType (e : Example) : Session Unit :=
  match e.term.infer e.ctx with
  | .ok ty => print s!"[blue]type[/blue]: {ty.render}"
  | .error (.illTyped error) => print s!"[yellow]type error[/yellow]: {error.kind.name}: {verbatim error.message}"
  | .error (.unknownForm form) => .fail (.check (.unknownForm form))

def printTrace (settings : Settings) (e : Example) (trace : Trace) : Session Nat := do
  for (t, n) in trace.terms.zipIdx do
    let text ← shown settings.suffix e.ctx t
    print s!"{Text.padLeft 3 (toString n)}  {verbatim text}"
  match trace.failure with
  | none => return 0
  | some (.limitExceeded limit _) =>
    print s!"[red]stopped after {limit} steps[/red]"
    return 1
  | some error => .fail (.check (.evaluation error))

def evalExample (setup : Setup) (target : String) (strategy : Option Strategy) : Session Nat := do
  let logger ← setup.logger
  let settings ← setup.settings
  let (chapterName, exampleName) ← usage (splitTarget target)
  let chapter ← named (Chapter.get setup.chapters chapterName)
  let e ← named (chapter.find exampleName)
  let machine := setup.machine settings
  printType e
  match strategy.getD settings.strategy with
  | .singleStep => printTrace settings e (machine.run e.term)
  | .fullReduction =>
    let result ← (machine.evaluate .fullReduction e.term).relabel (logLines logger) fun error =>
      .check (.evaluation error)
    let text ← shown settings.suffix e.ctx result
    print (verbatim text)
    return 0

end Setup

def help : Session Nat := do
  print (verbatim "Usage: tapl [list | chapters [NAMES]... [-s STRATEGY] | eval CHAPTER/EXAMPLE [-s STRATEGY]]")
  return 0

def run (setup : Setup) (words : List String) : Session Nat := do
  match ← usage (parse words) with
  | .list => setup.list
  | .chapters names strategy => setup.runChapters names strategy
  | .eval target strategy => setup.evalExample target strategy
  | .help => help

def runProcess (setup : Setup) (words : List String) : Session Nat :=
  let session := run setup words
  match session.outcome with
  | .error (.usage _) => ⟨session.entries, .ok 2⟩
  | _ => session

end Calculi.CommandLine
