import Dossier.CommandLine.Arguments
import Dossier.CommandLine.Listing
import Dossier.CommandLine.Outcome
import Dossier.CommandLine.Records
import Dossier.Settings.Read
import Dossier.Settings.Write

/-!
# Running commands

The settings are loaded before anything else; without a file they are the defaults. Then a session
is opened for the root, and the command's question is asked.
-/

set_option autoImplicit false

namespace Dossier.CommandLine

/-- The name and the version of the program. -/
def versionLine : String := "ctxpack 0.1.0\n"

/-- How the program is used. -/
def usageText : String :=
  "Usage: ctxpack [OPTIONS] <COMMAND>\n\nCommands: analyze, select, search, expand, config, help\n"

/-- Where the settings are when nothing is said. -/
def defaultConfig : String := "ctxpack.toml"

namespace SelectArguments

/-- The request with what the arguments change. -/
def apply (a : SelectArguments) (r : SelectionRequest) : SelectionRequest where
  maxTokens := a.maxTokens.getD r.maxTokens
  task := a.task
  priorityFiles := a.priority
  minImportance := a.minImportance.getD r.minImportance
  includeTypes := r.includeTypes && !a.noTypes
  includeTests := r.includeTests || a.includeTests
  strategy := a.strategy.getD r.strategy

end SelectArguments

namespace SearchArguments

/-- The search options with what the arguments change. -/
def apply (a : SearchArguments) (o : SearchOptions) : SearchOptions :=
  { o with
    fuzzy := o.fuzzy || a.fuzzy
    content := o.content || a.content
    limit := a.limit <|> o.limit
    roles := if a.roles.isEmpty then o.roles else some a.roles }

end SearchArguments

namespace ExpandArguments

/-- The request that the arguments make. -/
def request (a : ExpandArguments) : ExpansionRequest :=
  let d : ExpansionRequest := {}
  { direction := a.direction.getD d.direction
    maxTokensToAdd := a.maxTokens.getD d.maxTokensToAdd
    query := a.query }

end ExpandArguments

/-- The answer to a question in one of two forms. -/
def answerAs {α : Type} (json : Bool) (record : α → Json) (listing : α → String) (x : α) : Output :=
  if json then .json (record x) else .text (listing x)

/-- The end of a run with what was asked for, or without it. -/
def concluded {α : Type} (answer : Except Interruption α) (write : α → Output) : Outcome :=
  match answer with
  | .ok x => .answer (write x)
  | .error e => .interruption e

/-- What `config` answers. -/
def describeSettings (path : String) (shown : Bool) (s : Settings) : Outcome :=
  match s.validate with
  | .error u => .failure (.unusable u)
  | .ok () =>
    if shown then .answer (.text (s.write ++ "\n"))
    else
      .answer (.text ("Configuration at '" ++ path ++ "' is valid.\nChunk types: "
        ++ ", ".intercalate (Role.all.map Role.name) ++ "\n"))

/-- The end of a run whose command asks something of a session. -/
def askSession (locate : Locator) (s : Session) : Command → Outcome
  | .analyze json =>
    concluded (s.ask locate id).1 (answerAs json Snapshot.record Snapshot.summary)
  | .select a =>
    let r := a.apply s.selectionRequest
    let selected := (s.select locate r).1
    if a.assemble then
      concluded (selected.bind fun x => s.assemble r.maxTokens x.chunks) .text
    else concluded selected (answerAs a.json Selection.record Selection.listing)
  | .search query a =>
    concluded (s.searchRanked locate (a.apply s.searchOptions) query).1
      (answerAs a.json (fun hits => .array (hits.map ScoredChunk.record))
        fun hits => String.join (hits.map ScoredChunk.line))
  | .expand a =>
    concluded (s.expand locate a.request a.files).1
      (answerAs a.json Expansion.record Expansion.listing)
  | .config _ => .answer (.text "")

namespace Invocation

/-- Where the settings are. -/
def configPath (i : Invocation) : String := i.globals.config.getD defaultConfig

/-- What is found where the settings are. -/
def foundConfig (i : Invocation) (locate : Locator) : Except Fault Located :=
  if longestPath < i.configPath.utf8ByteSize then .error .nameTooLong else locate i.configPath

/-- The settings at their path, with the root that the arguments name. -/
def settings (i : Invocation) (found : Except Fault Located) : Except Failure Settings := do
  let s ← match found with
    | .error _ => .ok {}
    | .ok l =>
      match l.text with
      | .error fault => .error (.settings i.configPath (.unreadable fault.message))
      | .ok text => (Settings.parse text).mapError (.settings i.configPath)
  return { s with analyzer.root := i.globals.root.getD s.analyzer.root }

/-- The end of the run that an invocation asks for, when the clock shows `now`. -/
def run (i : Invocation) (now : Nat) (locate : Locator) : Outcome :=
  match i.settings (i.foundConfig locate) with
  | .error f => .failure f
  | .ok s =>
    match i.command with
    | .config shown => describeSettings i.configPath shown s
    | command =>
      match Session.ofSettings s now with
      | .error u => .failure (.refused u)
      | .ok session => askSession locate session command

end Invocation

/-- The end of a run whose arguments lead to no command. -/
def halted : Halt → Outcome
  | .usage => { status := 2 }
  | .help => .answer (.text usageText)
  | .version => .answer (.text versionLine)

/-- The end of a run with the arguments, when the clock shows `now`. -/
def run (now : Nat) (locate : Locator) (args : List String) : Outcome :=
  match readInvocation args with
  | .error h => halted h
  | .ok i => i.run now locate

end Dossier.CommandLine
