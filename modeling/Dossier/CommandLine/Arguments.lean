import Dossier.Binary64.Read
import Dossier.CommandLine.Grammar
import Dossier.Role
import Dossier.Strategy

/-!
# Arguments

What can be asked on the command line: options for all commands, a command, and its own options.
-/

set_option autoImplicit false

namespace Dossier.CommandLine

structure SelectArguments where
  maxTokens : Option UInt32 := none
  task : Option String := none
  strategy : Option Strategy := none
  /-- Files that go first. -/
  priority : List String := []
  includeTests : Bool := false
  noTypes : Bool := false
  minImportance : Option Float := none
  json : Bool := false
  assemble : Bool := false

structure SearchArguments where
  query : Option String := none
  fuzzy : Bool := false
  content : Bool := false
  limit : Option Nat := none
  roles : List Role := []
  json : Bool := false

structure ExpandArguments where
  files : List String := []
  direction : Option Direction := none
  maxTokens : Option UInt32 := none
  query : Option String := none
  json : Bool := false

inductive Command where
  | analyze (json : Bool)
  | select (a : SelectArguments)
  | search (query : String) (a : SearchArguments)
  | expand (a : ExpandArguments)
  | config (shown : Bool)

/-- What holds for every command. -/
structure GlobalArguments where
  /-- Where the settings are. -/
  config : Option String := none
  /-- How much more is logged. -/
  verbosity : Nat := 0
  /-- The root, in place of the one in the settings. -/
  root : Option String := none

/-- All that the command line asks for. -/
structure Invocation where
  globals : GlobalArguments
  command : Command

/-! ## Values -/

/-- A natural number in decimal digits. -/
def readDigits (ds : List Char) : Option Nat :=
  if !ds.isEmpty && ds.all Char.isDigit then some (Binary64.natOfDigits ds) else none

/-- A natural number, after a plus sign or none. -/
def readNatural (text : String) : Option Nat :=
  match text.toList with
  | '+' :: ds => readDigits ds
  | ds => readDigits ds

/-- A number of tokens. Zero may also be written with a minus sign. -/
def readTokens (text : String) : Option UInt32 :=
  let n := match text.toList with
    | '-' :: ds => (readDigits ds).filter (· == 0)
    | _ => readNatural text
  (n.filter (· < UInt32.size)).map Nat.toUInt32

/-- A number of results. -/
def readCount (text : String) : Option Nat := (readNatural text).filter (· < UInt64.size)

/-- A path, which is not empty. -/
def readPath (text : String) : Option String := if text.isEmpty then none else some text

/-! ## Commands -/

/-- The option that asks for help, which every command has. -/
def helpSwitch {σ : Type} : Switch σ := ⟨"help", some 'h', .halt .help⟩

/-- The options in front of the command. -/
def globalGrammar : Grammar GlobalArguments where
  switches := [
    ⟨"config", some 'c', .value fun v s => do
      return { s with config := ← once s.config (readPath v) }⟩,
    ⟨"verbose", some 'v', .flag fun s => some { s with verbosity := s.verbosity + 1 }⟩,
    ⟨"root", none, .value fun v s => do return { s with root := ← once s.root (readPath v) }⟩,
    ⟨"version", some 'V', .halt .version⟩,
    helpSwitch]

def analyzeGrammar : Grammar Bool where
  switches := [⟨"json", none, .flag onceSet⟩, helpSwitch]

def selectGrammar : Grammar SelectArguments where
  switches := [
    ⟨"max-tokens", none, .value fun v s => do
      return { s with maxTokens := ← once s.maxTokens (readTokens v) }⟩,
    ⟨"task", none, .value fun v s => do return { s with task := ← once s.task (some v) }⟩,
    ⟨"strategy", none, .value fun v s => do
      return { s with strategy := ← once s.strategy (Strategy.ofName v).toOption }⟩,
    ⟨"priority", none, .value fun v s => some { s with priority := s.priority ++ [v] }⟩,
    ⟨"include-tests", none, .flag fun s => do
      return { s with includeTests := ← onceSet s.includeTests }⟩,
    ⟨"no-types", none, .flag fun s => do return { s with noTypes := ← onceSet s.noTypes }⟩,
    ⟨"min-importance", none, .value fun v s => do
      return { s with minImportance := ← once s.minImportance (Binary64.read? v) }⟩,
    ⟨"json", none, .flag fun s => do return { s with json := ← onceSet s.json }⟩,
    ⟨"assemble", none, .flag fun s => do return { s with assemble := ← onceSet s.assemble }⟩,
    helpSwitch]

/-- The options of `search`, and its query. -/
def searchGrammar : Grammar SearchArguments where
  switches := [
    ⟨"fuzzy", none, .flag fun s => do return { s with fuzzy := ← onceSet s.fuzzy }⟩,
    ⟨"content", none, .flag fun s => do return { s with content := ← onceSet s.content }⟩,
    ⟨"limit", none, .value fun v s => do
      return { s with limit := ← once s.limit (readCount v) }⟩,
    ⟨"type", none, .value fun v s => do
      return { s with roles := s.roles ++ [← (Role.ofName v).toOption] }⟩,
    ⟨"json", none, .flag fun s => do return { s with json := ← onceSet s.json }⟩,
    helpSwitch]
  operand := some fun v s => do return { s with query := ← once s.query (some v) }

def expandGrammar : Grammar ExpandArguments where
  switches := [
    ⟨"file", none, .value fun v s => some { s with files := s.files ++ [v] }⟩,
    ⟨"direction", none, .value fun v s => do
      return { s with direction := ← once s.direction (Direction.ofName v).toOption }⟩,
    ⟨"max-tokens", none, .value fun v s => do
      return { s with maxTokens := ← once s.maxTokens (readTokens v) }⟩,
    ⟨"query", none, .value fun v s => do return { s with query := ← once s.query (some v) }⟩,
    ⟨"json", none, .flag fun s => do return { s with json := ← onceSet s.json }⟩,
    helpSwitch]

def configGrammar : Grammar Bool where
  switches := [⟨"show", none, .flag onceSet⟩, helpSwitch]

/-- All that the arguments of a command without operands mean. -/
def readAll {σ : Type} (g : Grammar σ) (start : σ) (args : List String) : Except Halt σ := do
  match ← g.read (start, none) args with
  | (s, []) => return s
  | _ => throw .usage

def commandNames : List String := ["analyze", "select", "search", "expand", "config", "help"]

/-- The command with a name and the arguments after it. -/
def readCommand (name : String) (args : List String) : Except Halt Command := do
  match name with
  | "analyze" => return .analyze (← readAll analyzeGrammar false args)
  | "select" =>
    let a ← readAll selectGrammar {} args
    if a.json && a.assemble then throw .usage
    return .select a
  | "search" =>
    let a ← readAll searchGrammar {} args
    return .search (← understood a.query) a
  | "expand" =>
    let a ← readAll expandGrammar {} args
    if a.files.isEmpty then throw .usage
    return .expand a
  | "config" => return .config (← readAll configGrammar false args)
  | "help" =>
    if args.length ≤ 1 && args.all commandNames.contains then throw .help else throw .usage
  | _ => throw .usage

/-- What the arguments ask for. -/
def readInvocation (args : List String) : Except Halt Invocation := do
  match ← globalGrammar.read ({}, none) args with
  | (globals, name :: rest) => return ⟨globals, ← readCommand name rest⟩
  | (_, []) => throw .usage

end Dossier.CommandLine
