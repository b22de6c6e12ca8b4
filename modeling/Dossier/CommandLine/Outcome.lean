import Dossier.Json.Write
import Dossier.Session.Basic

/-!
# Outcomes

How a run of the program ends: its status, what it prints, and its report when it failed. A report
names the failure, and below it what caused it, numbered when there are several causes.
-/

set_option autoImplicit false

namespace Dossier.CommandLine

inductive Output where
  | text (s : String)
  | json (v : Json)
deriving Inhabited

def Output.write : Output → String
  | .text s => s
  | .json v => v.write ++ "\n"

/-- Why a command has no answer. -/
inductive Failure where
  /-- The settings at a path cannot be used. -/
  | settings (path : String) (e : SettingsError)
  /-- The settings, with what the arguments changed, cannot be used. -/
  | unusable (u : Unusable)
  /-- No session can be opened with the settings. -/
  | refused (u : Unusable)
  | analysis (e : AnalysisError)

/-- The report of a failure, and then of what caused it. -/
def Failure.reports : Failure → List String
  | .settings path e => ("failed to load " ++ path) :: e.reports
  | .unusable u => (SettingsError.unusable u).reports
  | .refused u =>
    "invalid configuration" :: Session.refusal u :: (SettingsError.unusable u).reports
  | .analysis e => e.reports

/-- The causes, one to a line. -/
def writeCauses : List String → String
  | [cause] => "    " ++ cause ++ "\n"
  | causes =>
    String.join (causes.mapIdx fun i cause =>
      Binary64.padLeft 5 (toString i) ++ ": " ++ cause ++ "\n")

/-- A failure and its causes. -/
def writeReport : List String → String
  | [] => ""
  | [message] => "Error: " ++ message ++ "\n"
  | message :: causes => "Error: " ++ message ++ "\n\nCaused by:\n" ++ writeCauses causes

structure Outcome where
  /-- Zero for an answer. -/
  status : Nat := 0
  output : Output := .text ""
  report : Option String := none

namespace Outcome

def answer (o : Output) : Outcome := { output := o }

/-- The end with a failure. -/
def failure (f : Failure) : Outcome := { status := 1, report := some (writeReport f.reports) }

/-- The end when a request was not answered. -/
def interruption : Interruption → Outcome
  | .failed e => failure (.analysis e)
  | .clockOverflow | .countOverflow => { status := 101 }

end Outcome
end Dossier.CommandLine
