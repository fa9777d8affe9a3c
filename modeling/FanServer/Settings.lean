/-!
# Settings

What a user can choose: how a rule with an action method is reported, whether syntax errors are
reported at all, and how much is logged.
-/

namespace FanServer

/-- How serious a diagnostic is. -/
inductive Severity where
  /-- an error -/
  | error
  /-- a warning -/
  | warning
  /-- information -/
  | information
  /-- a hint -/
  | hint
  deriving DecidableEq, Repr

namespace Severity

/-- The name of a severity in settings. -/
def name : Severity → String
  | error => "error"
  | warning => "warning"
  | information => "information"
  | hint => "hint"

/-- The number of a severity in messages to an editor. -/
def code : Severity → Nat
  | error => 1
  | warning => 2
  | information => 3
  | hint => 4

/-- The severity of a name. -/
def ofName? (name : String) : Option Severity :=
  [error, warning, information, hint].find? fun severity => severity.name == name

end Severity

/-- How diagnostics are made. -/
structure DiagnosticSettings where
  /-- the severity of the report on a rule that has an action method -/
  linkedRuleSeverity : Severity := .information
  /-- the wording of that report -/
  linkedRuleMessage : String := "Has Action Method"
  /-- whether a syntax error is reported -/
  reportSyntaxErrors : Bool := true
  deriving DecidableEq, Repr

/-- All settings. -/
structure Settings where
  /-- how diagnostics are made -/
  diagnostics : DiagnosticSettings := {}
  /-- which log lines are written -/
  level : String := "info"
  deriving DecidableEq, Repr

end FanServer
