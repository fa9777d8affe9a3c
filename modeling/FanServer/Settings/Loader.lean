import FanServer.Settings
import FanServer.Settings.Path
import FanServer.Settings.Toml

/-!
# Layers of settings

Settings are built from layers: the defaults, then files in the order in which they were added,
then single overrides. A later layer wins over an earlier one **key by key**, and an override wins
over every file wherever it was given; of two overrides with the same path only the later one
counts. Only what is left in the end is converted, so a value that a later layer replaces can do no
harm. Keys that mean nothing are ignored.

Within a file, and among the overrides, no order is laid down. Here the keys of a file come in the
order of its text and the overrides in that of their addition. `Proofs/Precedence` shows that every
other order comes to the same as long as no file names a setting twice.
-/

namespace FanServer.Settings

/-- Why settings cannot be built. -/
inductive LoadError where
  /-- the key of an override is malformed -/
  | malformedKey
  /-- a file that must be there is missing -/
  | missingFile
  /-- a file is not well formed -/
  | malformedFile
  /-- an index in a key has no place in its list -/
  | misplacedItem
  /-- a value of the wrong type for a text or a truth value -/
  | wrongType
  /-- a value that is no severity, or not the table or the list that is called for -/
  | unsuitable
  deriving DecidableEq, Repr

/-- A file of settings. -/
inductive Source where
  /-- a file with the given text -/
  | text (toml : String)
  /-- a file that is not there, and whether it must be -/
  | missing (required : Bool)
  deriving DecidableEq, Repr

/-- The layers over the defaults. -/
structure Loader where
  /-- the files, in the order of their addition -/
  sources : List Source := []
  /-- the overrides with the paths of their keys, of which no two are the same -/
  overrides : List (List Step × Value) := []

/-! ### Layering -/

namespace Loader

/-- Add a file. -/
def addSource (loader : Loader) (source : Source) : Loader :=
  { loader with sources := loader.sources ++ [source] }

/-- Add an override. It takes the place of an earlier one with the same path. -/
def addOverride (loader : Loader) (key : String) (value : Value) : Except LoadError Loader :=
  match Step.path? key with
  | some path =>
    let others := loader.overrides.filter fun override => override.1 ≠ path
    .ok { loader with overrides := others ++ [(path, value)] }
  | none => .error .malformedKey

end Loader

/-- The defaults. -/
def defaults : Value :=
  .table [
    ("diagnostics", .table [
      ("linked_rule_severity", .string "information"),
      ("linked_rule_message", .string "Has Action Method"),
      ("report_parse_errors", .bool true)]),
    ("logging", .table [("level", .string "info")])]

/-- The fields that a file sets. -/
def Source.fields : Source → Except LoadError (List (String × Value))
  | text toml =>
    match Toml.parse? toml with
    | some fields => .ok fields
    | none => .error .malformedFile
  | missing true => .error .missingFile
  | missing false => .ok []

/-- Put a value at the end of a path. -/
def place (base : Value) (path : List Step) (value : Value) : Except LoadError Value :=
  match base.setAt? path value with
  | some value => .ok value
  | none => .error .misplacedItem

/-- Lay the fields of a file over a value, one after the other. A key of the outermost table may be
a path; one that is none is taken as it is. -/
def mergeFile (base : Value) : List (String × Value) → Except LoadError Value
  | [] => .ok base
  | (key, value) :: rest => do
    let merged ← place base ((Step.path? key).getD [.key key]) value
    mergeFile merged rest

/-- Lay files over a value, in order. -/
def mergeSources (base : Value) : List Source → Except LoadError Value
  | [] => .ok base
  | source :: sources => do
    let merged ← mergeFile base (← source.fields)
    mergeSources merged sources

/-- Lay overrides over a value, in order. -/
def applyOverrides (base : Value) : List (List Step × Value) → Except LoadError Value
  | [] => .ok base
  | (path, value) :: rest => do
    let merged ← place base path value
    applyOverrides merged rest

/-! ### Conversion -/

namespace Value

/-- The value as a text. -/
def toText : Value → Except LoadError String
  | string text => .ok text
  | int value => .ok (toString value)
  | float value => .ok value.toText
  | bool true => .ok "true"
  | bool false => .ok "false"
  | _ => .error .wrongType

/-- The value as a truth value. A number is true unless it is zero, and some words will do. -/
def toTruth : Value → Except LoadError Bool
  | bool value => .ok value
  | int value => .ok (value != 0)
  | float value => .ok (!value.isZero)
  | string text =>
    let word := Text.lowerCase text
    if ["1", "true", "on", "yes"].contains word then .ok true
    else if ["0", "false", "off", "no"].contains word then .ok false
    else .error .wrongType
  | _ => .error .wrongType

/-- The severity with a name, in any case. -/
def severityOf (name : String) : Except LoadError Severity :=
  match Severity.ofName? (Text.lowerCase name) with
  | some severity => .ok severity
  | none => .error .unsuitable

/-- The value as a severity: its name, or a table with its name as the only key. -/
def toSeverity : Value → Except LoadError Severity
  | string text => severityOf text
  | table [(key, _)] => severityOf key
  | _ => .error .unsuitable

/-- The part of a value that is at a key of a table, or else the item of a list. -/
def part? (value : Value) (index : Nat) (key : String) : Option Value :=
  match value with
  | list items => items[index]?
  | _ => value.get? key

end Value

/-- The settings of diagnostics that a value spells. What is missing is noticed last. -/
def diagnosticsOf (value : Value) : Except LoadError DiagnosticSettings := do
  let severity ← (value.part? 0 "linked_rule_severity").mapM Value.toSeverity
  let message ← (value.part? 1 "linked_rule_message").mapM Value.toText
  let report ← (value.part? 2 "report_parse_errors").mapM Value.toTruth
  match severity, message, report with
  | some severity, some message, some report => return ⟨severity, message, report⟩
  | _, _, _ => throw .unsuitable

/-- The level of logging that a value spells. -/
def levelOf (value : Value) : Except LoadError String :=
  match value.part? 0 "level" with
  | some level => level.toText
  | none => .error .unsuitable

/-- The settings that a table spells. -/
def ofValue (value : Value) : Except LoadError Settings := do
  match value.get? "diagnostics", value.get? "logging" with
  | some diagnostics, some logging => return ⟨← diagnosticsOf diagnostics, ← levelOf logging⟩
  | _, _ => throw .unsuitable

/-- The settings that the layers make. -/
def Loader.build (loader : Loader) : Except LoadError Settings := do
  let merged ← mergeSources defaults loader.sources
  ofValue (← applyOverrides merged loader.overrides)

/-- The settings of a server: those of an optional file, and over them those of a file that must
be there. If they cannot be built, all of them are the defaults. -/
def load (sources : List Source) : Settings :=
  match Loader.build { sources } with
  | .ok settings => settings
  | .error _ => {}

end FanServer.Settings
