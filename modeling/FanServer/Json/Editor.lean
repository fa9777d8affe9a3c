import FanServer.Editor
import FanServer.Json

/-!
# Editor values as JSON

What is missing is left out of an object, except for the version of an update.
-/

namespace FanServer.Editor

/-- A place. -/
def Position.toJson (p : Position) : Json :=
  .object [("line", .nat p.line.toNat), ("character", .nat p.character.toNat)]

/-- A range. -/
def Range.toJson (range : Range) : Json :=
  .object [("start", range.start.toJson), ("end", range.stop.toJson)]

/-- A location. -/
def Location.toJson (location : Location) : Json :=
  .object [("uri", .string location.uri.text), ("range", location.range.toJson)]

/-- The number of a kind of symbols: that of a class for a document, that of a method for what
it declares. -/
def symbolCode : OutlineKind → Nat
  | .container => 5
  | .definition => 6

mutual

/-- A symbol. -/
def Symbol.toJson : Symbol → Json
  | ⟨name, detail, kind, range, selection, children⟩ =>
    .object ([("name", .string name), ("kind", .nat (symbolCode kind)), ("range", range.toJson),
      ("selectionRange", selection.toJson)] ++
      (detail.map fun text => ("detail", Json.string text)).toList ++
      (if children.isEmpty then [] else [("children", .array (Symbol.listToJson children))]))

/-- Symbols. -/
def Symbol.listToJson : List Symbol → List Json
  | [] => []
  | symbol :: symbols => symbol.toJson :: Symbol.listToJson symbols

end

/-- A description. -/
def Hover.toJson (hover : Hover) : Json :=
  .object [
    ("contents", .object [("kind", .string "markdown"), ("value", .string hover.contents)]),
    ("range", hover.range.toJson)]

/-- What belongs to a diagnostic elsewhere. -/
def Related.toJson (related : Related) : Json :=
  .object [("location", related.location.toJson), ("message", .string related.message)]

/-- A diagnostic. -/
def Diagnostic.toJson (diagnostic : Diagnostic) : Json :=
  .object ([("range", diagnostic.range.toJson), ("severity", .nat diagnostic.severity.code),
    ("source", .string "fan"), ("message", .string diagnostic.message)] ++
    (diagnostic.related.map fun related =>
      ("relatedInformation", Json.array [related.toJson])).toList)

/-- The diagnostics of a document. -/
def Update.toJson (update : Update) : Json :=
  .object [("uri", .string update.uri.text), ("version", .ofOption Json.int update.version),
    ("diagnostics", .array (update.diagnostics.map Diagnostic.toJson))]

end FanServer.Editor
