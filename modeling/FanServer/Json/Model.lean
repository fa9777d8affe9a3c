import FanServer.Document
import FanServer.Json

/-!
# Syntax models as JSON

The form in which the model of a document is handed to an editor. Every node is an object with
its span; a missing part is `null`.
-/

namespace FanServer

/-- A span, as the object of its two ends. -/
def Span.toJson (span : Span) : Json :=
  .object [("start", .nat span.start), ("end", .nat span.stop)]

/-- The name of a marker. -/
def Marker.label : Marker → String
  | significant => "significant"
  | insignificant => "insignificant"

/-- The name of a form of literals. -/
def LiteralForm.label : LiteralForm → String
  | string => "string"
  | regex => "regex"

mutual

/-- An element. -/
def Rule.toJson : Rule → Json
  | ⟨kind, span, quantifier⟩ =>
    .object [("kind", kind.toJson), ("span", span.toJson),
      ("quantifier", Quantifier.optionToJson quantifier)]

/-- What an element is. -/
def RuleKind.toJson : RuleKind → Json
  | .sequence parts =>
    .object [("rule", .string "sequence"), ("parts", .array (Rule.listToJson parts))]
  | .marker marker => .object [("rule", .string "marker"), ("marker", .string marker.label)]
  | .reference target modifiers =>
    .object [("rule", .string "reference"), ("target", .string target),
      ("modifiers", .string modifiers)]
  | .literal form value =>
    .object [("rule", .string "literal"), ("form", .string form.label), ("value", .string value)]

/-- The elements of a sequence. -/
def Rule.listToJson : List Rule → List Json
  | [] => []
  | rule :: rules => rule.toJson :: Rule.listToJson rules

/-- A repetition, if there is one. -/
def Quantifier.optionToJson : Option Quantifier → Json
  | none => .null
  | some ⟨span, range, separator⟩ =>
    .object [("span", span.toJson), ("range", .string range),
      ("separator", Separator.optionToJson separator)]

/-- A separator, if there is one. -/
def Separator.optionToJson : Option Separator → Json
  | none => .null
  | some ⟨span, marker, rule⟩ =>
    .object [("span", span.toJson), ("marker", .string marker), ("rule", rule.toJson)]

end

/-- A definition. -/
def RuleDef.toJson (definition : RuleDef) : Json :=
  .object [
    ("name", .object [("text", .string definition.name.text),
      ("span", definition.name.span.toJson)]),
    ("span", definition.span.toJson),
    ("alternatives", .array (Rule.listToJson definition.alternatives))]

/-- The fields of a grammar. -/
def Grammar.jsonFields (grammar : Grammar) : List (String × Json) :=
  [("name", .string grammar.name), ("span", grammar.span.toJson),
    ("rules", .array (grammar.rules.map RuleDef.toJson))]

/-- The fields of an action class. -/
def Actions.jsonFields (actions : Actions) : List (String × Json) :=
  [("name", .string actions.name), ("span", actions.span.toJson),
    ("methods", .array (actions.methods.map fun method =>
      .object [("name", .string method.name), ("span", method.span.toJson)]))]

/-- A document; its type tells a grammar from an action class. -/
def Model.toJson : Model → Json
  | .grammar g => .object (("type", .string "grammar") :: g.jsonFields)
  | .action a => .object (("type", .string "action") :: a.jsonFields)

end FanServer
