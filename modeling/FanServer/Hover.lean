import FanServer.Grammar.Names
import FanServer.Link

/-!
# Descriptions under the cursor

In a grammar the node at the cursor is described; in an action class, the method whose name the
cursor is on. A description stands at the span of what it describes.
-/

namespace FanServer

/-- A description and the stretch of text it describes. -/
structure Hover where
  /-- the description, in Markdown -/
  contents : String
  /-- what it describes -/
  span : Span
  deriving DecidableEq, Repr

/-- What an element is, in words, its repetition apart. -/
def RuleKind.describe : RuleKind → String
  | .sequence _ => "group"
  | .marker .significant => "significant whitespace `+`"
  | .marker .insignificant => "insignificant whitespace `-`"
  | .reference target modifiers =>
    if modifiers.isEmpty then "ref to `" ++ target ++ "`"
    else "ref to `" ++ target ++ "` with modifiers `" ++ modifiers ++ "`"
  | .literal .string value => "string literal `" ++ value ++ "`"
  | .literal .regex value => "regex literal `/" ++ value ++ "/`"

/-- What an element is, in words. -/
def Rule.describe (rule : Rule) : String :=
  match rule.quantifier with
  | none => rule.kind.describe
  | some quantifier => rule.kind.describe ++ ", repeated `(" ++ quantifier.range ++ ")`"

/-- What a node is, in words. The name of a rule mentions the method that implements it. -/
def Node.describe (link : Option GrammarLink) : Node → String
  | .ruleName definition =>
    let name := definition.name.text
    match link.bind fun link => link.method? name with
    | none => "rule `" ++ name ++ "`"
    | some method => "rule `" ++ name ++ "`\n\nhas action method `" ++ method.name ++ "()`"
  | .separator clause => "separator `" ++ clause.marker ++ "` around " ++ clause.rule.describe
  | .rule element => element.describe

/-- What a method is, in words. It mentions the rule it implements. -/
def Method.describe (link : Option ActionLink) (method : Method) : String :=
  match link.bind fun link => (link.rule? method.name).map fun _ => link.grammarName with
  | none => "method `" ++ method.name ++ "`"
  | some grammarName =>
    "method `" ++ method.name ++ "`\n\nimplements rule `" ++ method.name ++ "` of `" ++
      grammarName ++ "`"

/-- The description of what is at an offset. -/
def Model.hover? (model : Model) (link : Option Link) (offset : Nat) : Option Hover :=
  match model with
  | .grammar g =>
    (g.locate? offset).map fun node => ⟨node.describe (link.bind Link.grammar?), node.span⟩
  | .action a =>
    (a.methodAt? offset).map fun method =>
      ⟨method.describe (link.bind Link.action?), method.span⟩

end FanServer
