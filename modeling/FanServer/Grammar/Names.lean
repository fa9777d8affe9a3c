import FanServer.Grammar.Locate

/-!
# Names

A node may denote a rule: a definition by its name, a reference by its target, a separator by the
reference in it. Names are resolved within one grammar, and of several definitions of a name
**the first** counts.

A node that denotes nothing and a name that is not defined are different outcomes: the first has
no name at all, the second has a name without definition or references.
-/

namespace FanServer

/-- The name of the rule that a node denotes. -/
def Node.name? : Node → Option String
  | ruleName definition => some definition.name.text
  | rule element => element.target?
  | separator clause => clause.rule.target?

namespace Rule

mutual

/-- The element and every element inside it, in the order of the text: a sequence before its
parts, and an element before the one in its separator. -/
def walk : Rule → List Rule
  | ⟨kind, span, quantifier⟩ =>
    ⟨kind, span, quantifier⟩ :: (walkKind kind ++ walkQuantifier quantifier)

/-- The elements inside an element of a kind, those of its separator apart. -/
def walkKind : RuleKind → List Rule
  | .sequence parts => walkAll parts
  | .marker _ => []
  | .reference _ _ => []
  | .literal _ _ => []

/-- The elements in the separator of a repetition. -/
def walkQuantifier : Option Quantifier → List Rule
  | some ⟨_, _, some ⟨_, _, rule⟩⟩ => walk rule
  | _ => []

/-- The elements of a list and every element inside them. -/
def walkAll : List Rule → List Rule
  | [] => []
  | rule :: rules => walk rule ++ walkAll rules

end

end Rule

namespace Grammar

/-- Every element of every definition, in the order of the text. -/
def walk (grammar : Grammar) : List Rule :=
  grammar.rules.flatMap fun definition => Rule.walkAll definition.alternatives

/-- The first definition of a name. -/
def rule? (grammar : Grammar) (name : String) : Option RuleDef :=
  grammar.rules.find? fun definition => definition.name.text == name

/-- Where the first definition of a name has that name. -/
def definitionOf? (grammar : Grammar) (name : String) : Option Span :=
  (grammar.rule? name).map fun definition => definition.name.span

/-- The name in its definition and then every reference to it, in the order of the text. A name
without definition has none. -/
def referencesOf (grammar : Grammar) (name : String) : List Span :=
  match grammar.definitionOf? name with
  | none => []
  | some definition =>
    definition ::
      (grammar.walk.filter fun rule => rule.target? == some name).map fun rule => rule.span

end Grammar

end FanServer
