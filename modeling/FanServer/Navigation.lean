import FanServer.Grammar.Names
import FanServer.Link

/-!
# From a name to its definition and references

In a grammar, names are resolved within the same document. In an action class, the name of a
method leads to the rule it implements in the linked grammar; references are not offered there.
-/

namespace FanServer

/-- A stretch of text of a document. -/
structure Location where
  /-- the document -/
  uri : Uri
  /-- the stretch of its text -/
  span : Span
  deriving DecidableEq, Repr

/-- The name of the rule that is denoted at an offset. -/
def Grammar.nameAt? (grammar : Grammar) (offset : Nat) : Option String :=
  (grammar.locate? offset).bind Node.name?

/-- Where the rule at the offset is defined. -/
def Model.definition? (model : Model) (uri : Uri) (link : Option Link) (offset : Nat) :
    Option Location :=
  match model with
  | .grammar g => do
    let name ← g.nameAt? offset
    let span ← g.definitionOf? name
    return ⟨uri, span⟩
  | .action a => do
    let method ← a.methodAt? offset
    let link ← link.bind Link.action?
    let rule ← link.rule? method.name
    return ⟨link.grammarUri, rule.span⟩

/-- Where the rule at the offset is defined and referred to, the definition first. There is no
answer where nothing is denoted, and an empty one for a name without definition. -/
def Model.references? (model : Model) (uri : Uri) (offset : Nat) : Option (List Location) :=
  match model with
  | .grammar g => do
    let name ← g.nameAt? offset
    return (g.referencesOf name).map fun span => ⟨uri, span⟩
  | .action _ => none

end FanServer
