import FanServer.Document
import FanServer.Uri

/-!
# Links between a grammar and its action class

A grammar is paired with at most one action class, and an action class with at most one grammar.
A link names the partner by its address and indexes the partner's declarations by name, so that
nothing of the partner's text is needed to answer a question. Of several declarations of a name
**the first** is in the index.
-/

namespace FanServer

/-- Declarations by name. No name occurs twice, and names come in the order of their first
declaration. -/
abbrev NameIndex (α : Type) : Type :=
  List (String × α)

namespace NameIndex

variable {α : Type}

/-- The declaration of a name. -/
def get? (index : NameIndex α) (name : String) : Option α :=
  (index.find? fun entry => entry.1 == name).map Prod.snd

/-- Add a declaration at the end, unless its name is declared already. -/
def declare (index : NameIndex α) (name : String) (value : α) : NameIndex α :=
  if (index.get? name).isSome then index else index ++ [(name, value)]

/-- The index of a list of declarations. -/
def ofList (declarations : List (String × α)) : NameIndex α :=
  declarations.foldl (fun index entry => index.declare entry.1 entry.2) []

end NameIndex

/-- The link a grammar holds to an action class. -/
structure GrammarLink where
  /-- the address of the action class -/
  actionUri : Uri
  /-- the declared name of the action class -/
  actionName : String
  /-- the methods by name -/
  methods : NameIndex Method
  deriving DecidableEq, Repr

/-- The link an action class holds to a grammar. -/
structure ActionLink where
  /-- the address of the grammar -/
  grammarUri : Uri
  /-- the declared name of the grammar -/
  grammarName : String
  /-- the names in the definitions of the grammar's rules, by name -/
  rules : NameIndex Identifier
  deriving DecidableEq, Repr

/-- A link of either side. -/
inductive Link where
  /-- held by a grammar -/
  | grammar (link : GrammarLink)
  /-- held by an action class -/
  | action (link : ActionLink)
  deriving DecidableEq, Repr

/-- The link to an action class. -/
def GrammarLink.ofActions (uri : Uri) (actions : Actions) : GrammarLink :=
  ⟨uri, actions.name, .ofList (actions.methods.map fun method => (method.name, method))⟩

/-- The method that implements a rule. -/
def GrammarLink.method? (link : GrammarLink) (ruleName : String) : Option Method :=
  link.methods.get? ruleName

/-- The link to a grammar. -/
def ActionLink.ofGrammar (uri : Uri) (grammar : Grammar) : ActionLink :=
  ⟨uri, grammar.name,
    .ofList (grammar.rules.map fun definition => (definition.name.text, definition.name))⟩

/-- The name, in its definition, of the rule that a method implements. -/
def ActionLink.rule? (link : ActionLink) (methodName : String) : Option Identifier :=
  link.rules.get? methodName

namespace Link

/-- The link as one that a grammar holds. -/
def grammar? : Link → Option GrammarLink
  | grammar link => some link
  | action _ => none

/-- The link as one that an action class holds. -/
def action? : Link → Option ActionLink
  | grammar _ => none
  | action link => some link

/-- The link to a document: the partner of an action class is a grammar, and the other way
around. -/
def ofModel (uri : Uri) : Model → Link
  | .grammar g => .action (.ofGrammar uri g)
  | .action a => .grammar (.ofActions uri a)

end Link

end FanServer
