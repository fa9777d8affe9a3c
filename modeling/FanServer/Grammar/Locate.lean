import FanServer.Grammar

/-!
# The node at an offset

`Grammar.locate?` finds the most specific node of a grammar that contains an offset.

* Definitions are tried in order, and a definition that starts after the offset ends the search.
* In the definition around the offset its name wins outright. Else its alternatives are searched
  depth first, and an element that starts after the offset **ends the search** without a result:
  the offset then lies between elements.
* A separator wins over the element it belongs to. A repeated group gives its separator where no
  part of the group contains the offset.
-/

namespace FanServer

/-- The smallest things an offset can point at. -/
inductive Node where
  /-- the name of a definition -/
  | ruleName (definition : RuleDef)
  /-- a marker, a reference or a literal -/
  | rule (element : Rule)
  /-- the separator of a repetition -/
  | separator (clause : Separator)

/-- Where the node stands. -/
def Node.span : Node → Span
  | ruleName definition => definition.name.span
  | rule element => element.span
  | separator clause => clause.span

/-- How far a search has come. -/
inductive Search where
  /-- nothing found yet: go on with the elements that follow -/
  | onward
  /-- the search is over, with or without a result -/
  | done (found : Option Node)

namespace Search

/-- The result of a search that has seen every element. -/
def found? : Search → Option Node
  | onward => none
  | done found => found

/-- Go on with another search if this one is not over. -/
def orElse (search : Search) (next : Unit → Search) : Search :=
  match search with
  | onward => next ()
  | done found => done found

end Search

namespace Rule

/-- The element's separator, if the offset lies in it. -/
def separatorAt? (rule : Rule) (offset : Nat) : Option Separator :=
  rule.separator?.filter fun separator => separator.span.contains offset

/-- The search of an element without parts. -/
def searchLeaf (rule : Rule) (offset : Nat) : Search :=
  if rule.span.contains offset then
    .done (some (match rule.separatorAt? offset with
      | some separator => .separator separator
      | none => .rule rule))
  else .onward

/-- What a sequence gives where no part of it contains the offset. -/
def searchSeparator (rule : Rule) (offset : Nat) : Search :=
  match rule.separatorAt? offset with
  | some separator => .done (some (.separator separator))
  | none => .onward

mutual

/-- Search an element. -/
def search (offset : Nat) : Rule → Search
  | ⟨kind, span, quantifier⟩ =>
    if offset < span.start then .done none
    else
      match kind with
      | .sequence parts =>
        (searchAll offset parts).orElse fun _ =>
          searchSeparator ⟨.sequence parts, span, quantifier⟩ offset
      | kind => searchLeaf ⟨kind, span, quantifier⟩ offset

/-- Search elements one after the other. -/
def searchAll (offset : Nat) : List Rule → Search
  | [] => .onward
  | rule :: rules => (search offset rule).orElse fun _ => searchAll offset rules

end

end Rule

/-- The node of a definition that contains the offset. -/
def RuleDef.locate? (definition : RuleDef) (offset : Nat) : Option Node :=
  if definition.name.span.contains offset then some (.ruleName definition)
  else (Rule.searchAll offset definition.alternatives).found?

/-- The node that contains the offset, in the first of the definitions around it. -/
def RuleDef.locateIn? (offset : Nat) : List RuleDef → Option Node
  | [] => none
  | definition :: definitions =>
    if offset < definition.span.start then none
    else if definition.span.contains offset then definition.locate? offset
    else locateIn? offset definitions

/-- The most specific node of the grammar that contains the offset. -/
def Grammar.locate? (grammar : Grammar) (offset : Nat) : Option Node :=
  RuleDef.locateIn? offset grammar.rules

end FanServer
