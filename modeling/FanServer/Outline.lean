import FanServer.Link

/-!
# Outlines

The outline of a document is one container, for the grammar or the action class, with one entry
for each definition or method. An entry is **linked** when the link in force has a counterpart of
the same name. A link of the wrong side counts as none.

| document | detail of the container | detail of a linked entry |
|---|---|---|
| grammar | `Grammar`, or `Grammar ~~ A` | `:action` |
| action class | `Action`, or `Action ~~ G` | `:rule` |
-/

namespace FanServer

/-- The kinds of entries. -/
inductive OutlineKind where
  /-- the grammar or the action class itself -/
  | container
  /-- a definition or a method -/
  | definition
  deriving DecidableEq, Repr

/-- An entry of an outline and the entries below it. -/
structure OutlineEntry where
  /-- the name it is shown by -/
  label : String
  /-- what is shown beside the name -/
  detail : Option String
  /-- what it stands for -/
  kind : OutlineKind
  /-- the whole of what it stands for -/
  full : Span
  /-- the part to go to -/
  focus : Span
  /-- whether it has a counterpart -/
  linked : Bool
  /-- the entries below it -/
  children : List OutlineEntry

namespace OutlineEntry

/-- The entry for a whole document. -/
def ofDocument (label detail : String) (span : Span) (children : List OutlineEntry) :
    OutlineEntry :=
  ⟨label, some detail, .container, span, span, false, children⟩

/-- The entry for a definition or a method; a linked one has a detail. -/
def ofDeclaration (label : String) (full focus : Span) (linked : Option String) : OutlineEntry :=
  ⟨label, linked, .definition, full, focus, linked.isSome, []⟩

end OutlineEntry

/-- The outline of a grammar. -/
def Grammar.outline (grammar : Grammar) (link : Option Link) : OutlineEntry :=
  let link := link.bind Link.grammar?
  let detail := match link with
    | some link => "Grammar ~~ " ++ link.actionName
    | none => "Grammar"
  .ofDocument grammar.name detail grammar.span
    (grammar.rules.map fun definition =>
      let method := link.bind fun link => link.method? definition.name.text
      .ofDeclaration definition.name.text definition.span definition.name.span
        (method.map fun _ => ":action"))

/-- The outline of an action class. -/
def Actions.outline (actions : Actions) (link : Option Link) : OutlineEntry :=
  let link := link.bind Link.action?
  let detail := match link with
    | some link => "Action ~~ " ++ link.grammarName
    | none => "Action"
  .ofDocument actions.name detail actions.span
    (actions.methods.map fun method =>
      let rule := link.bind fun link => link.rule? method.name
      .ofDeclaration method.name method.span method.span (rule.map fun _ => ":rule"))

/-- The outline of a document. -/
def Model.outline (model : Model) (link : Option Link) : List OutlineEntry :=
  match model with
  | .grammar g => [g.outline link]
  | .action a => [a.outline link]

end FanServer
