import FanServer.Span

/-!
# The model of a grammar document

A grammar document declares a name and a list of rule definitions. A definition has one or more
alternatives, and an alternative is a sequence of **elements**: white space markers, references
to rules, literals and bracketed groups, each of which may be repeated.

| node | its span covers |
|---|---|
| grammar | the whole text |
| definition | the name through the end of the last alternative |
| element | the element itself, its quantifier and the quantifier's separator |
| quantifier | the parenthesised range and the separator |
| separator | the `%` or `%%` and the element after it |

A definition's name has a span of its own, because answers point at the name and never at the
body.
-/

namespace FanServer

/-- A name and where it stands. -/
structure Identifier where
  /-- the name -/
  text : String
  /-- where it stands -/
  span : Span
  deriving DecidableEq, Repr

/-- A marker for white space between elements. -/
inductive Marker where
  /-- `+`: there must be white space -/
  | significant
  /-- `-`: there may be white space -/
  | insignificant
  deriving DecidableEq, Repr

/-- The sign a marker is written with. -/
def Marker.symbol : Marker → String
  | significant => "+"
  | insignificant => "-"

/-- The two ways to write literal text. -/
inductive LiteralForm where
  /-- text in quotes -/
  | string
  /-- a pattern between slashes -/
  | regex
  deriving DecidableEq, Repr

mutual

/-- An element of a rule, with its repetition if it has one. -/
structure Rule where
  /-- what the element is -/
  kind : RuleKind
  /-- where it stands, repetition included -/
  span : Span
  /-- how it is repeated -/
  quantifier : Option Quantifier

/-- What an element is. -/
inductive RuleKind where
  /-- one element after another: an alternative or a bracketed group -/
  | sequence (parts : List Rule)
  /-- a white space marker -/
  | marker (marker : Marker)
  /-- the name of a rule, with the modifiers written before it -/
  | reference (target modifiers : String)
  /-- literal text, without its delimiters -/
  | literal (form : LiteralForm) (value : String)

/-- A repetition such as `(s?)`. -/
structure Quantifier where
  /-- where the repetition stands, its separator included -/
  span : Span
  /-- the text between the parentheses, without the blanks around it -/
  range : String
  /-- what stands between two repetitions -/
  separator : Option Separator

/-- The clause `% x` or `%% x` of a repetition. -/
structure Separator where
  /-- where the clause stands, its marker included -/
  span : Span
  /-- the sign that introduces it -/
  marker : String
  /-- the element between two repetitions -/
  rule : Rule

end

/-- A named rule. -/
structure RuleDef where
  /-- the name -/
  name : Identifier
  /-- the name through the end of the last alternative -/
  span : Span
  /-- the alternatives, each a sequence -/
  alternatives : List Rule

/-- A grammar document. The names of its rules need not be different. -/
structure Grammar where
  /-- the declared name -/
  name : String
  /-- the whole text -/
  span : Span
  /-- the definitions in the order of the text -/
  rules : List RuleDef

namespace Rule

/-- An element of a kind, not repeated. -/
def plain (kind : RuleKind) (span : Span) : Rule :=
  ⟨kind, span, none⟩

/-- The element repeated by a quantifier that follows it, over which its span is widened. -/
def repeated (rule : Rule) (quantifier : Quantifier) : Rule :=
  ⟨rule.kind, rule.span.join quantifier.span, some quantifier⟩

/-- The element has no parts: it is no sequence. -/
def isLeaf (rule : Rule) : Bool :=
  match rule.kind with
  | .sequence _ => false
  | _ => true

/-- The parts of a sequence; any other element has none. -/
def parts (rule : Rule) : List Rule :=
  match rule.kind with
  | .sequence parts => parts
  | _ => []

/-- The name an element refers to, if it is a reference. -/
def target? (rule : Rule) : Option String :=
  match rule.kind with
  | .reference target _ => some target
  | _ => none

/-- The separator of the element's quantifier. -/
def separator? (rule : Rule) : Option Separator :=
  rule.quantifier.bind Quantifier.separator

end Rule

/-- The names of the rules in the order of their definitions. -/
def Grammar.ruleNames (grammar : Grammar) : List String :=
  grammar.rules.map fun definition => definition.name.text

end FanServer
