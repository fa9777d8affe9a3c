import FanServer.Grammar
import FanServer.Text.Blank
import FanServer.Token.Scan

/-!
# Parsing grammar documents

The notation is read by recursive descent over the tokens:

    document    := 'unit' 'grammar' name ';' ruledef*
    name        := word ('::' word)*
    ruledef     := word ':' alternative ('|' alternative)*
    alternative := item*
    item        := term (range (('%%' | '%') term)?)?
    term        := '+' | '-' | word | string | regex | '[' item* ']'

An alternative ends at `|`, at `]`, at the end of the text, and where the next definition begins:
at a word directly followed by `:`. The word that names a rule has no modifiers, and a range must
touch the term it repeats. Groups nest at most `maxNesting` deep.

Each reader takes the tokens that are left and gives back those it leaves. A loop over a reader
goes on **only while tokens are used up**, which every reader of something that is never empty
does; so all loops end.
-/

namespace FanServer

/-- How many groups may be open at once. -/
def maxNesting : Nat := 64

namespace Parse

/-- A reader of an `α`: what it reads at the beginning of the tokens, with the tokens it leaves. -/
abbrev Reader (α : Type) : Type :=
  List Token → Except SyntaxError (α × List Token)

/-- Read a token of a given kind; `stop` is where the text ends. -/
def expect (stop : Nat) (kind : TokenKind) (expected : Expectation) : Reader Token
  | [] => .error (.unexpectedEnd expected stop)
  | t :: rest =>
    if t.kind = kind then .ok (t, rest) else .error (.unexpectedToken expected t.text t.span)

/-! ### Elements -/

/-- The text of a token without its first and last characters. -/
def inside (text : String) : List Char :=
  (text.toList.drop 1).dropLast

/-- The element that a token is by itself, if it is one. -/
def leafKind? (t : Token) : Option RuleKind :=
  match t.kind with
  | .plus => some (.marker .significant)
  | .minus => some (.marker .insignificant)
  | .word =>
    some (.reference (String.ofList (t.text.toList.dropWhile Text.isModifier))
      (String.ofList (t.text.toList.takeWhile Text.isModifier)))
  | .stringLiteral => some (.literal .string (String.ofList (inside t.text)))
  | .regexLiteral => some (.literal .regex (String.ofList (inside t.text)))
  | _ => none

/-- The tokens begin where an alternative ends. -/
def endsItems : List Token → Bool
  | [] => true
  | t :: rest =>
    match t.kind with
    | .pipe => true
    | .closeBracket => true
    | .word =>
      match rest with
      | next :: _ => next.kind = .colon
      | [] => false
    | _ => false

/-- The token introduces a separator. -/
def isSeparatorMarker (t : Token) : Bool :=
  t.kind = .percent || t.kind = .doublePercent

/-- Read the separator of a repetition, if there is one. -/
def separator (term : Reader Rule) : Reader (Option Separator)
  | [] => .ok (none, [])
  | t :: rest =>
    if isSeparatorMarker t then
      match term rest with
      | .error e => .error e
      | .ok (rule, left) => .ok (some ⟨⟨t.span.start, rule.span.stop⟩, t.text, rule⟩, left)
    else .ok (none, t :: rest)

/-- The quantifier that a range and the separator after it make. -/
def quantifierOf (range : Token) (separator : Option Separator) : Quantifier :=
  let span := match separator with
    | some clause => ⟨range.span.start, clause.span.stop⟩
    | none => range.span
  ⟨span, String.ofList (Text.trimBlank (inside range.text)), separator⟩

/-- Read a term and its repetition, if it has one. -/
def item (term : Reader Rule) : Reader Rule := fun ts =>
  match term ts with
  | .error e => .error e
  | .ok (rule, []) => .ok (rule, [])
  | .ok (rule, t :: rest) =>
    if t.kind = .quantifier then
      if t.span.start = rule.span.stop then
        match separator term rest with
        | .error e => .error e
        | .ok (clause, left) => .ok (rule.repeated (quantifierOf t clause), left)
      else .error (.detachedQuantifier t.span)
    else .ok (rule, t :: rest)

/-- Read items up to the end of an alternative or a group. -/
def items (term : Reader Rule) (ts : List Token) : Except SyntaxError (List Rule × List Token) :=
  if endsItems ts then .ok ([], ts)
  else
    match item term ts with
    | .error e => .error e
    | .ok (rule, rest) =>
      if rest.length < ts.length then
        match items term rest with
        | .error e => .error e
        | .ok (rules, left) => .ok (rule :: rules, left)
      else .ok ([rule], rest)
termination_by ts.length

/-- Read a term. `levels` more groups may be opened inside each other. -/
def term (stop : Nat) (levels : Nat) : Reader Rule
  | [] => .error (.unexpectedEnd .ruleElement stop)
  | t :: rest =>
    match leafKind? t with
    | some kind => .ok (.plain kind t.span, rest)
    | none =>
      if t.kind = .openBracket then
        match levels with
        | 0 => .error (.nestingTooDeep maxNesting t.span)
        | inner + 1 =>
          match items (term stop inner) rest with
          | .error e => .error e
          | .ok (parts, left) =>
            match expect stop .closeBracket .closeBracket left with
            | .error e => .error e
            | .ok (close, left') =>
              .ok (.plain (.sequence parts) ⟨t.span.start, close.span.stop⟩, left')
      else .error (.unexpectedToken .ruleElement t.text t.span)

/-! ### Definitions -/

/-- The span of an alternative: that of its parts, or nothing at all right after the sign that
introduces it. -/
def alternativeSpan (anchor : Nat) (parts : List Rule) : Span :=
  match parts.head?, parts.getLast? with
  | some first, some last => ⟨first.span.start, last.span.stop⟩
  | _, _ => ⟨anchor, anchor⟩

/-- Read an alternative that is introduced by a sign ending at `anchor`. -/
def alternative (stop anchor : Nat) : Reader Rule := fun ts => do
  let (parts, rest) ← items (term stop maxNesting) ts
  return (.plain (.sequence parts) (alternativeSpan anchor parts), rest)

/-- Read alternatives separated by `|`, the first of them introduced by a sign ending at
`anchor`. -/
def alternatives (stop anchor : Nat) (ts : List Token) :
    Except SyntaxError (List Rule × List Token) :=
  match alternative stop anchor ts with
  | .error e => .error e
  | .ok (first, []) => .ok ([first], [])
  | .ok (first, t :: rest) =>
    if t.kind = .pipe ∧ rest.length < ts.length then
      match alternatives stop t.span.stop rest with
      | .error e => .error e
      | .ok (others, left) => .ok (first :: others, left)
    else .ok ([first], t :: rest)
termination_by ts.length

/-- Where a definition ends: with its last alternative, or with its colon. -/
def definitionStop (colonStop : Nat) (alternatives : List Rule) : Nat :=
  (alternatives.map fun rule => rule.span.stop).foldl max colonStop

/-- Read the name of a rule that is being defined. -/
def ruleName (stop : Nat) : Reader Identifier := fun ts => do
  let (t, rest) ← expect stop .word .ruleName ts
  if t.text.toList.head?.any Text.isModifier then
    throw (.unexpectedToken .ruleName t.text t.span)
  return (⟨t.text, t.span⟩, rest)

/-- Read a definition. -/
def ruleDef (stop : Nat) : Reader RuleDef := fun ts => do
  let (name, afterName) ← ruleName stop ts
  let (colon, afterColon) ← expect stop .colon .colon afterName
  let (rules, rest) ← alternatives stop colon.span.stop afterColon
  return (⟨name, ⟨name.span.start, definitionStop colon.span.stop rules⟩, rules⟩, rest)

/-- Read definitions until no token is left. -/
def ruleDefs (stop : Nat) (ts : List Token) : Except SyntaxError (List RuleDef) :=
  if ts.isEmpty then .ok []
  else
    match ruleDef stop ts with
    | .error e => .error e
    | .ok (definition, rest) =>
      if rest.length < ts.length then
        match ruleDefs stop rest with
        | .error e => .error e
        | .ok definitions => .ok (definition :: definitions)
      else .ok [definition]
termination_by ts.length

/-! ### The declaration -/

/-- Read a word that must be the given one. -/
def keyword (text : String) (ts : List Token) : Except SyntaxError (List Token) :=
  match ts with
  | t :: rest => if t.kind = .word ∧ t.text = text then .ok rest else .error .missingHeader
  | [] => .error .missingHeader

/-- Read the segments after the first word of the grammar's name, which ends at `nameStop`, and
say where the name ends. -/
def nameSegments (stop nameStop : Nat) (ts : List Token) :
    Except SyntaxError (Nat × List Token) :=
  match ts with
  | [] => .ok (nameStop, [])
  | t :: rest =>
    if t.kind = .doubleColon then
      match expect stop .word .nameSegment rest with
      | .error e => .error e
      | .ok (segment, _) => nameSegments stop segment.span.stop (rest.drop 1)
    else .ok (nameStop, t :: rest)
termination_by ts.length
decreasing_by simp only [List.length_drop, List.length_cons]; omega

/-- Read the declaration, and give the span of the grammar's name. -/
def header (stop : Nat) : Reader Span := fun ts => do
  let afterUnit ← keyword "unit" ts
  let afterGrammar ← keyword "grammar" afterUnit
  let (first, afterFirst) ← expect stop .word .grammarName afterGrammar
  let (nameStop, afterName) ← nameSegments stop first.span.stop afterFirst
  let (_, rest) ← expect stop .semicolon .semicolon afterName
  return (⟨first.span.start, nameStop⟩, rest)

end Parse

/-- The model of a grammar document. Its name is the text of the declaration from the first
segment through the last, whatever stands between them. -/
def Grammar.parse (text : String) : Except SyntaxError Grammar := do
  let stop := Text.byteCount text.toList
  let tokens ← Token.scan text
  let (name, rest) ← Parse.header stop tokens
  let rules ← Parse.ruleDefs stop rest
  return ⟨String.ofList (Text.slice text.toList name), ⟨0, stop⟩, rules⟩

end FanServer
