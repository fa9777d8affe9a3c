import FanServer.Document
import FanServer.Text.Position

/-!
# Reading with every operation checked

Spans, slices, differences and indices are not defined for everything that they could be given: a
span may not end before it begins, a slice may not cut through a character. The program never asks
whether that is so. Here everything is read once more **with each of these operations checked**, and
each text is taken from the document by its span, wherever it is used.

* `Fault` — an operation that is not defined for what it was given;
* `Checked.span`, `Checked.slice`, `Checked.minus`, `Checked.lookup` — the operations;
* `Checked.Run` — a reader that can come to a result, a syntax error, or a fault;
* `Checked.parse`, `Checked.positionsOf` — the whole of a document, and the places of a span in it.
-/

namespace FanServer

/-- An operation that is not defined for what it was given. -/
inductive Fault where
  /-- a span that ends before it begins -/
  | reversed (bounds : Span.Reversed)
  /-- a slice whose ends are not in order, not in the text or not between characters -/
  | slice (start stop : Nat)
  /-- a difference below zero -/
  | below (a b : Nat)
  /-- an index past the end -/
  | index (place size : Nat)
  deriving DecidableEq, Repr

namespace Checked

/-! ### Operations -/

/-- The span between two offsets. -/
def span (start stop : Nat) : Except Fault Span :=
  match Span.ofBounds start stop with
  | .ok span => .ok span
  | .error bounds => .error (.reversed bounds)

/-- The smallest span around two. -/
def join (s t : Span) : Except Fault Span :=
  span (min s.start t.start) (max s.stop t.stop)

/-- The characters between two offsets. -/
def slice (cs : List Char) (start stop : Nat) : Except Fault (List Char) :=
  match Text.slice? cs ⟨start, stop⟩ with
  | some part => .ok part
  | none => .error (.slice start stop)

/-- The difference of two numbers. -/
def minus (a b : Nat) : Except Fault Nat :=
  if b ≤ a then .ok (a - b) else .error (.below a b)

/-- The number at a place. -/
def lookup (numbers : Array Nat) (place : Nat) : Except Fault Nat :=
  match numbers[place]? with
  | some number => .ok number
  | none => .error (.index place numbers.size)

/-- A computation that comes to a result or to a syntax error, unless there is a fault. -/
abbrev Run (α : Type) : Type :=
  ExceptT SyntaxError (Except Fault) α

/-- A reader of an `α` with every operation checked. -/
abbrev Reader (α : Type) : Type :=
  List Token → Run (α × List Token)

/-! ### Tokens -/

/-- The tokens of the part `cs` of a text, which begins at `offset`. -/
def scanFrom (text : List Char) (offset : Nat) (cs : List Char) : Run (List Token) :=
  match cs with
  | [] => return []
  | c :: rest =>
    if Text.isLayout c then scanFrom text (offset + c.utf8Size) rest
    else if c = '#' then
      scanFrom text (offset + c.utf8Size + Text.byteCount (rest.takeWhile isCommentChar))
        (rest.dropWhile isCommentChar)
    else
      match _h : nextLexeme c rest with
      | .token kind found left => do
        let place ← span offset (offset + Text.byteCount found)
        let tokens ← scanFrom text place.stop left
        return ⟨kind, place, String.ofList found⟩ :: tokens
      | .stuck found => do
        let place ← span offset (offset + Text.byteCount found)
        let found ← slice text place.start place.stop
        throw (.unexpectedCharacter (String.ofList found) place)
termination_by cs.length
decreasing_by
  · simp
  · have := (List.dropWhile_suffix isCommentChar (l := rest)).length_le
    simp only [List.length_cons]
    omega
  · exact nextLexeme_length _h

variable (text : List Char) (stop : Nat)

/-- The text of a token. -/
def textOf (t : Token) : Except Fault String := do
  let found ← slice text t.span.start t.span.stop
  return String.ofList found

/-- The text of a token without its delimiters of one byte. -/
def inside (t : Token) : Except Fault (List Char) := do
  let close ← minus t.span.stop 1
  slice text (t.span.start + 1) close

/-- Read a token of a given kind. -/
def expect (kind : TokenKind) (expected : Expectation) : Reader Token
  | [] => throw (.unexpectedEnd expected stop)
  | t :: rest =>
    if t.kind = kind then return (t, rest)
    else do
      let found ← textOf text t
      throw (.unexpectedToken expected found t.span)

/-! ### Elements -/

/-- The element that a token is by itself, if it is one. -/
def leafKind? (t : Token) : Except Fault (Option RuleKind) :=
  match t.kind with
  | .plus => return some (.marker .significant)
  | .minus => return some (.marker .insignificant)
  | .word => do
    let word ← slice text t.span.start t.span.stop
    let target := word.dropWhile Text.isModifier
    let cut ← minus (Text.byteCount word) (Text.byteCount target)
    let modifiers ← slice word 0 cut
    return some (.reference (String.ofList target) (String.ofList modifiers))
  | .stringLiteral => do
    let value ← inside text t
    return some (.literal .string (String.ofList value))
  | .regexLiteral => do
    let value ← inside text t
    return some (.literal .regex (String.ofList value))
  | _ => return none

/-- Read the separator of a repetition, if there is one. -/
def separator (term : Reader Rule) : Reader (Option Separator)
  | [] => return (none, [])
  | t :: rest =>
    if Parse.isSeparatorMarker t then do
      let (rule, left) ← term rest
      let place ← span t.span.start rule.span.stop
      let marker ← textOf text t
      return (some ⟨place, marker, rule⟩, left)
    else return (none, t :: rest)

/-- The element repeated by a range and the separator after it. -/
def repeated (rule : Rule) (range : Token) (body : List Char) (clause : Option Separator) :
    Except Fault Rule := do
  let place ← match clause with
    | some clause => span range.span.start clause.span.stop
    | none => .ok range.span
  let whole ← join rule.span place
  return ⟨rule.kind, whole, some ⟨place, String.ofList (Text.trimBlank body), clause⟩⟩

/-- Read a term and its repetition, if it has one. -/
def item (term : Reader Rule) : Reader Rule := fun ts => do
  let (rule, rest) ← term ts
  match rest with
  | [] => return (rule, [])
  | t :: rest =>
    if t.kind = .quantifier then
      if t.span.start = rule.span.stop then
        let body ← inside text t
        let (clause, left) ← separator text term rest
        let whole ← repeated rule t body clause
        return (whole, left)
      else throw (.detachedQuantifier t.span)
    else return (rule, t :: rest)

/-- Read items up to the end of an alternative or a group. -/
def items (term : Reader Rule) (ts : List Token) : Run (List Rule × List Token) :=
  if Parse.endsItems ts then return ([], ts)
  else do
    let (rule, rest) ← item text term ts
    if rest.length < ts.length then
      let (rules, left) ← items term rest
      return (rule :: rules, left)
    else return ([rule], rest)
termination_by ts.length

/-- Read a term. `levels` more groups may be opened inside each other. -/
def term (levels : Nat) : Reader Rule
  | [] => throw (.unexpectedEnd .ruleElement stop)
  | t :: rest => do
    match ← leafKind? text t with
    | some kind => return (.plain kind t.span, rest)
    | none =>
      if t.kind = .openBracket then
        match levels with
        | 0 => throw (.nestingTooDeep maxNesting t.span)
        | inner + 1 => do
          let (parts, left) ← items text (term inner) rest
          let (close, left) ← expect text stop .closeBracket .closeBracket left
          let place ← span t.span.start close.span.stop
          return (.plain (.sequence parts) place, left)
      else do
        let found ← textOf text t
        throw (.unexpectedToken .ruleElement found t.span)

/-! ### Definitions -/

/-- The span of an alternative. -/
def alternativeSpan (anchor : Nat) (parts : List Rule) : Except Fault Span :=
  match parts.head?, parts.getLast? with
  | some first, some last => span first.span.start last.span.stop
  | _, _ => span anchor anchor

/-- Read an alternative that is introduced by a sign ending at `anchor`. -/
def alternative (anchor : Nat) : Reader Rule := fun ts => do
  let (parts, rest) ← items text (term text stop maxNesting) ts
  let place ← alternativeSpan anchor parts
  return (.plain (.sequence parts) place, rest)

/-- Read alternatives separated by `|`. -/
def alternatives (anchor : Nat) (ts : List Token) : Run (List Rule × List Token) := do
  let (first, rest) ← alternative text stop anchor ts
  match rest with
  | [] => return ([first], [])
  | t :: rest =>
    if t.kind = .pipe ∧ rest.length < ts.length then
      let (others, left) ← alternatives t.span.stop rest
      return (first :: others, left)
    else return ([first], t :: rest)
termination_by ts.length

/-- Read the name of a rule that is being defined. -/
def ruleName : Reader Identifier := fun ts => do
  let (t, rest) ← expect text stop .word .ruleName ts
  let name ← textOf text t
  if name.toList.head?.any Text.isModifier then
    throw (.unexpectedToken .ruleName name t.span)
  return (⟨name, t.span⟩, rest)

/-- Read a definition. -/
def ruleDef : Reader RuleDef := fun ts => do
  let (name, afterName) ← ruleName text stop ts
  let (colon, afterColon) ← expect text stop .colon .colon afterName
  let (rules, rest) ← alternatives text stop colon.span.stop afterColon
  let place ← span name.span.start (Parse.definitionStop colon.span.stop rules)
  return (⟨name, place, rules⟩, rest)

/-- Read definitions until no token is left. -/
def ruleDefs (ts : List Token) : Run (List RuleDef) :=
  if ts.isEmpty then return []
  else do
    let (definition, rest) ← ruleDef text stop ts
    if rest.length < ts.length then
      let definitions ← ruleDefs rest
      return definition :: definitions
    else return [definition]
termination_by ts.length

/-! ### The declaration -/

/-- Read a word that must be the given one. -/
def keyword (word : String) (ts : List Token) : Run (List Token) :=
  match ts with
  | t :: rest =>
    if t.kind = .word then do
      let found ← textOf text t
      if found = word then return rest else throw .missingHeader
    else throw .missingHeader
  | [] => throw .missingHeader

/-- Read the segments after the first word of the grammar's name. -/
def nameSegments (nameStop : Nat) (ts : List Token) : Run (Nat × List Token) :=
  match ts with
  | [] => return (nameStop, [])
  | t :: rest =>
    if t.kind = .doubleColon then do
      let (segment, _) ← expect text stop .word .nameSegment rest
      nameSegments segment.span.stop (rest.drop 1)
    else return (nameStop, t :: rest)
termination_by ts.length
decreasing_by simp only [List.length_drop, List.length_cons]; omega

/-- Read the declaration, and give the grammar's name. -/
def header : Reader String := fun ts => do
  let afterUnit ← keyword text "unit" ts
  let afterGrammar ← keyword text "grammar" afterUnit
  let (first, afterFirst) ← expect text stop .word .grammarName afterGrammar
  let (nameStop, afterName) ← nameSegments text stop first.span.stop afterFirst
  let (_, rest) ← expect text stop .semicolon .semicolon afterName
  let name ← slice text first.span.start nameStop
  return (String.ofList name, rest)

/-! ### Documents -/

/-- The model of a grammar document. -/
def grammar (text : String) : Run Grammar := do
  let stop := Text.byteCount text.toList
  let tokens ← scanFrom text.toList 0 text.toList
  let (name, rest) ← header text.toList stop tokens
  let rules ← ruleDefs text.toList stop rest
  let place ← span 0 stop
  return ⟨name, place, rules⟩

/-- The method declared by a line of a text, if it declares one. -/
def method? (text : List Char) (line : Text.Line) : Except Fault (Option Method) :=
  match Method.declared? line.chars with
  | none => return none
  | some (before, name) => do
    let start := line.start + Text.byteCount before
    let place ← span start (start + Text.byteCount name)
    let name ← slice text place.start place.stop
    return some ⟨String.ofList name, place⟩

/-- The methods that lines of a text declare, in order. -/
def methods (text : List Char) : List Text.Line → Except Fault (List Method)
  | [] => return []
  | line :: lines => do
    let first ← method? text line
    let others ← methods text lines
    return first.toList ++ others

/-- The action class a text declares, if it declares one. -/
def actions? (text : String) : Except Fault (Option Actions) :=
  match Header.actionsName? text with
  | none => return none
  | some name => do
    let place ← span 0 (Text.byteCount text.toList)
    let methods ← methods text.toList (Text.lines text)
    return some ⟨name, place, methods⟩

/-- The model of a text, with every operation checked. -/
def parse (text : String) : Run (Option Model) :=
  match Header.kind? text with
  | some .grammar => do
    let grammar ← grammar text
    return some (.grammar grammar)
  | some .action => do
    let actions ← actions? text
    return actions.map .action
  | none => return none

/-- The place an error points at, if it has one. -/
def errorSpan? : SyntaxError → Except Fault (Option Span)
  | .unexpectedEnd _ offset => do
    let place ← span offset offset
    return some place
  | e => return e.span?

/-! ### Places -/

/-- Where a number is among increasing ones, or else where it would have to be put in. -/
def search (numbers : Array Nat) (number : Nat) : Except Nat Nat :=
  match numbers.toList.idxOf? number with
  | some place => .ok place
  | none => .error (numbers.toList.countP (· < number))

/-- Go back from an offset to the next boundary. -/
def clamp (cs : List Char) (offset : Nat) : Except Fault Nat :=
  if Text.isBoundary cs offset then .ok offset
  else
    match offset with
    | 0 => .error (.below 0 1)
    | before + 1 => clamp cs before

/-- The line and column of an offset. -/
def positionAt (index : LineIndex) (offset : Nat) : Except Fault Position := do
  let offset ← clamp index.text (min offset index.length)
  let line ← match search index.starts offset with
    | .ok line => .ok line
    | .error place => minus place 1
  let start ← lookup index.starts line
  let before ← slice index.text start offset
  return ⟨line, Text.unitsCount before⟩

/-- The positions of both ends of a span. -/
def positionsOf (index : LineIndex) (place : Span) : Except Fault (Position × Position) := do
  let start ← positionAt index place.start
  let stop ← positionAt index place.stop
  return (start, stop)

end Checked

end FanServer
