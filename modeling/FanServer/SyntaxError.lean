import FanServer.Span
import FanServer.Text.Quoted

/-!
# Syntax errors

Why a grammar document has no model. Each error is a **cause** with the data that explains it;
its wording is `SyntaxError.message`, and the stretch of text it blames, if any, is
`SyntaxError.span?`.
-/

namespace FanServer

/-- What the grammar notation calls for at a place where something else stands. -/
inductive Expectation where
  /-- the first word of the grammar's name -/
  | grammarName
  /-- a word after `::` in the grammar's name -/
  | nameSegment
  /-- the `;` that ends the declaration -/
  | semicolon
  /-- the name of a rule that is being defined -/
  | ruleName
  /-- the `:` after the name of a rule -/
  | colon
  /-- an element of an alternative -/
  | ruleElement
  /-- the `]` that closes a group -/
  | closeBracket
  deriving DecidableEq, Repr

/-- The words an expectation is reported with. -/
def Expectation.phrase : Expectation → String
  | grammarName => "a grammar name"
  | nameSegment => "a grammar name segment"
  | semicolon => "`;`"
  | ruleName => "a rule name"
  | colon => "`:`"
  | ruleElement => "a rule element"
  | closeBracket => "`]`"

/-- The reason why a text is not a grammar document. -/
inductive SyntaxError where
  /-- no token begins with the text at the span -/
  | unexpectedCharacter (text : String) (span : Span)
  /-- the token `found` stands where something else is called for -/
  | unexpectedToken (expected : Expectation) (found : String) (span : Span)
  /-- the text ends, at `offset`, where something is called for -/
  | unexpectedEnd (expected : Expectation) (offset : Nat)
  /-- the text does not begin with a grammar declaration -/
  | missingHeader
  /-- a repetition range that does not touch the element it repeats -/
  | detachedQuantifier (span : Span)
  /-- the bracket at the span opens one group too many inside others -/
  | nestingTooDeep (limit : Nat) (span : Span)
  deriving DecidableEq, Repr

namespace SyntaxError

/-- The text the error points at, where it points at any. -/
def span? : SyntaxError → Option Span
  | unexpectedCharacter _ span => some span
  | unexpectedToken _ _ span => some span
  | unexpectedEnd _ offset => some ⟨offset, offset⟩
  | missingHeader => none
  | detachedQuantifier span => some span
  | nestingTooDeep _ span => some span

/-- The wording of the error. -/
def message : SyntaxError → String
  | unexpectedCharacter text span =>
    "unexpected character " ++ Text.quoted text ++ " at " ++ span.display
  | unexpectedToken expected found span =>
    "expected " ++ expected.phrase ++ ", found `" ++ found ++ "` at " ++ span.display
  | unexpectedEnd expected _ => "expected " ++ expected.phrase ++ ", found end of input"
  | missingHeader => "missing `unit grammar NAME;` declaration"
  | detachedQuantifier span =>
    "quantifier at " ++ span.display ++ " must directly follow the element it repeats"
  | nestingTooDeep limit span =>
    "groups nested deeper than " ++ toString limit ++ " levels at " ++ span.display

end SyntaxError

end FanServer
