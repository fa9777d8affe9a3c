import FanServer.Span

/-!
# Tokens

The words and signs a grammar document is made of. Blanks and comments lie between tokens and
carry no meaning. A token keeps its kind, the span it was read from and the text it was read as.
-/

namespace FanServer

/-- The kinds of tokens. -/
inductive TokenKind where
  /-- `;` -/
  | semicolon
  /-- `::` -/
  | doubleColon
  /-- `:` -/
  | colon
  /-- `|` -/
  | pipe
  /-- `[` -/
  | openBracket
  /-- `]` -/
  | closeBracket
  /-- `+` -/
  | plus
  /-- `-` -/
  | minus
  /-- `%%` -/
  | doublePercent
  /-- `%` -/
  | percent
  /-- a repetition range in parentheses, such as `(s?)` -/
  | quantifier
  /-- an identifier, with any run of reference modifiers before it -/
  | word
  /-- a text in single or double quotes -/
  | stringLiteral
  /-- a pattern between slashes -/
  | regexLiteral
  deriving DecidableEq, Repr

/-- A token, with the text it was read as and where that text stands. -/
structure Token where
  /-- what the token is -/
  kind : TokenKind
  /-- where it stands -/
  span : Span
  /-- the text it was read as -/
  text : String
  deriving DecidableEq, Repr

namespace Text

/-- The characters that may stand before the name in a reference. -/
def isModifier (c : Char) : Bool :=
  c == '.' || c == '!' || c == '&' || c == '?'

/-- The character may begin an identifier: an ASCII letter or an underscore. -/
def isIdentStart (c : Char) : Bool :=
  c.isAlpha || c == '_'

/-- The character may continue an identifier: an ASCII letter, a digit or an underscore. -/
def isIdentRest (c : Char) : Bool :=
  c.isAlphanum || c == '_'

/-- The characters that separate tokens: space, tab, carriage return, line feed, form feed. -/
def isLayout (c : Char) : Bool :=
  c == ' ' || c == '\t' || c == '\r' || c == '\n' || c == '\x0c'

end Text

end FanServer
