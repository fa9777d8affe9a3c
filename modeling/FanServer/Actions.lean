import FanServer.Text.Line

/-!
# Action classes

An action class gives the rules of a grammar their behaviour: a rule is implemented by the method
of the same name. The language of the method bodies is not read. A method is declared by a line
of the form

    method NAME (SIGNATURE) {

which may be indented, and on which nothing else stands. The span of a method covers its name
alone.
-/

namespace FanServer

/-- A declared method. -/
structure Method where
  /-- the name -/
  name : String
  /-- where the name stands -/
  span : Span
  deriving DecidableEq, Repr

/-- An action class document. -/
structure Actions where
  /-- the declared name of the class -/
  name : String
  /-- the whole text -/
  span : Span
  /-- the methods in the order of the text -/
  methods : List Method
  deriving DecidableEq, Repr

namespace Method

/-- The blanks that may stand between the parts of a declaration. -/
def isGap (c : Char) : Bool :=
  c == ' ' || c == '\t'

/-- The characters of a method's name. -/
def isNameChar (c : Char) : Bool :=
  c.isAlphanum || c == '_' || c == '-'

/-- The end of a declaration, read backwards: a carriage return if there is one, gaps, the opening
brace, gaps, and the parenthesis that closes the signature. -/
def closesReversed (cs : List Char) : Bool :=
  let cs := match cs with
    | '\r' :: rest => rest
    | _ => cs
  match cs.dropWhile isGap with
  | c :: rest =>
    c == '\x7b' &&
      match rest.dropWhile isGap with
      | d :: _ => d == ')'
      | [] => false
  | [] => false

/-- The name declared by a line, with the characters before it. -/
def declared? (line : List Char) : Option (List Char × List Char) := do
  let indent := line.takeWhile isGap
  let afterWord ← Text.after? "method".toList (line.dropWhile isGap)
  let gap := afterWord.takeWhile isGap
  let afterGap := afterWord.dropWhile isGap
  let name := afterGap.takeWhile isNameChar
  guard (gap ≠ [] ∧ name ≠ [])
  match (afterGap.dropWhile isNameChar).dropWhile isGap with
  | c :: signature =>
    guard (c = '(' ∧ closesReversed signature.reverse)
    return (indent ++ "method".toList ++ gap, name)
  | [] => none

/-- The method declared by a line, if it declares one. -/
def ofLine? (line : Text.Line) : Option Method :=
  (declared? line.chars).map fun (before, name) =>
    let start := line.start + Text.byteCount before
    ⟨String.ofList name, ⟨start, start + Text.byteCount name⟩⟩

/-- The methods a text declares, in order. -/
def ofText (text : String) : List Method :=
  (Text.lines text).filterMap ofLine?

end Method

/-- The first method whose name the offset lies on. -/
def Actions.methodAt? (actions : Actions) (offset : Nat) : Option Method :=
  actions.methods.find? fun method => method.span.contains offset

end FanServer
