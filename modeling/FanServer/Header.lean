import FanServer.Text.Line
import FanServer.Token

/-!
# Declarations

The kind of a document is decided by a declaration at the beginning of one of its lines:

    unit grammar NAME;
    unit class NAME is Actions;

The name of a grammar is made of identifiers joined by `::`. Where a text holds both
declarations, that of a grammar wins.
-/

namespace FanServer

/-- The kinds of documents. -/
inductive DocumentKind where
  /-- a grammar -/
  | grammar
  /-- the action class of a grammar -/
  | action
  deriving DecidableEq, Repr

namespace Header

/-- The longest identifier at the beginning, with what follows it. -/
def identifier? : List Char → Option (List Char × List Char)
  | [] => none
  | c :: cs =>
    if Text.isIdentStart c then
      some (c :: cs.takeWhile Text.isIdentRest, cs.dropWhile Text.isIdentRest)
    else none

theorem identifier?_length {cs name rest : List Char} (h : identifier? cs = some (name, rest)) :
    rest.length < cs.length := by
  cases cs with
  | nil => cases h
  | cons c cs =>
    simp only [identifier?] at h
    split at h
    · cases h
      have := (List.dropWhile_suffix Text.isIdentRest (l := cs)).length_le
      simp only [List.length_cons]
      omega
    · cases h

/-- Identifiers joined by `::`, up to the `;` after them. -/
def grammarName? (cs : List Char) : Option (List Char) :=
  match _h : identifier? cs with
  | none => none
  | some (name, ';' :: _) => some name
  | some (name, ':' :: ':' :: rest) =>
    (grammarName? rest).map fun others => name ++ "::".toList ++ others
  | some _ => none
termination_by cs.length
decreasing_by
  have := identifier?_length _h
  simp only [List.length_cons] at this
  omega

/-- The name a line declares for a grammar. -/
def grammar? (line : List Char) : Option (List Char) := do
  let rest ← Text.after? "unit grammar ".toList line
  grammarName? rest

/-- The characters of the name of an action class. -/
def isClassChar (c : Char) : Bool :=
  c.isAlphanum || c == ':' || c == '_' || c == '-'

/-- The name a line declares for an action class. -/
def actions? (line : List Char) : Option (List Char) := do
  let rest ← Text.after? "unit class ".toList line
  let name := rest.takeWhile isClassChar
  guard (name ≠ [])
  let _ ← Text.after? " is Actions;".toList (rest.dropWhile isClassChar)
  return name

/-- The first name that a line of the text declares for an action class. -/
def actionsName? (text : String) : Option String :=
  (Text.lines text).findSome? fun line => (actions? line.chars).map String.ofList

/-- The kind of document a text is, if it is one. -/
def kind? (text : String) : Option DocumentKind :=
  if (Text.lines text).any fun line => (grammar? line.chars).isSome then some .grammar
  else if (Text.lines text).any fun line => (actions? line.chars).isSome then some .action
  else none

end Header

end FanServer
