import FanServer.Actions
import FanServer.Grammar.Parse
import FanServer.Header

/-!
# Documents

A document is a grammar or an action class. A text with neither declaration is no document; that
is an ordinary outcome and not an error. Only a grammar can fail to parse.
-/

namespace FanServer

/-- The model of a document. -/
inductive Model where
  /-- a grammar -/
  | grammar (grammar : Grammar)
  /-- an action class -/
  | action (actions : Actions)

namespace Model

/-- The kind of document. -/
def kind : Model → DocumentKind
  | grammar _ => .grammar
  | action _ => .action

/-- The declared name. -/
def name : Model → String
  | grammar g => g.name
  | action a => a.name

/-- The whole text. -/
def span : Model → Span
  | grammar g => g.span
  | action a => a.span

/-- The grammar, if the document is one. -/
def grammar? : Model → Option Grammar
  | grammar g => some g
  | action _ => none

/-- The action class, if the document is one. -/
def action? : Model → Option Actions
  | grammar _ => none
  | action a => some a

end Model

/-- The action class a text declares, if it declares one. -/
def Actions.ofText? (text : String) : Option Actions :=
  (Header.actionsName? text).map fun name =>
    ⟨name, ⟨0, Text.byteCount text.toList⟩, Method.ofText text⟩

/-- The model of a text. There is none where the text declares nothing. -/
def Model.parse (text : String) : Except SyntaxError (Option Model) :=
  match Header.kind? text with
  | some .grammar => (Grammar.parse text).map fun g => some (.grammar g)
  | some .action => .ok ((Actions.ofText? text).map .action)
  | none => .ok none

end FanServer
