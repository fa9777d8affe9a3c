import FanServer.Hover
import FanServer.Json.Model
import FanServer.Relink

/-!
# The language server

The server keeps the open documents and answers an editor's questions about them. A notification
changes the documents in one step: the text is stored or discarded, all documents are linked
again, and the diagnostics that follow are published.

A question about the place of a definition or of references is answered in **two steps**: the
entry of the document is looked up and its targets are found, and then the targets are resolved
against the documents that are open at that moment.
-/

namespace FanServer

/-- What an editor tells the server about its documents. -/
inductive Notification where
  /-- a document was opened -/
  | opened (uri : Uri) (version : Int) (text : String)
  /-- a document was changed, by one new text after the other -/
  | changed (uri : Uri) (version : Int) (texts : List String)
  /-- a document was closed -/
  | closed (uri : Uri)
  deriving DecidableEq, Repr

/-- Why a request is refused. -/
inductive RequestError where
  /-- the request cannot be made now, or not at all -/
  | invalidRequest
  /-- the request lacks what it needs -/
  | invalidParams (message : String)
  /-- there is no such request -/
  | methodNotFound (method : String)
  /-- there is such a request, but the server does not answer it -/
  | notImplemented
  /-- the session has not begun -/
  | notInitialized
  deriving DecidableEq, Repr

namespace RequestError

/-- The number of an error. -/
def code : RequestError → Int
  | invalidRequest => -32600
  | invalidParams _ => -32602
  | methodNotFound _ | notImplemented => -32601
  | notInitialized => -32002

/-- The wording of an error. -/
def message : RequestError → String
  | invalidRequest => "Invalid request"
  | invalidParams message => message
  | methodNotFound _ | notImplemented => "Method not found"
  | notInitialized => "Server not initialized"

end RequestError

/-! ### One document -/

namespace Entry

/-- The symbols of a document. -/
def symbols? (entry : Entry) : Option (List Editor.Symbol) :=
  entry.model?.map fun model => Editor.Symbol.ofEntries entry.lines (model.outline entry.link)

/-- The description of what is at a place. -/
def hover? (entry : Entry) (p : Editor.Position) : Option Editor.Hover := do
  let model ← entry.model?
  let hover ← model.hover? entry.link (entry.offsetAt p)
  return ⟨hover.contents, entry.rangeOf hover.span⟩

/-- Where the rule at a place is defined. -/
def definition? (entry : Entry) (uri : Uri) (p : Editor.Position) : Option Location := do
  let model ← entry.model?
  model.definition? uri entry.link (entry.offsetAt p)

/-- Where the rule at a place is referred to, and where it is defined if `declaration` is set. -/
def references? (entry : Entry) (uri : Uri) (p : Editor.Position) (declaration : Bool) :
    Option (List Location) := do
  let model ← entry.model?
  let found ← model.references? uri (entry.offsetAt p)
  return if declaration then found else found.drop 1

end Entry

/-! ### All documents -/

/-- The command that gives the model of a document. -/
def syntaxTreeCommand : String := "fan.syntaxTree"

namespace Store

/-- Store a text and link again. -/
def update (store : Store) (settings : DiagnosticSettings) (uri : Uri) (version : Int)
    (text : String) : Store × List Editor.Update :=
  (store.upsert uri (some version) text).relink settings

/-- Discard a document and link again. -/
def close (store : Store) (settings : DiagnosticSettings) (uri : Uri) :
    Store × List Editor.Update :=
  let cleared := (store.get? uri).bind fun entry => entry.cleared? uri
  let (relinked, updates) := (store.remove uri).relink settings
  (relinked, cleared.toList ++ updates)

/-- Take note of what an editor tells. Of several new texts only the last counts. -/
def notify (store : Store) (settings : DiagnosticSettings) :
    Notification → Store × List Editor.Update
  | .opened uri version text => store.update settings uri version text
  | .changed uri version texts =>
    match texts.getLast? with
    | some text => store.update settings uri version text
    | none => (store, [])
  | .closed uri => store.close settings uri

/-- The symbols of a document. -/
def symbols? (store : Store) (uri : Uri) : Option (List Editor.Symbol) :=
  (store.get? uri).bind Entry.symbols?

/-- The description of what is at a place of a document. -/
def hover? (store : Store) (uri : Uri) (p : Editor.Position) : Option Editor.Hover :=
  (store.get? uri).bind fun entry => entry.hover? p

/-- Where the rule at a place of a document is defined. -/
def definition? (store : Store) (uri : Uri) (p : Editor.Position) : Option Editor.Location := do
  let entry ← store.get? uri
  let target ← entry.definition? uri p
  (store.resolve [target]).getLast?

/-- Where the rule at a place of a document is referred to. -/
def references? (store : Store) (uri : Uri) (p : Editor.Position) (declaration : Bool) :
    Option (List Editor.Location) := do
  let entry ← store.get? uri
  let found ← entry.references? uri p declaration
  return store.resolve found

/-- The document that a command is about: its first argument. -/
def commandTarget (arguments : List Json) : Except RequestError Uri :=
  match (arguments.head?.bind Json.string?).bind fun text => (Uri.parse text).toOption with
  | some uri => .ok uri
  | none => .error (.invalidParams "expected a document URI argument")

/-- Carry out a command. -/
def execute (store : Store) (command : String) (arguments : List Json) :
    Except RequestError Json :=
  if command = syntaxTreeCommand then do
    let uri ← commandTarget arguments
    return .ofOption Model.toJson ((store.get? uri).bind Entry.model?)
  else .error .invalidRequest

end Store

end FanServer
