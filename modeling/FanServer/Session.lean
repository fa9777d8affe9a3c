import FanServer.Json.Editor
import FanServer.Json.Write
import FanServer.Session.Call

/-!
# Sessions

A session is what passes between an editor and the server, from `initialize` to `exit`, as
JSON-RPC messages. A message with an identifier is answered, and one without is not.

| phase | with an identifier | without |
|---|---|---|
| before `initialize` | refused as not initialized | dropped |
| after it | a request is answered, a notification refused | a notification is taken note of |
| after `shutdown` | refused | dropped |
| after `exit` | no answer at all | no answer at all |

An operation is carried out **only if the message has an identifier exactly when the operation is a
request**. So `initialize` without an identifier begins nothing, and a document is not opened by a
message that waits for an answer. `shutdown` and `exit` change the phase either way.

A method that the protocol does not have is refused in every phase but the last, and one whose name
begins with `$/` is ignored.
-/

namespace FanServer

/-- How far a session has come. -/
inductive Phase where
  /-- nothing has been agreed yet -/
  | uninitialized
  /-- the session is under way -/
  | running
  /-- the editor has asked the server to stop -/
  | shutDown
  /-- the session is over -/
  | exited
  deriving DecidableEq, Repr

/-- What a message leads to: an answer, and diagnostics that are published. -/
structure Reaction where
  /-- the answer, if there is one -/
  response : Option Json := none
  /-- what is published -/
  published : List Editor.Update := []

/-- A session and the documents that are open in it. -/
structure Session where
  /-- how diagnostics are made -/
  settings : DiagnosticSettings
  /-- the open documents -/
  store : Store := .empty
  /-- how far the session has come -/
  phase : Phase := .uninitialized

namespace Session

/-- What the server can do, as it is told to an editor. -/
def capabilities : Json :=
  .object [
    ("capabilities", .object [
      ("textDocumentSync", .nat 1),
      ("hoverProvider", .bool true),
      ("definitionProvider", .bool true),
      ("referencesProvider", .bool true),
      ("documentSymbolProvider", .bool true),
      ("executeCommandProvider", .object [("commands", .array [.string syntaxTreeCommand])])]),
    ("serverInfo", .object [("name", .string "fan-lsp"), ("version", .string "0.1.0")])]

/-- A message of the server. -/
def message (fields : List (String × Json)) : Json :=
  .object (("jsonrpc", .string "2.0") :: fields)

/-- The error of a refused request. -/
def errorJson (e : RequestError) : Json :=
  let data := match e with
    | .methodNotFound method => [("data", Json.string method)]
    | _ => []
  .object ([("code", .int e.code), ("message", .string e.message)] ++ data)

/-- The answer to the request with an identifier. -/
def answer (id : Json) : Except RequestError Json → Json
  | .ok result => message [("id", id), ("result", result)]
  | .error e => message [("id", id), ("error", errorJson e)]

/-- The message that publishes the diagnostics of a document. -/
def publication (update : Editor.Update) : Json :=
  message [("method", .string "textDocument/publishDiagnostics"), ("params", update.toJson)]

/-- The result of a call. What only tells something has none. -/
def result (store : Store) : Call → Except RequestError Json
  | .symbols uri =>
    .ok (.ofOption (fun symbols => .array (Editor.Symbol.listToJson symbols)) (store.symbols? uri))
  | .hover uri p => .ok (.ofOption Editor.Hover.toJson (store.hover? uri p))
  | .definition uri p => .ok (.ofOption Editor.Location.toJson (store.definition? uri p))
  | .references uri p declaration =>
    .ok (.ofOption (fun locations => .array (locations.map Editor.Location.toJson))
      (store.references? uri p declaration))
  | .execute command arguments => store.execute command arguments
  | .unsupported => .error .notImplemented
  | .started | .notification _ | .ignored => .ok .null

/-- Answer a message, if it waits for an answer. -/
def respond (session : Session) (id : Option Json) (outcome : Except RequestError Json) :
    Session × Reaction :=
  (session, { response := id.map fun id => answer id outcome })

/-- Why a message is refused in a phase other than the running one. -/
def refusal : Phase → RequestError
  | .uninitialized => .notInitialized
  | _ => .invalidRequest

/-- What the parameters of a message say. -/
def read {α : Type} (decode : Json → Except DecodeError α) (params : Option Json) :
    Except RequestError α :=
  match params with
  | none => .error (.invalidParams "Missing params field")
  | some params =>
    match decode params with
    | .ok value => .ok value
    | .error e => .error (.invalidParams e.message)

/-- Carry out an operation while the session is under way. -/
def perform (session : Session) (id : Option Json) (params : Option Json) (operation : Operation) :
    Session × Reaction :=
  match id, operation.isRequest with
  | none, true => (session, {})
  | some _, false => session.respond id (.error .invalidRequest)
  | _, _ =>
    match read operation.read params with
    | .error e => session.respond id (.error e)
    | .ok (.notification notification) =>
      let (store, published) := session.store.notify session.settings notification
      ({ session with store }, { published })
    | .ok call => session.respond id (result session.store call)

/-- An editor tells what it can do. All of it is of no concern. -/
def introduction (params : Json) : Except DecodeError Unit := do
  params.toRecord "InitializeParams"
  Json.required "capabilities"
    (← params.decode? "capabilities" (Json.toRecord "ClientCapabilities"))

/-- Begin the session. -/
def start (session : Session) (id : Option Json) (params : Option Json) : Session × Reaction :=
  if session.phase = .uninitialized then
    if id.isNone then (session, {})
    else
      match read introduction params with
      | .ok _ => { session with phase := .running }.respond id (.ok capabilities)
      | .error e => session.respond id (.error e)
  else session.respond id (.error .invalidRequest)

/-- Prepare to stop. There is nothing to be said with it. -/
def shutDown (session : Session) (id : Option Json) (params : Option Json) : Session × Reaction :=
  if session.phase = .running then
    { session with phase := .shutDown }.respond id <|
      match params with
      | none => .ok .null
      | some params => .error (.invalidParams s!"Unexpected params: {params.write}")
  else session.respond id (.error (refusal session.phase))

/-- React to a message with a method, an identifier and parameters. -/
def react (session : Session) (method : String) (id : Option Json) (params : Option Json) :
    Session × Reaction :=
  if method = "exit" then ({ session with phase := .exited }, {})
  else if method = "initialize" then session.start id params
  else if method = "shutdown" then session.shutDown id params
  else if method = "$/cancelRequest" then session.respond id (.error .invalidRequest)
  else
    match Operation.ofMethod? method with
    | some operation =>
      if session.phase = .running then session.perform id params operation
      else session.respond id (.error (refusal session.phase))
    | none =>
      if method.startsWith "$/" then (session, {})
      else session.respond id (.error (.methodNotFound method))

/-- The parameters of a message; `null` is none. -/
def paramsOf (message : Json) : Option Json :=
  match message.field? "params" with
  | some .null => none
  | params => params

/-- React to a message. After the end of the session there is no reaction. -/
def receive (session : Session) (message : Json) : Session × Option Reaction :=
  if session.phase = .exited then (session, none)
  else
    let method := ((message.field? "method").bind Json.string?).getD ""
    let (session, reaction) := session.react method (message.field? "id") (paramsOf message)
    (session, some reaction)

end Session

/-- The messages of the server in reaction to a message, in the order in which they are sent. -/
def Reaction.messages (reaction : Reaction) : List Json :=
  reaction.published.map Session.publication ++ reaction.response.toList

end FanServer
