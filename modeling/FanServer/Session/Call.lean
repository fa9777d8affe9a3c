import FanServer.Json.Decode
import FanServer.Server

/-!
# Calls

A message names a method, and the method stands for an operation. Operations come in two kinds: a
**request** wants an answer, and a **notification** only tells something. Of which kind an operation
is does not depend on the message; the message has an identifier if its sender waits for an answer.

The language server protocol has many more operations than this server carries out. Those are known
all the same: a session treats them like the others before it says that they are not there.
-/

namespace FanServer

/-- What a message asks for or tells about documents. -/
inductive Call where
  /-- the session has begun -/
  | started
  /-- something happened to a document -/
  | notification (notification : Notification)
  /-- something happened that is of no concern -/
  | ignored
  /-- the symbols of a document -/
  | symbols (uri : Uri)
  /-- the description of what is at a place -/
  | hover (uri : Uri) (position : Editor.Position)
  /-- where the rule at a place is defined -/
  | definition (uri : Uri) (position : Editor.Position)
  /-- where the rule at a place is referred to -/
  | references (uri : Uri) (position : Editor.Position) (declaration : Bool)
  /-- carry out a command -/
  | execute (command : String) (arguments : List Json)
  /-- something that the server does not do -/
  | unsupported

namespace Call

/-! ### Parameters -/

/-- The address of a document. -/
def document (json : Json) : Except DecodeError Uri := do
  json.toRecord "TextDocumentIdentifier"
  Json.required "uri" (← json.decode? "uri" Json.toUri)

/-- A position in a document. -/
def position (json : Json) : Except DecodeError Editor.Position := do
  json.toRecord "Position"
  let character ← json.decode? "character" Json.toWord32
  let line ← json.decode? "line" Json.toWord32
  return ⟨← Json.required "line" line, ← Json.required "character" character⟩

/-- A document and a position in it. -/
def place (params : Json) : Except DecodeError (Uri × Editor.Position) := do
  let position ← params.decode? "position" position
  let document ← params.decode? "textDocument" document
  return (← Json.required "textDocument" document, ← Json.required "position" position)

/-- The address, the version and the text of a document. -/
def textDocument (json : Json) : Except DecodeError (Uri × Int × String) := do
  json.toRecord "TextDocumentItem"
  let language ← json.decode? "languageId" Json.toText
  let text ← json.decode? "text" Json.toText
  let uri ← json.decode? "uri" Json.toUri
  let version ← json.decode? "version" Json.toInt32
  let uri ← Json.required "uri" uri
  let _ ← Json.required "languageId" language
  return (uri, ← Json.required "version" version, ← Json.required "text" text)

/-- The address and the version of a document. -/
def versionedDocument (json : Json) : Except DecodeError (Uri × Int) := do
  json.toRecord "VersionedTextDocumentIdentifier"
  let uri ← json.decode? "uri" Json.toUri
  let version ← json.decode? "version" Json.toInt32
  return (← Json.required "uri" uri, ← Json.required "version" version)

/-- The text that a change leads to. -/
def changedText (json : Json) : Except DecodeError String := do
  json.toRecord "TextDocumentContentChangeEvent"
  Json.required "text" (← json.decode? "text" Json.toText)

/-! ### Calls of the methods -/

/-- A document was opened. -/
def opened (params : Json) : Except DecodeError Call := do
  params.toRecord "DidOpenTextDocumentParams"
  let (uri, version, text) ←
    Json.required "textDocument" (← params.decode? "textDocument" textDocument)
  return .notification (.opened uri version text)

/-- A document was changed. -/
def changed (params : Json) : Except DecodeError Call := do
  params.toRecord "DidChangeTextDocumentParams"
  let changes ← params.decode? "contentChanges" fun json => do (← json.toItems).mapM changedText
  let document ← params.decode? "textDocument" versionedDocument
  let (uri, version) ← Json.required "textDocument" document
  return .notification (.changed uri version (← Json.required "contentChanges" changes))

/-- A document was closed. -/
def closed (params : Json) : Except DecodeError Call := do
  params.toRecord "DidCloseTextDocumentParams"
  return .notification (.closed
    (← Json.required "textDocument" (← params.decode? "textDocument" document)))

/-- The symbols of a document are wanted. -/
def symbolsOf (params : Json) : Except DecodeError Call := do
  params.toRecord "DocumentSymbolParams"
  return .symbols (← Json.required "textDocument" (← params.decode? "textDocument" document))

/-- The description of what is at a place is wanted. -/
def hoverAt (params : Json) : Except DecodeError Call := do
  params.toRecord "HoverParams"
  let (uri, position) ← place params
  return .hover uri position

/-- A definition is wanted. -/
def definitionAt (params : Json) : Except DecodeError Call := do
  params.toRecord "GotoDefinitionParams"
  let (uri, position) ← place params
  return .definition uri position

/-- Whether references include the declaration. -/
def includesDeclaration (json : Json) : Except DecodeError Bool := do
  json.toRecord "ReferenceContext"
  Json.required "includeDeclaration" (← json.decode? "includeDeclaration" Json.toTruth)

/-- References are wanted. -/
def referencesAt (params : Json) : Except DecodeError Call := do
  params.toRecord "ReferenceParams"
  let declaration ← Json.required "context" (← params.decode? "context" includesDeclaration)
  let (uri, position) ← place params
  return .references uri position declaration

/-- A command is given; without arguments it has an empty list of them. -/
def command (params : Json) : Except DecodeError Call := do
  params.toRecord "ExecuteCommandParams"
  let arguments ← params.decode? "arguments" Json.toItems
  let command ← Json.required "command" (← params.decode? "command" Json.toText)
  return .execute command (arguments.getD [])

end Call

/-! ### Operations -/

/-- What a method stands for. -/
structure Operation where
  /-- whether an answer is wanted -/
  isRequest : Bool
  /-- the call that parameters make, if they are those of the method -/
  read : Json → Except DecodeError Call

namespace Operation

/-- The methods that this server carries out. -/
def supported : List (String × Operation) :=
  [ ("initialized", ⟨false, fun _ => .ok .started⟩),
    ("textDocument/didOpen", ⟨false, Call.opened⟩),
    ("textDocument/didChange", ⟨false, Call.changed⟩),
    ("textDocument/didClose", ⟨false, Call.closed⟩),
    ("textDocument/documentSymbol", ⟨true, Call.symbolsOf⟩),
    ("textDocument/hover", ⟨true, Call.hoverAt⟩),
    ("textDocument/definition", ⟨true, Call.definitionAt⟩),
    ("textDocument/references", ⟨true, Call.referencesAt⟩),
    ("workspace/executeCommand", ⟨true, Call.command⟩) ]

/-- The further notifications of the protocol. -/
def otherNotifications : List String :=
  [ "textDocument/willSave", "textDocument/didSave",
    "workspace/didChangeConfiguration", "workspace/didChangeWorkspaceFolders",
    "workspace/didChangeWatchedFiles",
    "workspace/didCreateFiles", "workspace/didRenameFiles", "workspace/didDeleteFiles" ]

/-- The further requests of the protocol. -/
def otherRequests : List String :=
  [ "textDocument/willSaveWaitUntil",
    "textDocument/declaration", "textDocument/typeDefinition", "textDocument/implementation",
    "textDocument/prepareCallHierarchy",
    "callHierarchy/incomingCalls", "callHierarchy/outgoingCalls",
    "textDocument/prepareTypeHierarchy", "typeHierarchy/supertypes", "typeHierarchy/subtypes",
    "textDocument/documentHighlight", "textDocument/documentLink", "documentLink/resolve",
    "textDocument/codeLens", "codeLens/resolve",
    "textDocument/foldingRange", "textDocument/selectionRange",
    "textDocument/semanticTokens/full", "textDocument/semanticTokens/full/delta",
    "textDocument/semanticTokens/range",
    "textDocument/inlineValue", "textDocument/inlayHint", "inlayHint/resolve",
    "textDocument/moniker", "textDocument/completion", "completionItem/resolve",
    "textDocument/diagnostic", "workspace/diagnostic",
    "textDocument/signatureHelp", "textDocument/codeAction", "codeAction/resolve",
    "textDocument/documentColor", "textDocument/colorPresentation",
    "textDocument/formatting", "textDocument/rangeFormatting", "textDocument/onTypeFormatting",
    "textDocument/rename", "textDocument/prepareRename", "textDocument/linkedEditingRange",
    "workspace/symbol", "workspaceSymbol/resolve",
    "workspace/willCreateFiles", "workspace/willRenameFiles", "workspace/willDeleteFiles" ]

/-- The operation of a method, if the protocol has it. -/
def ofMethod? (method : String) : Option Operation :=
  (supported.lookup method).or <|
    if otherNotifications.contains method then some ⟨false, fun _ => .ok .ignored⟩
    else if otherRequests.contains method then some ⟨true, fun _ => .ok .unsupported⟩
    else none

end Operation

end FanServer
