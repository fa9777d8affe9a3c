import FanServer.Frame
import FanServer.Json.Read
import FanServer.Session
import FanServer.Settings.Loader

/-!
# The command

The language server on standard input and output. Settings are read from `fan-lsp.toml` in the
working directory and from the file named by `FAN_LSP_CONFIG`, laid over the defaults.
-/

namespace FanServer

/-- The file with a name, which must be there if it is `required`. -/
def readSource (name : String) (required : Bool) : IO Settings.Source := do
  try
    return .text (← IO.FS.readFile name)
  catch _ =>
    return .missing required

/-- The settings from the files of the working directory and the environment. -/
def readSettings : IO Settings := do
  let fromDirectory ← readSource "fan-lsp.toml" false
  match ← IO.getEnv "FAN_LSP_CONFIG" with
  | none => return Settings.load [fromDirectory]
  | some name => return Settings.load [fromDirectory, ← readSource name true]

/-- Read headers and say how long the message after them is; there is none at the end of the
input. -/
partial def readLength (input : IO.FS.Stream) (length : Option Nat) : IO (Option Nat) := do
  let line ← input.getLine
  if line.isEmpty then return none
  if Frame.endsHeaders line then return some (length.getD 0)
  readLength input ((Frame.length? line).or length)

/-- Read a number of bytes, or as many as there are. -/
partial def readBytes (input : IO.FS.Stream) (count : Nat) (bytes : ByteArray) : IO ByteArray := do
  if count ≤ bytes.size then return bytes
  let more ← input.read (USize.ofNat (count - bytes.size))
  if more.isEmpty then return bytes
  readBytes input count (bytes ++ more)

/-- React to messages until the session or the input is over. -/
partial def serve (input output : IO.FS.Stream) (session : Session) : IO Unit := do
  let some length ← readLength input none | return
  let bytes ← readBytes input length ByteArray.empty
  let some request := (String.fromUTF8? bytes).bind Json.parse? | serve input output session
  match session.receive request with
  | (session, some reaction) =>
    for json in reaction.messages do
      output.putStr (Frame.encode json)
    output.flush
    serve input output session
  | (_, none) => return

end FanServer

/-- Run the language server. -/
def main : IO Unit := do
  let settings ← FanServer.readSettings
  FanServer.serve (← IO.getStdin) (← IO.getStdout) { settings := settings.diagnostics }
