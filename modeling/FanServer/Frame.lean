import FanServer.Json.Write

/-!
# Frames

On a stream every message is preceded by header lines and an empty line. The header
`Content-Length` gives the length of the message in bytes.
-/

namespace FanServer.Frame

/-- The length that a header line gives, if it is the one that does. -/
def length? (header : String) : Option Nat :=
  let cs := header.toList
  let name := cs.takeWhile (· != ':')
  if String.ofList (name.map Char.toLower) = "content-length" then
    let digits := (cs.drop (name.length + 1)).filter fun c => c != ' ' && c != '\r' && c != '\n'
    if digits.isEmpty || !digits.all Char.isDigit then none
    else some (digits.foldl (fun value c => value * 10 + (c.toNat - 48)) 0)
  else none

/-- The header line ends the headers. -/
def endsHeaders (header : String) : Bool :=
  header.toList.all fun c => c == '\r' || c == '\n'

/-- A message with its headers. -/
def encode (json : Json) : String :=
  let body := json.write
  "Content-Length: " ++ toString body.utf8ByteSize ++ "\r\n\r\n" ++ body

end FanServer.Frame
