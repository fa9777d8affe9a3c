import FanServer.Uri.Host

/-!
# Paths

A path is a list of segments. The segment `.` stands for the directory it is in and the segment `..`
for the one above; `resolve` removes both. A path that ends in such a segment ends in a directory,
which is a last segment without a name.

A segment such as `C:` may be the **letter of a drive**. Nothing is above a drive, so that `..`
after it has no effect.
-/

namespace FanServer.Uri

/-- The segment stands for the directory it is in. -/
def isHere (segment : List Char) : Bool :=
  [".", "%2e"].contains (String.ofList (segment.map Char.toLower))

/-- The segment stands for the directory above. -/
def isAbove (segment : List Char) : Bool :=
  ["..", ".%2e", "%2e.", "%2e%2e"].contains (String.ofList (segment.map Char.toLower))

/-- The text is the letter of a drive, with a colon or a bar after it. -/
def isDrive : List Char → Bool
  | [letter, sign] => letter.isAlpha && (sign == ':' || sign == '|')
  | _ => false

/-- The segment begins with the letter of a drive: there is nothing above it. -/
def isTop (segment : List Char) : Bool :=
  isDrive (segment.takeWhile (· != '\\'))

/-- The letter of a drive with a colon after it. -/
def normalDrive (drive : List Char) : List Char :=
  drive.take 1 ++ [':']

/-- The segments that are left when the directory above is entered; the last segment is first. -/
def leave : List (List Char) → List (List Char)
  | [] => []
  | segment :: passed => if isTop segment then segment :: passed else passed

/-- Add a segment to those passed, the last one first. The first segment in the path of a file may
be a drive. -/
def enter (isFile : Bool) (passed : List (List Char)) (segment : List Char) : List (List Char) :=
  if isHere segment then passed
  else if isAbove segment then leave passed
  else if isFile && passed.isEmpty && isDrive segment then [normalDrive segment]
  else segment :: passed

/-- Resolve segments after those in `passed`, the last one of which is first. -/
def resolve (isFile : Bool) (passed : List (List Char)) : List (List Char) → List (List Char)
  | [] => passed.reverse
  | [segment] =>
    let passed' := enter isFile passed segment
    if isHere segment || isAbove segment then ([] :: passed').reverse else passed'.reverse
  | segment :: rest => resolve isFile (enter isFile passed segment) rest

/-- The segments of a path that begins after a slash, resolved and encoded. In the path of a special
scheme a backslash is a slash. -/
def segments (special isFile : Bool) (path : List Char) : List (List Char) :=
  let isSlash := fun c => c == '/' || (special && c == '\\')
  resolve isFile [] ((splitWhere isSlash path).map (encode isPathForeign))

/-- The written form of a path: a slash before every segment. -/
def writePath (segments : List (List Char)) : List Char :=
  segments.flatMap fun segment => '/' :: segment

/-- The written form of the path of a file. It begins with one slash, however many there were. -/
def writeFilePath (segments : List (List Char)) : List Char :=
  match segments.dropWhile List.isEmpty with
  | [] => ['/']
  | named => writePath named

end FanServer.Uri
