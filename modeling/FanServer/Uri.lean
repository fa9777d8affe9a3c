import FanServer.Uri.Path

/-!
# Document addresses

A document is known by its URI. `Uri.parse` brings a URI into the normal form under which documents
are kept, so that two spellings of one address are the same address:

* spaces and control characters around it, and line breaks and tabs in it, are dropped;
* the scheme is in lower case, and so is the host of a file or of the web;
* the segments `.` and `..` of a path are resolved;
* a character that may not stand where it does, such as a space in a path, is percent-encoded;
* the address of a file always has an authority, if only an empty one, and the address of a file or
  of the web always has a path;
* the number after a host is left out if it is the one that the scheme has anyway.

After the scheme comes an authority, which begins with `//`, and a path, or else a path alone, or
else a text that has no parts and is kept as it is. A query and a fragment may follow.
-/

namespace FanServer

/-- An address in normal form. -/
structure Uri where
  /-- the address as it is written -/
  text : String
  deriving DecidableEq, Repr

namespace Uri

/-- The kinds of schemes. -/
inductive Scheme where
  /-- that of files -/
  | file
  /-- those of the web; a host is followed by the given number if it is not followed by another -/
  | web (number : Nat)
  /-- any other -/
  | other
  deriving DecidableEq, Repr

namespace Scheme

/-- The kind of a scheme, by its name in lower case. -/
def ofName (name : String) : Scheme :=
  match [("http", 80), ("ws", 80), ("https", 443), ("wss", 443), ("ftp", 21)].lookup name with
  | some number => web number
  | none => if name = "file" then file else other

/-- In addresses of a special scheme, a backslash is as good as a slash. -/
def isSpecial : Scheme → Bool
  | file | web _ => true
  | other => false

/-- The character is a slash in addresses of the scheme. -/
def isSlash (scheme : Scheme) (c : Char) : Bool :=
  c == '/' || (scheme.isSpecial && c == '\\')

/-- The character ends the authority. -/
def endsAuthority (scheme : Scheme) (c : Char) : Bool :=
  scheme.isSlash c || c == '?' || c == '#'

end Scheme

/-! ### Cutting up -/

/-- The character is dropped at either end of an address. -/
def isOuter (c : Char) : Bool :=
  c.toNat ≤ 0x20

/-- The character is dropped wherever it stands. -/
def isDropped (c : Char) : Bool :=
  c == '\t' || c == '\n' || c == '\r'

/-- The characters of an address without those that are dropped. -/
def trim (text : String) : List Char :=
  let cs := ((text.toList.dropWhile isOuter).reverse.dropWhile isOuter).reverse
  cs.filter fun c => !isDropped c

/-- The characters of a scheme after its first letter. -/
def isSchemeRest (c : Char) : Bool :=
  c.isAlphanum || c == '+' || c == '-' || c == '.'

/-- The name of the scheme in lower case, and what follows the colon after it. -/
def scheme? (cs : List Char) : Option (List Char × List Char) :=
  match cs with
  | [] => none
  | c :: rest =>
    if c.isAlpha then
      match rest.dropWhile isSchemeRest with
      | ':' :: after => some ((c :: rest.takeWhile isSchemeRest).map Char.toLower, after)
      | _ => none
    else none

/-- The character belongs to the part of an address before a query or a fragment. -/
def isPathChar (c : Char) : Bool :=
  c != '?' && c != '#'

/-- The query and the fragment of an address in normal form. -/
def writeTail (special : Bool) (cs : List Char) : List Char :=
  let query := cs.takeWhile (· != '#')
  let fragment := cs.dropWhile (· != '#')
  query.take 1 ++ encode (isQueryForeign special) (query.drop 1) ++
    fragment.take 1 ++ encode isFragmentForeign (fragment.drop 1)

/-! ### Authorities -/

/-- The name and the password of a user in normal form, with the `@` after them. -/
def writeUser (cs : List Char) : List Char :=
  let name := encode isUserForeign (cs.takeWhile (· != ':'))
  let password := encode isUserForeign ((cs.dropWhile (· != ':')).drop 1)
  let user := name ++ if password.isEmpty then [] else ':' :: password
  if user.isEmpty then [] else user ++ ['@']

/-- What stands before and after the last `@`, if there is one. -/
def splitUser (cs : List Char) : Option (List Char × List Char) :=
  if cs.contains '@' then
    let host := (cs.reverse.takeWhile (· != '@')).reverse
    some (cs.take (cs.length - host.length - 1), host)
  else none

/-- The host, and the number after a colon if there is one. A colon in brackets is part of the
host. -/
def splitPort (inBrackets : Bool) : List Char → List Char × Option (List Char)
  | [] => ([], none)
  | c :: cs =>
    if c = ':' ∧ !inBrackets then ([], some cs)
    else
      let (host, number) := splitPort (c == '[' || (inBrackets && c != ']')) cs
      (c :: host, number)

/-- The written form of the number after a host, with the colon before it, and what follows it. A
backslash ends the number in every scheme. -/
def writePort (scheme : Scheme) (cs : List Char) : Except ParseError (List Char × List Char) :=
  let digits := cs.takeWhile Char.isDigit
  let after := cs.dropWhile Char.isDigit
  match Text.digits? 10 digits with
  | none => .error .invalidPort
  | some number =>
    if 65535 < number || after.head?.any (· != '\\') then .error .invalidPort
    else if digits.isEmpty || scheme = .web number then .ok ([], after)
    else .ok (':' :: Nat.toDigits 10 number, after)

/-- The normal form of a host and the number after it, and what follows them. Only the addresses of
other schemes may go without a host, and then without a number. -/
def writeHost (scheme : Scheme) (cs : List Char) : Except ParseError (List Char × List Char) := do
  let (host, number) := splitPort false cs
  if host.isEmpty && (scheme.isSpecial || number.isSome) then throw .emptyHost
  let host ← if scheme.isSpecial then Host.parse host else Host.parseOpaque host
  match number with
  | none => return (host, [])
  | some number =>
    let (number, after) ← writePort scheme number
    return (host ++ number, after)

/-- The normal form of an authority, and what follows it. Where there is a user, there must be a
host. An `@` with nothing before it goes without a host only at the very end of an address. -/
def writeAuthority (scheme : Scheme) (isLast : Bool) (cs : List Char) :
    Except ParseError (List Char × List Char) :=
  match splitUser cs with
  | none => writeHost scheme cs
  | some (user, host) => do
    let written := writeUser user
    if host.isEmpty && (!written.isEmpty || (user.isEmpty && !isLast)) then throw .emptyHost
    let (host, after) ← writeHost scheme host
    return (written ++ host, after)

/-! ### Addresses -/

/-- The path after an authority. -/
def afterAuthority (scheme : Scheme) (path : List Char) : List Char :=
  if path.isEmpty && !scheme.isSpecial then []
  else
    let inner := if path.head?.any scheme.isSlash then path.drop 1 else path
    writePath (segments scheme.isSpecial false inner)

/-- The authority and the path that follow `//`, up to the `tail`: the query and the fragment. -/
def hierarchical (scheme : Scheme) (cs tail : List Char) : Except ParseError (List Char) := do
  let path := cs.dropWhile fun c => !scheme.endsAuthority c
  let isLast := path.isEmpty && tail.isEmpty
  let (authority, after) ←
    writeAuthority scheme isLast (cs.takeWhile fun c => !scheme.endsAuthority c)
  return '/' :: '/' :: authority ++ afterAuthority scheme (after ++ path)

/-- The authority and the path of a file. The file of a drive, and that of this very host, have no
host. -/
def fileHierarchy (cs : List Char) : Except ParseError (List Char) := do
  let host := cs.takeWhile fun c => !Scheme.file.endsAuthority c
  let path := cs.dropWhile fun c => !Scheme.file.endsAuthority c
  if host.isEmpty || isDrive host then
    return '/' :: '/' :: writeFilePath (segments true true cs)
  let host ← Host.parse host
  if String.ofList host = "localhost" then
    return '/' :: '/' :: writeFilePath (segments true true path)
  let segments := segments true true (path.drop 1)
  let host := if segments.head?.any isDrive then [] else host
  return '/' :: '/' :: host ++ writeFilePath segments

/-- What follows the scheme of a file, up to a query or a fragment. -/
def fileRest (cs : List Char) : Except ParseError (List Char) :=
  match cs with
  | a :: b :: rest =>
    if Scheme.file.isSlash a && Scheme.file.isSlash b then fileHierarchy rest
    else if Scheme.file.isSlash a then
      .ok ('/' :: '/' :: writeFilePath (segments true true (b :: rest)))
    else .ok ('/' :: '/' :: writeFilePath (segments true true cs))
  | _ =>
    let path := if cs.head?.any Scheme.file.isSlash then cs.drop 1 else cs
    .ok ('/' :: '/' :: writeFilePath (segments true true path))

/-- What follows a scheme other than those of files and the web, up to the `tail`. A path whose
first segment has no name is marked as a path, since it would be taken for an authority. -/
def otherRest (cs tail : List Char) : Except ParseError (List Char) :=
  match cs with
  | '/' :: '/' :: rest => hierarchical .other rest tail
  | '/' :: rest =>
    let path := writePath (segments false false rest)
    .ok (if "//".toList.isPrefixOf path then '/' :: '.' :: path else path)
  | _ => .ok (encode isForeign cs)

/-- What follows the colon of a scheme, up to the `tail`. -/
def restOf (scheme : Scheme) (cs tail : List Char) : Except ParseError (List Char) :=
  match scheme with
  | .file => fileRest cs
  | .web _ => hierarchical scheme (cs.dropWhile scheme.isSlash) tail
  | .other => otherRest cs tail

/-- The address that a text spells. -/
def parse (text : String) : Except ParseError Uri :=
  match scheme? (trim text) with
  | none => .error .relative
  | some (name, after) => do
    let scheme := Scheme.ofName (String.ofList name)
    let tail := after.dropWhile isPathChar
    let rest ← restOf scheme (after.takeWhile isPathChar) tail
    return ⟨String.ofList (name ++ ':' :: rest ++ writeTail scheme.isSpecial tail)⟩

end Uri

end FanServer
