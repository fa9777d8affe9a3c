import FanServer.Uri.Domain
import FanServer.Uri.Percent

/-!
# Hosts

The host of an address is a domain name, an IPv4 address or an IPv6 address. `Host.parse` reads the
hosts of the web and of files: a domain name is brought into lower case and into ASCII, and one that
ends in a number must be an IPv4 address, in any of its spellings. `Host.parseOpaque` reads the
hosts of other schemes, whose names are kept as they are.
-/

namespace FanServer.Uri

/-- Why a text is no address. -/
inductive ParseError where
  /-- there is no scheme -/
  | relative
  /-- there is no host where there must be one -/
  | emptyHost
  /-- what follows the colon after a host is no number, or too large -/
  | invalidPort
  /-- a host that ends in a number is no IPv4 address -/
  | invalidIpv4
  /-- a host in brackets is no IPv6 address -/
  | invalidIpv6
  /-- a host holds a character that it may not hold -/
  | invalidHostCharacter
  /-- a domain name cannot be brought into ASCII -/
  | invalidDomain
  deriving DecidableEq, Repr

/-- The wording of an error. -/
def ParseError.message : ParseError → String
  | relative => "relative URL without a base"
  | emptyHost => "empty host"
  | invalidPort => "invalid port number"
  | invalidIpv4 => "invalid IPv4 address"
  | invalidIpv6 => "invalid IPv6 address"
  | invalidHostCharacter => "invalid domain character"
  | invalidDomain => "invalid international domain name"

namespace Host

/-! ### IPv4 -/

/-- The number that a part of an IPv4 address spells: in hexadecimal after `0x`, in octal after `0`,
and else in decimal. -/
def ipv4Number? : List Char → Option Nat
  | [] => none
  | '0' :: 'x' :: rest => Text.digits? 16 rest
  | '0' :: 'X' :: rest => Text.digits? 16 rest
  | '0' :: c :: rest => Text.digits? 8 (c :: rest)
  | cs => Text.digits? 10 cs

/-- The parts of a domain name without the empty one after a final dot. -/
def domainParts (cs : List Char) : List (List Char) :=
  let parts := splitWhere (· == '.') cs
  if parts.getLast? = some [] then parts.dropLast else parts

/-- The last part of the domain name is a number. -/
def endsInNumber (cs : List Char) : Bool :=
  match (domainParts cs).getLast? with
  | none => false
  | some part => (!part.isEmpty && part.all Char.isDigit) || (ipv4Number? part).isSome

/-- The IPv4 address that numbers spell: each but the last is a byte, and the last fills up what is
left. -/
def ipv4OfNumbers? (numbers : List Nat) : Option Nat := do
  let last ← numbers.getLast?
  let bytes := numbers.dropLast
  let room := Nat.pow 256 (4 - bytes.length)
  guard (bytes.length ≤ 3 ∧ bytes.all (· < 256) ∧ last < room)
  return bytes.foldl (fun value byte => value * 256 + byte) 0 * room + last

/-- The IPv4 address that a domain name spells. -/
def ipv4? (cs : List Char) : Option Nat :=
  ((domainParts cs).mapM ipv4Number?).bind ipv4OfNumbers?

/-- The written form of an IPv4 address. -/
def writeIpv4 (address : Nat) : List Char :=
  let bytes := [address / 16777216, address / 65536 % 256, address / 256 % 256, address % 256]
  joinWith ['.'] (bytes.map fun byte => Nat.toDigits 10 byte)

/-! ### IPv6 -/

/-- A group of an IPv6 address: one to four hexadecimal digits. -/
def ipv6Group? (cs : List Char) : Option Nat :=
  if cs.isEmpty || 4 < cs.length then none else Text.digits? 16 cs

/-- A byte of an IPv4 address at the end of an IPv6 address. -/
def plainByte? (cs : List Char) : Option Nat := do
  guard (!cs.isEmpty && (cs.length == 1 || cs.head? != some '0'))
  let byte ← Text.digits? 10 cs
  guard (byte < 256)
  return byte

/-- The two groups that an IPv4 address at the end of an IPv6 address makes. -/
def ipv4Groups? (cs : List Char) : Option (List Nat) := do
  match ← (splitWhere (· == '.') cs).mapM plainByte? with
  | [a, b, c, d] => return [a * 256 + b, c * 256 + d]
  | _ => none

/-- The groups that parts spell; the last part may be an IPv4 address if it is the `end` of the
address. -/
def ipv6Groups? (isEnd : Bool) : List (List Char) → Option (List Nat)
  | [] => some []
  | [part] => if isEnd && part.contains '.' then ipv4Groups? part else (ipv6Group? part).map ([·])
  | part :: parts => do
    let group ← ipv6Group? part
    let groups ← ipv6Groups? isEnd parts
    return group :: groups

/-- What stands before and after the first double colon. -/
def splitDoubleColon : List Char → Option (List Char × List Char)
  | [] => none
  | ':' :: ':' :: rest => some ([], rest)
  | c :: cs => (splitDoubleColon cs).map fun (before, after) => (c :: before, after)

/-- The groups on one side of the double colon. -/
def ipv6Side? (isEnd : Bool) (cs : List Char) : Option (List Nat) :=
  if cs.isEmpty then some [] else ipv6Groups? isEnd (splitWhere (· == ':') cs)

/-- The eight groups of the IPv6 address that a text spells. A double colon stands for one or more
groups that are zero. -/
def ipv6? (cs : List Char) : Option (List Nat) :=
  match splitDoubleColon cs with
  | none => do
    let groups ← ipv6Groups? true (splitWhere (· == ':') cs)
    guard (groups.length = 8)
    return groups
  | some (before, after) => do
    let left ← ipv6Side? false before
    let right ← ipv6Side? true after
    guard (left.length + right.length ≤ 7)
    return left ++ List.replicate (8 - left.length - right.length) 0 ++ right

/-- The number of zeros at the beginning. -/
def zeroRun (groups : List Nat) : Nat :=
  (groups.takeWhile (· == 0)).length

/-- Where the longest run of zeros begins and how long it is, if it has at least two; of several the
first. -/
def longestZeroRun? (groups : List Nat) : Option (Nat × Nat) :=
  let runs := (List.range groups.length).map fun i => (i, zeroRun (groups.drop i))
  let best := runs.foldl (fun best run => if best.2 < run.2 then run else best) (0, 0)
  if best.2 < 2 then none else some best

/-- Groups in hexadecimal. -/
def writeGroups (groups : List Nat) : List Char :=
  joinWith [':'] (groups.map fun group => Nat.toDigits 16 group)

/-- The written form of an IPv6 address. -/
def writeIpv6 (groups : List Nat) : List Char :=
  let inner := match longestZeroRun? groups with
    | none => writeGroups groups
    | some (start, length) =>
      writeGroups (groups.take start) ++ [':', ':'] ++ writeGroups (groups.drop (start + length))
  '[' :: inner ++ [']']

/-! ### Any host -/

/-- The written form of the IPv6 address in brackets, after the opening one. -/
def bracketed (cs : List Char) : Except ParseError (List Char) :=
  if cs.getLast? = some ']' then
    match ipv6? cs.dropLast with
    | some groups => .ok (writeIpv6 groups)
    | none => .error .invalidIpv6
  else .error .invalidIpv6

/-- The host that a domain name in ASCII is. -/
def ofDomain (domain : List Char) : Except ParseError (List Char) :=
  if domain.isEmpty then .error .emptyHost
  else if endsInNumber domain then
    match ipv4? domain with
    | some address => .ok (writeIpv4 address)
    | none => .error .invalidIpv4
  else .ok domain

/-- The normal form of a host of the web or of a file. -/
def parse (cs : List Char) : Except ParseError (List Char) :=
  match cs with
  | '[' :: rest => bracketed rest
  | _ =>
    let text? := String.fromUTF8? (decode cs).toByteArray
    match text?.bind fun text => Domain.toAscii? text.toList with
    | some domain => ofDomain domain
    | none => .error .invalidDomain

/-- The character may not stand in a host of any scheme. -/
def isOpaqueForbidden (c : Char) : Bool :=
  ['\x00', '\t', '\n', '\r', ' ', '#', '/', ':', '<', '>', '?', '@', '[', '\\', ']', '^',
    '|'].contains c

/-- The normal form of a host of a scheme other than those of the web. It may be empty. -/
def parseOpaque (cs : List Char) : Except ParseError (List Char) :=
  match cs with
  | '[' :: rest => bracketed rest
  | _ =>
    if cs.any isOpaqueForbidden then .error .invalidHostCharacter else .ok (encode isForeign cs)

end Host

end FanServer.Uri
