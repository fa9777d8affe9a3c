import FanServer.Uri.Domain.Mapping
import FanServer.Uri.Domain.Mark
import FanServer.Uri.Domain.NormalForm
import FanServer.Uri.Punycode

/-!
# Domain names

A domain name is a list of labels with dots between them. In an address it is written in ASCII: its
characters are replaced by the plain ones they stand for and brought into normal form, and a label
that still has characters beyond ASCII is written in Punycode after `xn--`. A label that comes
written so must stand for such a label, and must be the one way to write it.
-/

namespace FanServer.Uri

/-- The parts of a text between the characters of a class. -/
def splitWhere (separator : Char → Bool) : List Char → List (List Char)
  | [] => [[]]
  | c :: cs =>
    if separator c then [] :: splitWhere separator cs
    else
      match splitWhere separator cs with
      | [] => [[c]]
      | part :: parts => (c :: part) :: parts

/-- Parts with a separator between them. -/
def joinWith (separator : List Char) : List (List Char) → List Char
  | [] => []
  | [part] => part
  | part :: parts => part ++ separator ++ joinWith separator parts

namespace Domain

/-- The character is in ASCII. -/
def isAscii (c : Char) : Bool :=
  c.toNat < 0x80

/-- The character may not stand in a domain name of an address. -/
def isForbidden (c : Char) : Bool :=
  c.toNat ≤ 0x20 || c.toNat == 0x7F ||
    ['#', '/', ':', '<', '>', '?', '@', '[', '\\', ']', '^', '|', '%'].contains c

/-- What a label in Punycode begins with. -/
def punycodeMark : List Char := ['x', 'n', '-', '-']

/-- The greatest number of characters of a label beyond ASCII. -/
def labelLimit : Nat := 1000

/-- The greatest number of characters after the mark of a label in Punycode. -/
def writtenLimit : Nat := 2000

/-- A label beyond ASCII is well formed: all its characters stand for themselves, it is in normal
form, does not begin with a mark, has joiners only where they make a difference, and is not too
long. -/
def isLabel (label : List Char) : Bool :=
  label.all (fun c => treat c = .kept) && normalForm label == label &&
    !label.head?.any isMark && joinersFit [] label && !punycodeMark.isPrefixOf label &&
    label.length ≤ labelLimit

/-- The label that a label stands for. Only one in Punycode stands for another. -/
def meaning? (label : List Char) : Option (List Char) :=
  if punycodeMark.isPrefixOf label then do
    let written := label.drop punycodeMark.length
    guard (label.all isAscii ∧ written.length ≤ writtenLimit)
    let decoded ← Punycode.decode? written
    guard (!decoded.all isAscii && isLabel decoded && Punycode.encode decoded == written)
    return decoded
  else if label.all isAscii || isLabel label then some label
  else none

/-- The written form of a label in ASCII. -/
def written (label : List Char) : List Char :=
  if label.all isAscii then label else punycodeMark ++ Punycode.encode label

/-- The written form of a domain name in ASCII. If there is a character that is written from right
to left, every label must be readable in one direction. -/
def toAscii? (cs : List Char) : Option (List Char) := do
  let plain := normalForm (← mapped? cs)
  guard (!plain.any isForbidden)
  let labels := splitWhere (· == '.') plain
  let meanings ← labels.mapM meaning?
  guard (!meanings.any hasRightToLeft || meanings.all isReadable)
  return joinWith ['.'] (labels.map written)

end Domain

end FanServer.Uri
