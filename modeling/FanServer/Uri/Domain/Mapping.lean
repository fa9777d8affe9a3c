import FanServer.Text.LowerCase
import FanServer.Text.Printable
import FanServer.Uri.Domain.Expansion
import FanServer.Uri.Domain.Joining
import FanServer.Uri.Domain.Variant

/-!
# Characters in domain names

A domain name may be typed in many ways. Each of its characters is kept, left out, replaced by
others or not allowed at all: capital letters are replaced by small ones, variants by the plain
characters and ligatures by their letters, and characters that are not seen are left out.
-/

namespace FanServer.Uri.Domain

/-- What becomes of a character of a domain name. -/
inductive Treatment where
  /-- it stands for itself -/
  | kept
  /-- it is replaced -/
  | replaced (plain : List Char)
  /-- it is left out -/
  | ignored
  /-- it may not stand in a domain name -/
  | disallowed
  deriving DecidableEq, Repr

/-- The characters that are left out, as closed intervals in increasing order. -/
def ignoredRanges : List (Nat × Nat) :=
  [
    (0xAD, 0xAD), (0x34F, 0x34F), (0x115F, 0x1160), (0x17B4, 0x17B5), (0x180B, 0x180F),
    (0x200B, 0x200B), (0x2060, 0x2064), (0x206A, 0x206F), (0x3164, 0x3164), (0xFE00, 0xFE0F),
    (0xFEFF, 0xFEFF), (0xFFA0, 0xFFA0), (0x1BCA0, 0x1BCA3), (0x1D173, 0x1D17A), (0xE0100, 0xE01EF)
  ]

/-- The printable characters that are not allowed: those that would be spelled with a full stop, and
those that describe or stand in for others. -/
def disallowedRanges : List (Nat × Nat) :=
  [
    (0x2024, 0x2026), (0x2488, 0x249B), (0x2FF0, 0x2FFF), (0x31EF, 0x31EF), (0x33C2, 0x33C2),
    (0x33C7, 0x33C7), (0x33D8, 0x33D8), (0xFE12, 0xFE12), (0xFE19, 0xFE19), (0xFE30, 0xFE30),
    (0xFE52, 0xFE52), (0xFFFC, 0xFFFD), (0x1F100, 0x1F100)
  ]

/-- The capital letters that stand for themselves: those of the Cherokee script. -/
def keptCapitals : List (Nat × Nat) :=
  [(0x13A0, 0x13F5)]

/-- What a code point has in a list of stretches of consecutive ones. -/
def lookup? {α : Type} (blocks : List (Nat × List α)) (n : Nat) : Option α :=
  blocks.findSome? fun (first, values) => if first ≤ n then values[n - first]? else none

/-- What a character is replaced by, if it is a capital letter, a variant or a ligature. -/
def replacement? (c : Char) : Option (List Char) :=
  let n := c.toNat
  let plain := (lookup? variants n).or (Text.shifted? variantShifts n)
  match lookup? expansions n, plain with
  | some plain, _ => some (plain.map Char.ofNat)
  | none, some plain => some [Char.ofNat plain]
  | none, none =>
    if Text.isIn keptCapitals n || Text.lowerChar c == c then none else some [Text.lowerChar c]

/-- What becomes of a character. Of the characters in ASCII only the capital letters matter here. -/
def treat (c : Char) : Treatment :=
  let n := c.toNat
  if Text.isIn ignoredRanges n then .ignored
  else
    match replacement? c with
    | some plain => .replaced plain
    | none =>
      if n < 0x80 || c = joiner || c = nonJoiner then .kept
      else if Text.isPrintable c && !Text.isIn disallowedRanges n then .kept
      else .disallowed

/-- The characters that a text stands for in a domain name, unless one is not allowed. -/
def mapped? (cs : List Char) : Option (List Char) :=
  match cs with
  | [] => some []
  | c :: cs =>
    match treat c with
    | .kept => (mapped? cs).map (c :: ·)
    | .replaced plain => (mapped? cs).map (plain ++ ·)
    | .ignored => mapped? cs
    | .disallowed => none

end FanServer.Uri.Domain
