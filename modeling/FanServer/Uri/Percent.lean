import FanServer.Text.Digits

/-!
# Percent-encoding

A character that may not stand in a part of an address is written as its bytes, each in hexadecimal
after `%`. Which characters those are depends on the part; a character beyond ASCII and a control
character are among them everywhere.
-/

namespace FanServer.Uri

/-- A hexadecimal digit, in upper case. -/
def hexDigit (n : Nat) : Char :=
  if n < 10 then Char.ofNat (48 + n) else Char.ofNat (55 + n)

/-- A character as its bytes in hexadecimal. -/
def percentEncoded (c : Char) : List Char :=
  (String.singleton c).toUTF8.toList.flatMap fun byte =>
    ['%', hexDigit (byte.toNat / 16), hexDigit (byte.toNat % 16)]

/-- The characters with those of a class in hexadecimal. -/
def encode (foreign : Char → Bool) (cs : List Char) : List Char :=
  cs.flatMap fun c => if foreign c then percentEncoded c else [c]

/-- The bytes that characters stand for, where `%` and two digits are one byte. -/
def decode : List Char → List UInt8
  | '%' :: high :: low :: rest =>
    match Text.digitValue? high, Text.digitValue? low with
    | some h, some l => UInt8.ofNat (16 * h + l) :: decode rest
    | _, _ => 0x25 :: decode (high :: low :: rest)
  | c :: cs => (String.singleton c).toUTF8.toList ++ decode cs
  | [] => []

/-! ### Classes -/

/-- The character may not stand anywhere: a control character, or one beyond ASCII. -/
def isForeign (c : Char) : Bool :=
  c.toNat < 0x20 || 0x7E < c.toNat

/-- The character may not stand in a fragment. -/
def isFragmentForeign (c : Char) : Bool :=
  isForeign c || [' ', '"', '<', '>', '`'].contains c

/-- The character may not stand in a path. -/
def isPathForeign (c : Char) : Bool :=
  isFragmentForeign c || ['#', '?', '\x7b', '\x7d'].contains c

/-- The character may not stand in a user's name or password. -/
def isUserForeign (c : Char) : Bool :=
  isPathForeign c || ['/', ':', ';', '=', '@', '[', '\\', ']', '^', '|'].contains c

/-- The character may not stand in a query. In the query of a `special` scheme the single quote may
not stand either. -/
def isQueryForeign (special : Bool) (c : Char) : Bool :=
  isForeign c || [' ', '"', '#', '<', '>'].contains c || (special && c == '\'')

end FanServer.Uri
