import FanServer.Json

/-!
# Reading JSON

`Json.parse?` reads a whole text as one value. An escaped pair of surrogates is the character it
encodes; a surrogate that stands alone is refused, since no text can hold it.

The readers below take the characters that are left and give back those they leave. Nesting is
bounded by `fuel`, of which the length of the text is always enough: every value takes at least
one character.
-/

namespace FanServer.Json

/-- The blanks between the parts of a value. -/
def isSpace (c : Char) : Bool :=
  c == ' ' || c == '\t' || c == '\n' || c == '\r'

/-- The value of a hexadecimal digit. -/
def hexValue? (c : Char) : Option Nat :=
  if '0' ≤ c ∧ c ≤ '9' then some (c.toNat - 48)
  else if 'a' ≤ c ∧ c ≤ 'f' then some (c.toNat - 87)
  else if 'A' ≤ c ∧ c ≤ 'F' then some (c.toNat - 55)
  else none

/-- The number that four hexadecimal digits spell. -/
def hexUnit? (a b c d : Char) : Option Nat := do
  return (((← hexValue? a) * 16 + (← hexValue? b)) * 16 + (← hexValue? c)) * 16 + (← hexValue? d)

/-- The character that an escape letter stands for. -/
def escaped? (c : Char) : Option Char :=
  if c = '"' ∨ c = '\\' ∨ c = '/' then some c
  else if c = 'b' then some '\x08'
  else if c = 'f' then some '\x0c'
  else if c = 'n' then some '\n'
  else if c = 'r' then some '\r'
  else if c = 't' then some '\t'
  else none

/-- The unit is the first half of a surrogate pair. -/
def isHighSurrogate (n : Nat) : Bool :=
  0xD800 ≤ n && n ≤ 0xDBFF

/-- The unit is the second half of a surrogate pair. -/
def isLowSurrogate (n : Nat) : Bool :=
  0xDC00 ≤ n && n ≤ 0xDFFF

/-- Read the rest of a text after its opening quote; `read` holds the characters so far, the last
one first. -/
def chars (read : List Char) : List Char → Option (String × List Char)
  | [] => none
  | '"' :: cs => some (String.ofList read.reverse, cs)
  | '\\' :: 'u' :: a :: b :: c :: d :: '\\' :: 'u' :: e :: f :: g :: h :: cs => do
    let unit ← hexUnit? a b c d
    if isHighSurrogate unit then
      let second ← hexUnit? e f g h
      guard (isLowSurrogate second)
      chars (Char.ofNat (0x10000 + (unit - 0xD800) * 0x400 + (second - 0xDC00)) :: read) cs
    else
      guard (!isLowSurrogate unit)
      chars (Char.ofNat unit :: read) ('\\' :: 'u' :: e :: f :: g :: h :: cs)
  | '\\' :: 'u' :: a :: b :: c :: d :: cs => do
    let unit ← hexUnit? a b c d
    guard (!isHighSurrogate unit && !isLowSurrogate unit)
    chars (Char.ofNat unit :: read) cs
  | '\\' :: c :: cs => do
    let escaped ← escaped? c
    chars (escaped :: read) cs
  | c :: cs => if c.toNat < 0x20 then none else chars (c :: read) cs

/-- The characters a number is made of. -/
def isNumberChar (c : Char) : Bool :=
  c.isDigit || c == '-' || c == '+' || c == '.' || c == 'e' || c == 'E'

/-- The natural number that decimal digits spell. -/
def digitsValue (digits : List Char) : Nat :=
  digits.foldl (fun value c => value * 10 + (c.toNat - 48)) 0

/-- The number that the characters spell. -/
def number? (cs : List Char) : Option Json :=
  let digits := match cs with
    | '-' :: rest => rest
    | _ => cs
  match digits with
  | [] => none
  | d :: _ =>
    if digits.all Char.isDigit then
      some (.int (if cs.head? = some '-' then -(digitsValue digits : Int) else digitsValue digits))
    else if d.isDigit then some (.decimal (String.ofList cs))
    else none

/-- Read one of the three words. -/
def word? (cs : List Char) : Option (Json × List Char) :=
  match cs with
  | 'n' :: 'u' :: 'l' :: 'l' :: rest => some (.null, rest)
  | 't' :: 'r' :: 'u' :: 'e' :: rest => some (.bool true, rest)
  | 'f' :: 'a' :: 'l' :: 's' :: 'e' :: rest => some (.bool false, rest)
  | _ => none

mutual

/-- Read a value. -/
def value (fuel : Nat) (cs : List Char) : Option (Json × List Char) :=
  match fuel with
  | 0 => none
  | fuel + 1 =>
    match cs.dropWhile isSpace with
    | [] => none
    | c :: rest =>
      if c = '"' then (chars [] rest).map fun (text, left) => (.string text, left)
      else if c = '[' then
        match rest.dropWhile isSpace with
        | ']' :: left => some (.array [], left)
        | rest => (items fuel rest).map fun (values, left) => (.array values, left)
      else if c = '\x7b' then
        match rest.dropWhile isSpace with
        | '\x7d' :: left => some (.object [], left)
        | rest => (fields fuel rest).map fun (values, left) => (.object values, left)
      else if isNumberChar c then
        (number? ((c :: rest).takeWhile isNumberChar)).map fun number =>
          (number, (c :: rest).dropWhile isNumberChar)
      else word? (c :: rest)

/-- Read the items of a list through its closing bracket. -/
def items (fuel : Nat) (cs : List Char) : Option (List Json × List Char) :=
  match fuel with
  | 0 => none
  | fuel + 1 =>
    match value fuel cs with
    | none => none
    | some (first, rest) =>
      match rest.dropWhile isSpace with
      | ',' :: rest => (items fuel rest).map fun (others, left) => (first :: others, left)
      | ']' :: left => some ([first], left)
      | _ => none

/-- Read the fields of an object through its closing brace. -/
def fields (fuel : Nat) (cs : List Char) : Option (List (String × Json) × List Char) :=
  match fuel with
  | 0 => none
  | fuel + 1 =>
    match cs.dropWhile isSpace with
    | '"' :: rest =>
      match chars [] rest with
      | none => none
      | some (name, rest) =>
        match rest.dropWhile isSpace with
        | ':' :: rest =>
          match value fuel rest with
          | none => none
          | some (first, rest) =>
            match rest.dropWhile isSpace with
            | ',' :: rest =>
              (fields fuel rest).map fun (others, left) => ((name, first) :: others, left)
            | '\x7d' :: left => some ([(name, first)], left)
            | _ => none
        | _ => none
    | _ => none

end

/-- The value that a whole text spells. -/
def parse? (text : String) : Option Json :=
  match value (2 * text.length + 1) text.toList with
  | some (json, rest) => if rest.all isSpace then some json else none
  | none => none

end FanServer.Json
