/-!
# Punycode

A label of a domain name is written in ASCII by putting its ASCII characters first and then saying
where the others stand: each of them, in the order of their code points, as the number of places
passed since the one before. The numbers are written in digits of varying weight, which adapt to
the numbers seen so far.
-/

namespace FanServer.Uri.Punycode

/-- The base of the digits. -/
def base : Nat := 36

/-- The written form of a digit. -/
def digit (n : Nat) : Char :=
  if n < 26 then Char.ofNat (97 + n) else Char.ofNat (22 + n)

/-- The value of a digit. -/
def digitValue? (c : Char) : Option Nat :=
  if 'a' ≤ c ∧ c ≤ 'z' then some (c.toNat - 97)
  else if 'A' ≤ c ∧ c ≤ 'Z' then some (c.toNat - 65)
  else if '0' ≤ c ∧ c ≤ '9' then some (c.toNat - 22)
  else none

/-- The least value of a digit at a place that is not the last of its number. -/
def threshold (bias place : Nat) : Nat :=
  if place ≤ bias then 1 else if bias + 26 ≤ place then 26 else place - bias

theorem one_le_threshold (bias place : Nat) : 1 ≤ threshold bias place := by
  unfold threshold
  split
  · omega
  · split <;> omega

/-- Divide until the number is small, counting places. -/
def settle (delta place : Nat) : Nat :=
  if 455 < delta then settle (delta / 35) (place + base)
  else place + base * delta / (delta + 38)
termination_by delta
decreasing_by exact Nat.div_lt_self (by omega) (by omega)

/-- The bias after a number; `count` characters have been placed by then. -/
def adapt (delta count : Nat) (isFirst : Bool) : Nat :=
  let halved := if isFirst then delta / 700 else delta / 2
  settle (halved + halved / count) 0

/-! ### Writing -/

/-- The digits of a number. -/
def writeNumber (bias place n : Nat) : List Char :=
  let t := threshold bias place
  if n < t then [digit n]
  else digit (t + (n - t) % (base - t)) :: writeNumber bias (place + base) ((n - t) / (base - t))
termination_by n
decreasing_by
  have := one_le_threshold bias place
  exact Nat.lt_of_le_of_lt (Nat.div_le_self _ _) (by omega)

/-- What has been written so far. -/
structure Writer where
  /-- the digits -/
  digits : List Char
  /-- the places passed since the last character was placed -/
  delta : Nat
  /-- the bias of the next number -/
  bias : Nat
  /-- how many characters have been placed -/
  count : Nat

/-- Pass a character of the label, and place it if it has the code point `n`. -/
def Writer.pass (n asciiCount : Nat) (w : Writer) (c : Char) : Writer :=
  if c.toNat < n then { w with delta := w.delta + 1 }
  else if c.toNat = n then
    ⟨w.digits ++ writeNumber w.bias base w.delta, 0,
      adapt w.delta (w.count + 1) (w.count == asciiCount), w.count + 1⟩
  else w

/-- Place the characters of a label with the given code points, which increase; all code points
below `start` have been dealt with. -/
def place (label : List Char) (asciiCount : Nat) (w : Writer) (start : Nat) : List Nat → Writer
  | [] => w
  | n :: rest =>
    let reached := { w with delta := w.delta + (n - start) * (w.count + 1) }
    let passed := label.foldl (Writer.pass n asciiCount) reached
    place label asciiCount { passed with delta := passed.delta + 1 } (n + 1) rest

/-- The written form of a label. -/
def encode (label : List Char) : List Char :=
  let ascii := label.filter fun c => c.toNat < 0x80
  let others := ((label.map Char.toNat).filter (0x80 ≤ ·)).mergeSort.eraseDups
  let written := place label ascii.length ⟨[], 0, 72, ascii.length⟩ 0x80 others
  (if ascii.isEmpty then [] else ascii ++ ['-']) ++ written.digits

/-! ### Reading -/

/-- Read a number. -/
def readNumber (bias place weight : Nat) : List Char → Option (Nat × List Char)
  | [] => none
  | c :: cs => do
    let value ← digitValue? c
    let t := threshold bias place
    if value < t then return (value * weight, cs)
    let (rest, left) ← readNumber bias (place + base) (weight * (base - t)) cs
    return (value * weight + rest, left)

/-- Read where the characters beyond ASCII stand. The numbers count through the places of the label,
once for every code point; `total` is how far they have come. -/
def readPlaces (fuel : Nat) (label : List Char) (total bias : Nat) (isFirst : Bool)
    (cs : List Char) : Option (List Char) :=
  match fuel, cs with
  | _, [] => some label
  | 0, _ => none
  | fuel + 1, cs => do
    let (delta, rest) ← readNumber bias base 1 cs
    let total := total + delta
    let count := label.length + 1
    let n := total / count
    guard n.isValidChar
    let position := total % count
    readPlaces fuel (label.take position ++ Char.ofNat n :: label.drop position)
      (n * (count + 1) + position + 1) (adapt delta count isFirst) false rest

/-- The label that a written form stands for. -/
def decode? (cs : List Char) : Option (List Char) :=
  let afterLast := (cs.reverse.takeWhile (· != '-')).reverse
  let before := cs.take (cs.length - afterLast.length - 1)
  if cs.contains '-' then
    readPlaces (cs.length + 1) before (0x80 * (before.length + 1)) 72 true afterLast
  else readPlaces (cs.length + 1) [] 0x80 72 true cs

end FanServer.Uri.Punycode
