/-!
# Floating-point numbers

A number with a fraction or an exponent is a binary floating-point number of 64 bits: an integer
below 2^53 times a power of two from 2^(-1074) on. `Binary64.ofDecimal` takes a decimal number to
the **nearest** of these, and a number halfway between two of them to the one with the even integer.
`Binary64.toText` writes the **fewest digits** that are read back as the same number; of several
such texts it takes the one that is nearest to the number.

All of it is done in natural numbers: a number `n · b^e` is a fraction of `n · b^e` and `1`, or of
`n` and `b^(-e)`.
-/

namespace FanServer.Settings

/-- A binary floating-point number of 64 bits. -/
inductive Binary64 where
  /-- an integer times a power of two, with a sign that zero has too -/
  | finite (negative : Bool) (mantissa : Nat) (exponent : Int)
  /-- a number that is too large -/
  | infinite (negative : Bool)
  /-- no number -/
  | nan
  deriving DecidableEq, Repr

namespace Binary64

/-- The mantissa is below this power of two. -/
def limit : Nat := 9007199254740992

/-- The least exponent. -/
def leastExponent : Int := -1074

/-- The greatest exponent. -/
def greatestExponent : Int := 971

/-- The numerator of a power. -/
def above (base : Nat) (exponent : Int) : Nat :=
  Nat.pow base exponent.toNat

/-- The denominator of a power. -/
def below (base : Nat) (exponent : Int) : Nat :=
  Nat.pow base (-exponent).toNat

/-! ### Reading -/

/-- The integer nearest to a fraction, and of two the even one. -/
def nearest (num den : Nat) : Nat :=
  let floor := num / den
  let twice := 2 * (num % den)
  if twice < den then floor
  else if den < twice then floor + 1
  else if floor % 2 = 0 then floor
  else floor + 1

/-- The exponent of the greatest power of two that is not above a fraction. -/
def log (num den : Nat) : Int :=
  let guess : Int := (Nat.log2 num : Int) - (Nat.log2 den : Int)
  if num * below 2 guess < den * above 2 guess then guess - 1 else guess

/-- The number nearest to a fraction. -/
def ofFraction (negative : Bool) (num den : Nat) : Binary64 :=
  let exponent := max leastExponent (log num den - 52)
  let mantissa := nearest (num * below 2 exponent) (den * above 2 exponent)
  let rounded := if mantissa = limit then (mantissa / 2, exponent + 1) else (mantissa, exponent)
  if greatestExponent < rounded.2 then infinite negative
  else finite negative rounded.1 rounded.2

/-- The number nearest to `digits · 10^exponent`. Numbers far beyond the greatest and far below the
least one are told by their size alone. -/
def ofDecimal (negative : Bool) (digits : Nat) (exponent : Int) : Binary64 :=
  let size : Int := (Nat.toDigits 10 digits).length + exponent
  if digits = 0 ∨ size < -330 then finite negative 0 leastExponent
  else if 310 < size then infinite negative
  else ofFraction negative (digits * above 10 exponent) (below 10 exponent)

/-! ### Writing -/

/-- The multiple of `10^place` that is read back as `mantissa · 2^exponent`, if there is one: what
to multiply with. It is one of the two around the number; where both will do, the nearer, and of two
at the same distance the greater.

The numbers that are read back so reach halfway to the next ones, and up to the very half if the
mantissa is even. The next one below a power of two is only half as far away. -/
def multiple? (mantissa : Nat) (exponent place : Int) : Option Nat :=
  let quarter := above 2 (exponent - 2) * below 10 place
  let unit := below 2 (exponent - 2) * above 10 place
  let value := 4 * mantissa * quarter
  let low :=
    (4 * mantissa - if mantissa * 2 = limit ∧ leastExponent < exponent then 1 else 2) * quarter
  let high := (4 * mantissa + 2) * quarter
  let reaches (n : Nat) : Bool :=
    if mantissa % 2 = 0 then low ≤ n && n ≤ high else low < n && n < high
  let floor := value / unit
  let isDown := reaches (floor * unit)
  let isUp := reaches ((floor + 1) * unit)
  if isUp && (!isDown || unit ≤ 2 * (value - floor * unit)) then some (floor + 1)
  else if isDown then some floor
  else none

/-- The fewest digits that are read back as `mantissa · 2^exponent`, and the power of ten to
multiply them with. The places are tried from the left. -/
def shortest? (mantissa : Nat) (exponent : Int) : Option (Nat × Int) :=
  (List.range 660).findSome? fun (i : Nat) =>
    let place : Int := 309 - (i : Int)
    (multiple? mantissa exponent place).map fun digits => (digits, place)

/-- The text of `digits · 10^place`. -/
def positional (digits : Nat) (place : Int) : List Char :=
  let text := Nat.toDigits 10 digits
  if 0 ≤ place then text ++ List.replicate place.toNat '0'
  else
    let fraction := (-place).toNat
    let padded := List.replicate (fraction + 1 - text.length) '0' ++ text
    padded.take (padded.length - fraction) ++ '.' :: padded.drop (padded.length - fraction)

/-- The text of a number. -/
def toText : Binary64 → String
  | finite negative mantissa exponent =>
    let text := match mantissa, shortest? mantissa exponent with
      | 0, _ => ['0']
      | _, some (digits, place) => positional digits place
      | _, none => ['0']
    String.ofList (if negative then '-' :: text else text)
  | infinite negative => if negative then "-inf" else "inf"
  | nan => "NaN"

/-- The number is zero. -/
def isZero : Binary64 → Bool
  | finite _ mantissa _ => mantissa == 0
  | _ => false

end Binary64

end FanServer.Settings
