/-!
# Shifts

Many tables of characters are regular: characters at a fixed distance from each other correspond to
characters at the same distance, as capital letters do to small ones. Such a stretch is a shift.
-/

namespace FanServer.Text

/-- Code points at a regular distance that correspond to code points at the same distance. -/
structure Shift where
  /-- the first code point -/
  first : Nat
  /-- the last code point -/
  last : Nat
  /-- the distance from one to the next -/
  step : Nat
  /-- what the first corresponds to -/
  target : Nat
  deriving Repr

/-- The shift covers a code point. -/
def Shift.covers (shift : Shift) (n : Nat) : Bool :=
  shift.first ≤ n && n ≤ shift.last && (n - shift.first) % shift.step == 0

/-- What a code point corresponds to, if one of the shifts covers it. -/
def shifted? (shifts : List Shift) (n : Nat) : Option Nat :=
  (shifts.find? fun shift => shift.covers n).map fun shift => n - shift.first + shift.target

end FanServer.Text
