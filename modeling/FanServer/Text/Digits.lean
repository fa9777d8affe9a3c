/-!
# Digits

Numbers are spelled in bases up to sixteen, with letters of either case for the digits from ten on.
-/

namespace FanServer.Text

/-- The value of a digit in any base up to sixteen. -/
def digitValue? (c : Char) : Option Nat :=
  if '0' ≤ c ∧ c ≤ '9' then some (c.toNat - 48)
  else if 'a' ≤ c ∧ c ≤ 'f' then some (c.toNat - 87)
  else if 'A' ≤ c ∧ c ≤ 'F' then some (c.toNat - 55)
  else none

/-- The number that digits of a base spell; no digits spell zero. -/
def digits? (base : Nat) (cs : List Char) : Option Nat :=
  cs.foldlM (fun value c => do
    let digit ← digitValue? c
    guard (digit < base)
    return value * base + digit) 0

end FanServer.Text
