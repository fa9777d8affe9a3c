/-!
# Intervals of characters

A class of characters is written down as closed intervals of code points, in increasing order.
-/

namespace FanServer.Text

/-- The code point is in one of the intervals. -/
def isIn (intervals : List (Nat × Nat)) (n : Nat) : Bool :=
  intervals.any fun interval => interval.1 ≤ n && n ≤ interval.2

end FanServer.Text
