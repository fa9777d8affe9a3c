import FanServer.Settings.Toml.Date
import FanServer.Settings.Toml.Text
import FanServer.Settings.Value

/-!
# Numbers, dates and truth values of settings files

All of these are written in one run of characters, except that a blank may stand between a date and
a time. The digits of a number may have underscores between them.
-/

namespace FanServer.Settings.Toml

/-- The characters that numbers, dates and truth values are made of. -/
def isRunChar (c : Char) : Bool :=
  c.isAlphanum || ['_', '+', '-', '.', ':'].contains c

/-- The digits without the underscores between them; each underscore stands between two digits. -/
def joined? (cs : List Char) : Option (List Char) :=
  match cs with
  | [] => none
  | '_' :: _ => none
  | [c] => some [c]
  | c :: '_' :: rest => (joined? rest).map (c :: ·)
  | c :: rest => (joined? rest).map (c :: ·)

/-- The sign of a number, and the rest of it. -/
def signed : List Char → Bool × List Char
  | '-' :: rest => (true, rest)
  | '+' :: rest => (false, rest)
  | cs => (false, cs)

/-! ### Integers -/

/-- The digits that a number without a sign begins with are well formed: a leading zero stands
alone. -/
def whole? (cs : List Char) : Option (List Char) := do
  let digits ← joined? cs
  guard (digits.all Char.isDigit ∧ (digits.length = 1 ∨ digits.head? ≠ some '0'))
  return digits

/-- The integer fits into 64 bits. -/
def inRange? (n : Int) : Option Int :=
  if Int64.minValue.toInt ≤ n ∧ n ≤ Int64.maxValue.toInt then some n else none

/-- The integer that digits of a base other than ten spell. -/
def based? (base : Nat) (cs : List Char) : Option Int :=
  ((joined? cs).bind (Text.digits? base)).bind fun n => inRange? n

/-- The integer that a run of characters spells. -/
def integer? (cs : List Char) : Option Int :=
  match cs with
  | '0' :: 'x' :: rest => based? 16 rest
  | '0' :: 'o' :: rest => based? 8 rest
  | '0' :: 'b' :: rest => based? 2 rest
  | _ => do
    let (negative, rest) := signed cs
    let size ← Text.digits? 10 (← whole? rest)
    inRange? (if negative then -size else size)

/-! ### Floating-point numbers -/

/-- The exponent that follows `e`, with a sign or without; there is none at the end. -/
def exponent? (cs : List Char) : Option Int :=
  match cs with
  | [] => some 0
  | _ :: rest => do
    let (negative, digits) := signed rest
    let size ← Text.digits? 10 (← joined? digits)
    return if negative then -size else size

/-- The digits after the point, and what follows them. -/
def fractional? (cs : List Char) : Option (List Char × List Char) :=
  match cs with
  | '.' :: rest => do
    let digits ← joined? (rest.takeWhile fun c => c != 'e' && c != 'E')
    return (digits, rest.dropWhile fun c => c != 'e' && c != 'E')
  | _ => some ([], cs)

/-- The decimal number that a run of characters without sign spells. A number that is too large is
none, unless it is negative. -/
def decimal? (negative : Bool) (cs : List Char) : Option Binary64 := do
  let isEnd (c : Char) : Bool := c == '.' || c == 'e' || c == 'E'
  let rest := cs.dropWhile fun c => !isEnd c
  guard (!rest.isEmpty)
  let digits ← whole? (cs.takeWhile fun c => !isEnd c)
  let (fraction, rest) ← fractional? rest
  let size ← Text.digits? 10 (digits ++ fraction)
  let number := Binary64.ofDecimal negative size ((← exponent? rest) - fraction.length)
  guard (number ≠ .infinite false)
  return number

/-- The floating-point number that a run of characters spells. -/
def float? (cs : List Char) : Option Binary64 :=
  match signed cs with
  | (negative, ['i', 'n', 'f']) => some (.infinite negative)
  | (_, ['n', 'a', 'n']) => some .nan
  | (negative, rest) => decimal? negative rest

/-! ### Any run -/

/-- The value that a run of characters spells. -/
def ofRun? (cs : List Char) : Option Value :=
  match cs with
  | ['t', 'r', 'u', 'e'] => some (.bool true)
  | ['f', 'a', 'l', 's', 'e'] => some (.bool false)
  | _ =>
    ((integer? cs).map Value.int).or
      (((float? cs).map Value.float).or
        (((dateText? cs).or (timeText? false cs)).map fun text => .string (String.ofList text)))

/-- Read a number, a date or a truth value. A date may be followed by a blank and a time. -/
def run? (cs : List Char) : Option (Value × List Char) :=
  let run := cs.takeWhile isRunChar
  match date? run, cs.dropWhile isRunChar with
  | some (_, []), ' ' :: rest =>
    let time := rest.takeWhile isRunChar
    if time.isEmpty then (ofRun? run).map fun value => (value, ' ' :: rest)
    else (ofRun? (run ++ 'T' :: time)).map fun value => (value, rest.dropWhile isRunChar)
  | _, rest => (ofRun? run).map fun value => (value, rest)

end FanServer.Settings.Toml
