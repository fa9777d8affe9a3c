import FanServer.Text.Digits

/-!
# Dates and times

A settings file may give a date, a time of day, or both with an offset from universal time. As a
setting it is a text, which has one form: a `T` between the date and the time, a capital `Z`, and a
fraction of a second in nanoseconds without zeros at its end.
-/

namespace FanServer.Settings.Toml

/-- A day of the calendar. -/
structure Date where
  /-- the year -/
  year : Nat
  /-- the month, from one on -/
  month : Nat
  /-- the day of the month, from one on -/
  day : Nat
  deriving DecidableEq, Repr

/-- A time of day. -/
structure Time where
  /-- the hour -/
  hour : Nat
  /-- the minute -/
  minute : Nat
  /-- the second, which may be a leap second -/
  second : Nat
  /-- the fraction of the second -/
  nanosecond : Nat
  deriving DecidableEq, Repr

/-- An offset from universal time. -/
inductive Offset where
  /-- none at all -/
  | zulu
  /-- so many minutes -/
  | minutes (count : Int)
  deriving DecidableEq, Repr

/-! ### Writing -/

/-- A number with zeros before it. -/
def padded (width n : Nat) : List Char :=
  let digits := Nat.toDigits 10 n
  List.replicate (width - digits.length) '0' ++ digits

/-- The text of a date. -/
def Date.toChars (date : Date) : List Char :=
  padded 4 date.year ++ '-' :: padded 2 date.month ++ '-' :: padded 2 date.day

/-- The text of a time. -/
def Time.toChars (time : Time) : List Char :=
  let fraction := ((padded 9 time.nanosecond).reverse.dropWhile (· == '0')).reverse
  padded 2 time.hour ++ ':' :: padded 2 time.minute ++ ':' :: padded 2 time.second ++
    if fraction.isEmpty then [] else '.' :: fraction

/-- The text of an offset. -/
def Offset.toChars : Offset → List Char
  | zulu => ['Z']
  | minutes count =>
    (if count < 0 then '-' else '+') ::
      (padded 2 (count.natAbs / 60) ++ ':' :: padded 2 (count.natAbs % 60))

/-! ### Reading -/

/-- Read a number of so many digits. -/
def fixed? (width : Nat) (cs : List Char) : Option (Nat × List Char) := do
  let digits := cs.take width
  guard (digits.length = width ∧ digits.all Char.isDigit)
  return (← Text.digits? 10 digits, cs.drop width)

/-- Read a character. -/
def sign? (c : Char) : List Char → Option (List Char)
  | d :: rest => if d = c then some rest else none
  | [] => none

/-- The number of days of a month. -/
def daysIn (year month : Nat) : Nat :=
  if month = 2 then
    if year % 4 = 0 ∧ (year % 100 ≠ 0 ∨ year % 400 = 0) then 29 else 28
  else if [4, 6, 9, 11].contains month then 30
  else 31

/-- Read a date. -/
def date? (cs : List Char) : Option (Date × List Char) := do
  let (year, cs) ← fixed? 4 cs
  let (month, cs) ← fixed? 2 (← sign? '-' cs)
  let (day, cs) ← fixed? 2 (← sign? '-' cs)
  guard (1 ≤ month ∧ month ≤ 12 ∧ 1 ≤ day ∧ day ≤ daysIn year month)
  return (⟨year, month, day⟩, cs)

/-- The nanoseconds that the digits of a fraction spell; digits after the ninth are dropped. -/
def nanoseconds? (digits : List Char) : Option Nat :=
  Text.digits? 10 (digits.take 9 ++ List.replicate (9 - digits.length) '0')

/-- Read the fraction of a second, if there is one. -/
def fraction? (cs : List Char) : Option (Nat × List Char) :=
  match cs with
  | '.' :: rest => do
    let digits := rest.takeWhile Char.isDigit
    guard (!digits.isEmpty)
    return (← nanoseconds? digits, rest.dropWhile Char.isDigit)
  | _ => some (0, cs)

/-- Read a time. -/
def time? (cs : List Char) : Option (Time × List Char) := do
  let (hour, cs) ← fixed? 2 cs
  let (minute, cs) ← fixed? 2 (← sign? ':' cs)
  let (second, cs) ← fixed? 2 (← sign? ':' cs)
  guard (hour ≤ 23 ∧ minute ≤ 59 ∧ second ≤ 60)
  let (nanosecond, cs) ← fraction? cs
  return (⟨hour, minute, second, nanosecond⟩, cs)

/-- Read how far an offset goes. -/
def distance? (cs : List Char) : Option Nat := do
  let (hours, cs) ← fixed? 2 cs
  let (minutes, cs) ← fixed? 2 (← sign? ':' cs)
  guard (hours ≤ 23 ∧ minutes ≤ 59 ∧ cs.isEmpty)
  return hours * 60 + minutes

/-- The offset that a run of characters spells. -/
def offset? : List Char → Option Offset
  | ['Z'] => some .zulu
  | ['z'] => some .zulu
  | '+' :: rest => (distance? rest).map fun n => .minutes n
  | '-' :: rest => (distance? rest).map fun n => .minutes (-n)
  | _ => none

/-- The text of the time of day, and of the offset if there is one, that a run of characters
spells. -/
def timeText? (withOffset : Bool) (cs : List Char) : Option (List Char) := do
  let (time, rest) ← time? cs
  if rest.isEmpty then return time.toChars
  guard withOffset
  return time.toChars ++ (← offset? rest).toChars

/-- The text of the date, or of the date and the time after `T`, that a run of characters spells. -/
def dateText? (cs : List Char) : Option (List Char) := do
  let (date, rest) ← date? cs
  match rest with
  | [] => return date.toChars
  | c :: rest =>
    guard (c = 'T' ∨ c = 't')
    return date.toChars ++ 'T' :: (← timeText? true rest)

end FanServer.Settings.Toml
