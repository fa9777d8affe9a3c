/-!
# JSON values

The messages between an editor and the server are JSON. An object keeps its fields in the order
in which they were written. A number is an integer wherever it has one's form; any other number
is kept as it was written, since no answer depends on it.
-/

namespace FanServer

/-- A JSON value. -/
inductive Json where
  /-- `null` -/
  | null
  /-- `true` or `false` -/
  | bool (value : Bool)
  /-- an integer -/
  | int (value : Int)
  /-- a number with a fraction or an exponent, as it is written -/
  | decimal (written : String)
  /-- a text -/
  | string (value : String)
  /-- a list of values -/
  | array (items : List Json)
  /-- named values -/
  | object (fields : List (String × Json))
  deriving Inhabited

namespace Json

/-- A natural number. -/
def nat (n : Nat) : Json :=
  .int n

/-- A value that may be missing. -/
def ofOption {α : Type} (encode : α → Json) : Option α → Json
  | none => .null
  | some value => encode value

/-- The value of a field of an object. -/
def field? (json : Json) (name : String) : Option Json :=
  match json with
  | object fields => (fields.find? fun field => field.1 == name).map Prod.snd
  | _ => none

/-- The text, if the value is one. -/
def string? : Json → Option String
  | string value => some value
  | _ => none

/-- The integer, if the value is one. -/
def int? : Json → Option Int
  | int value => some value
  | _ => none

/-- The natural number, if the value is one. -/
def nat? : Json → Option Nat
  | int (.ofNat n) => some n
  | _ => none

/-- The truth value, if the value is one. -/
def bool? : Json → Option Bool
  | bool value => some value
  | _ => none

/-- The items, if the value is a list. -/
def array? : Json → Option (List Json)
  | array items => some items
  | _ => none

end Json

end FanServer
