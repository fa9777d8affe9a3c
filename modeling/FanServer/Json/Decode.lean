import FanServer.Json
import FanServer.Text.Quoted
import FanServer.Uri

/-!
# Decoding

What is expected of a JSON value, and why it is not what is expected. A field of an object is
decoded if it is there; that it is missing is noticed **after** the fields that are there have been
decoded.
-/

namespace FanServer

/-- Why a value is not what is expected. -/
inductive DecodeError where
  /-- a field is missing -/
  | missing (field : String)
  /-- a value of another type -/
  | wrongType (found : Json) (expected : String)
  /-- a value of the right type that will not do -/
  | wrongValue (found : Json) (expected : String)

namespace Json

/-- A value as errors mention it. -/
def describe : Json → String
  | null => "null"
  | bool true => "boolean `true`"
  | bool false => "boolean `false`"
  | int value => s!"integer `{value}`"
  | decimal written => s!"floating point `{written}`"
  | string value => s!"string {Text.quoted value}"
  | array _ => "sequence"
  | object _ => "map"

end Json

/-- The wording of an error. -/
def DecodeError.message : DecodeError → String
  | missing field => s!"missing field `{field}`"
  | wrongType found expected => s!"invalid type: {found.describe}, expected {expected}"
  | wrongValue found expected => s!"invalid value: {found.describe}, expected {expected}"

namespace Json

/-- A text. -/
def toText : Json → Except DecodeError String
  | string value => .ok value
  | json => .error (.wrongType json "a string")

/-- A truth value. -/
def toTruth : Json → Except DecodeError Bool
  | bool value => .ok value
  | json => .error (.wrongType json "a boolean")

/-- A list. -/
def toItems : Json → Except DecodeError (List Json)
  | array items => .ok items
  | json => .error (.wrongType json "a sequence")

/-- A number of 32 bits. -/
def toWord32 (json : Json) : Except DecodeError UInt32 :=
  match json with
  | int value =>
    if 0 ≤ value ∧ value < UInt32.size then .ok (UInt32.ofNat value.toNat)
    else .error (.wrongValue json "u32")
  | _ => .error (.wrongType json "u32")

/-- A number of 32 bits with a sign. -/
def toInt32 (json : Json) : Except DecodeError Int :=
  match json with
  | int value =>
    if Int32.minValue.toInt ≤ value ∧ value ≤ Int32.maxValue.toInt then .ok value
    else .error (.wrongValue json "i32")
  | _ => .error (.wrongType json "i32")

/-- The address of a document. -/
def toUri (json : Json) : Except DecodeError Uri :=
  match json with
  | string value =>
    match Uri.parse value with
    | .ok uri => .ok uri
    | .error e => .error (.wrongValue json e.message)
  | _ => .error (.wrongType json "a string representing an URL")

/-- An object, which has the given name in errors. -/
def toRecord (name : String) : Json → Except DecodeError Unit
  | object _ => .ok ()
  | json => .error (.wrongType json s!"struct {name}")

/-- A field, if it is there. -/
def decode? {α : Type} (json : Json) (field : String) (decode : Json → Except DecodeError α) :
    Except DecodeError (Option α) :=
  match json.field? field with
  | some value => (decode value).map some
  | none => .ok none

/-- A field that must be there. -/
def required {α : Type} (field : String) : Option α → Except DecodeError α
  | some value => .ok value
  | none => .error (.missing field)

end Json

end FanServer
