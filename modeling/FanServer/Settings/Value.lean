import FanServer.Settings.Binary64
import FanServer.Text.LowerCase

/-!
# Values of settings

Settings are trees of tables and lists with texts, numbers and truth values at the leaves. The keys
of a table are **compared in lower case**, so a table that is part of the settings has its keys in
lower case.

`Value.set` is how one layer of settings is laid over another: a table is merged key by key, and
anything else replaces what was there.
-/

namespace FanServer.Settings

/-- A value of a setting, or a table of such values. -/
inductive Value where
  /-- nothing, where a list was made longer -/
  | nil
  /-- a text -/
  | string (text : String)
  /-- an integer -/
  | int (value : Int)
  /-- a floating-point number -/
  | float (value : Binary64)
  /-- a truth value -/
  | bool (value : Bool)
  /-- a list -/
  | list (items : List Value)
  /-- a table -/
  | table (fields : List (String × Value))
  deriving Inhabited

namespace Value

/-- The fields of a table; any other value has none. -/
def fields : Value → List (String × Value)
  | table fields => fields
  | _ => []

/-- The items of a list; any other value has none. -/
def items : Value → List Value
  | list items => items
  | _ => []

/-- The value of a key in a table. -/
def get? (value : Value) (key : String) : Option Value :=
  (value.fields.find? fun field => field.1 == key).map Prod.snd

/-- The table with the value of a key put in place of the one it has, or at the end. What is no
table becomes one. -/
def put (value : Value) (key : String) (new : Value) : Value :=
  if (value.get? key).isSome then
    .table (value.fields.map fun field => if field.1 == key then (key, new) else field)
  else
    .table (value.fields ++ [(key, new)])

mutual

/-- Lay a value over what a table has at a key. -/
def set (base : Value) (key : String) : Value → Value
  | table incoming => base.put key (mergeFields ((base.get? key).getD (.table [])) incoming)
  | nil => base.put key .nil
  | string text => base.put key (.string text)
  | int value => base.put key (.int value)
  | float value => base.put key (.float value)
  | bool value => base.put key (.bool value)
  | list items => base.put key (.list items)

/-- Lay the fields of a table over a value, one after the other. -/
def mergeFields (base : Value) : List (String × Value) → Value
  | [] => base
  | (key, value) :: rest => mergeFields (set base (Text.lowerCase key) value) rest

end

end Value

end FanServer.Settings
