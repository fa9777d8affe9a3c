import FanServer.Settings.Value
import FanServer.Text.Digits

/-!
# Paths to settings

A path names a setting from the outermost table on: `logging.level` is the key `level` in the table
at the key `logging`, and `paths[0]` is the first item of the list at the key `paths`. An index
below zero counts from the end of the list.

`Value.setAt?` puts a value at the end of a path. Whatever stands in the way becomes a table or a
list, as the path calls for, and a list becomes as long as an index calls for.
-/

namespace FanServer.Settings

/-- A step of a path. -/
inductive Step where
  /-- to the value of a key -/
  | key (name : String)
  /-- to an item of a list -/
  | item (index : Int)
  deriving DecidableEq, Repr

namespace Step

/-! ### Reading -/

/-- The characters of a key in a path. -/
def isKeyChar (c : Char) : Bool :=
  c.isAlphanum || c == '_' || c == '-' || c == ' '

/-- The blanks around an index. -/
def isGap (c : Char) : Bool :=
  c == ' ' || c == '\t'

/-- Read a key. -/
def key? (cs : List Char) : Option (Step × List Char) :=
  let name := cs.takeWhile isKeyChar
  if name.isEmpty then none else some (.key (String.ofList name), cs.dropWhile isKeyChar)

/-- Read an index after its opening bracket. It fits into 64 bits. -/
def item? (cs : List Char) : Option (Step × List Char) := do
  let cs := cs.dropWhile isGap
  let negative := cs.head? == some '-'
  let cs := if negative then cs.drop 1 else cs
  let digits := cs.takeWhile Char.isDigit
  guard (!digits.isEmpty)
  let size ← Text.digits? 10 digits
  let index : Int := if negative then -size else size
  guard (Int64.minValue.toInt ≤ index ∧ index ≤ Int64.maxValue.toInt)
  match (cs.dropWhile Char.isDigit).dropWhile isGap with
  | ']' :: rest => some (.item index, rest)
  | _ => none

/-- Read steps up to the end. There are at most `fuel` of them. -/
def steps? (fuel : Nat) (cs : List Char) : Option (List Step) :=
  match fuel, cs with
  | _, [] => some []
  | 0, _ => none
  | fuel + 1, c :: rest => do
    let (step, rest) ← if c = '.' then key? rest else if c = '[' then item? rest else none
    let steps ← steps? fuel rest
    return step :: steps

/-- The path that a text spells: a key, and further steps. -/
def path? (text : String) : Option (List Step) := do
  let (first, rest) ← key? text.toList
  let steps ← steps? rest.length rest
  return first :: steps

end Step

/-! ### Setting -/

namespace Value

/-- The place of an index in a list. One before the first item has none, and a list has fewer than
2^32 items. -/
def place? (index : Int) (length : Nat) : Option Nat :=
  let place := if index < 0 then length + index else index
  if 0 ≤ place ∧ place < 4294967296 then some place.toNat else none

/-- Put a value at the end of a path, unless there is an index that has no place. -/
def setAt? (base : Value) : List Step → Value → Option Value
  | [], value => some value
  | [.key name], value => some (base.set (Text.lowerCase name) value)
  | .key name :: path, value => do
    let inner ← ((base.get? (Text.lowerCase name)).getD .nil).setAt? path value
    return base.put (Text.lowerCase name) inner
  | .item index :: path, value => do
    let place ← place? index base.items.length
    let inner ← ((base.items[place]?).getD .nil).setAt? path value
    let items := base.items ++ List.replicate (place + 1 - base.items.length) .nil
    return .list (items.set place inner)

end Value

end FanServer.Settings
