import FanServer.Settings.Value

/-!
# Tables of settings files

A table is made in one of several ways: by a header, by a header of a table within it, by dotted
keys, or as the next one in a list of tables. What was made in one way is not continued in another:

* a key may be given a value **once**;
* a table may be opened by a header once, and then only if no dotted key made it;
* dotted keys go only through tables that no header opened, and do not add to those that were named
  on the way to the table of a header.
-/

namespace FanServer.Settings.Toml

/-- An entry of a table that is being read. -/
inductive Entry where
  /-- a value, complete as it is -/
  | leaf (value : Value)
  /-- a table; one that is `named` was made on the way to another, and one that is `dotted` was made
  by a dotted key -/
  | table (named dotted : Bool) (fields : List (String × Entry))
  /-- a list of tables; the last one is apart from those before it -/
  | tables (before : List (List (String × Entry))) (last : List (String × Entry))
  deriving Inhabited

namespace Entry

mutual

/-- The value of a finished entry. -/
def toValue : Entry → Value
  | leaf value => value
  | table _ _ fields => .table (fieldsToValue fields)
  | tables before last => .list (tablesToValue before ++ [.table (fieldsToValue last)])

/-- The values of the entries of a finished table. -/
def fieldsToValue : List (String × Entry) → List (String × Value)
  | [] => []
  | (key, entry) :: rest => (key, toValue entry) :: fieldsToValue rest

/-- The values of finished tables. -/
def tablesToValue : List (List (String × Entry)) → List Value
  | [] => []
  | fields :: rest => .table (fieldsToValue fields) :: tablesToValue rest

end

/-- The entry of a key. -/
def find? (fields : List (String × Entry)) (key : String) : Option Entry :=
  (fields.find? fun field => field.1 == key).map Prod.snd

/-- Put an entry in place of the one a key has, or at the end. -/
def put (fields : List (String × Entry)) (key : String) (entry : Entry) : List (String × Entry) :=
  if (find? fields key).isSome then
    fields.map fun field => if field.1 == key then (key, entry) else field
  else fields ++ [(key, entry)]

/-- Change the table at the end of a path. Tables that are missing on the way are made; the path is
that of a dotted key, or else that of a header, and leads through the last one of a list of tables.
The change is told whether a dotted key made the table, as it was for the table here if the path is
empty. -/
def within? (dotted : Bool)
    (change : Bool → List (String × Entry) → Option (List (String × Entry))) :
    List String → Bool → List (String × Entry) → Option (List (String × Entry))
  | [], here, fields => change here fields
  | key :: path, _, fields =>
    match find? fields key with
    | none =>
      (within? dotted change path dotted []).map fun inner =>
        fields ++ [(key, .table true dotted inner)]
    | some (.table named wasDotted inner) =>
      if dotted && !named then none
      else
        (within? dotted change path wasDotted inner).map fun inner =>
          put fields key (.table named wasDotted inner)
    | some (.tables before last) =>
      (within? dotted change path false last).map fun last => put fields key (.tables before last)
    | some (.leaf _) => none

/-- Give a value to a new key of a table. -/
def add? (key : String) (value : Value) (fields : List (String × Entry)) :
    Option (List (String × Entry)) :=
  if (find? fields key).isSome then none else some (fields ++ [(key, .leaf value)])

/-- Give a value to a dotted key: the path to a table, which must be one that dotted keys made
unless the path is empty, and a key in it. -/
def assign? (path : List String) (key : String) (value : Value) (fields : List (String × Entry)) :
    Option (List (String × Entry)) :=
  within? true
    (fun wasDotted fields => if wasDotted == path.isEmpty then none else add? key value fields)
    path false fields

/-- Give a value to a dotted key within the table of a header. -/
def assignIn? (header path : List String) (key : String) (value : Value)
    (fields : List (String × Entry)) : Option (List (String × Entry)) :=
  within? false (fun _ fields => assign? path key value fields) header false fields

/-- Open the table of a header. The table must be new, or only named on the way to another. -/
def openTable? (path : List String) (key : String) (fields : List (String × Entry)) :
    Option (List (String × Entry)) :=
  within? false (fun _ fields =>
    match find? fields key with
    | none => some (fields ++ [(key, .table false false [])])
    | some (.table true false inner) => some (put fields key (.table false false inner))
    | some _ => none) path false fields

/-- Begin the next table of a list of tables. -/
def nextTable? (path : List String) (key : String) (fields : List (String × Entry)) :
    Option (List (String × Entry)) :=
  within? false (fun _ fields =>
    match find? fields key with
    | none => some (fields ++ [(key, .tables [] [])])
    | some (.tables before last) => some (put fields key (.tables (before ++ [last]) []))
    | some _ => none) path false fields

end Entry

end FanServer.Settings.Toml
