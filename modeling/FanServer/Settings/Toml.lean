import FanServer.Settings.Toml.Number
import FanServer.Settings.Toml.Table

/-!
# Settings files

A settings file is written in TOML: keys with values, one to a line, under headers that name the
table they belong to.

Lists and inline tables are nested less than 80 deep, and a dotted key has fewer than 80 parts. The
number of values and of lines is bounded by `fuel`, of which the length of the text is enough.
-/

namespace FanServer.Settings.Toml

/-- What is nested, or dotted, has fewer levels than this. -/
def depthLimit : Nat := 80

/-! ### Keys -/

/-- The characters of a key without quotes. -/
def isKeyChar (c : Char) : Bool :=
  c.isAlphanum || c == '_' || c == '-'

/-- Read one part of a key. -/
def simpleKey? (cs : List Char) : Option (String × List Char) :=
  match cs with
  | '"' :: rest => basic (rest.length + 1) [] rest
  | '\'' :: rest => literal rest
  | _ =>
    let name := cs.takeWhile isKeyChar
    if name.isEmpty then none else some (String.ofList name, cs.dropWhile isKeyChar)

/-- Read the parts of a key, which are joined by dots: those before the last, and the last. There
are at most `fuel` of them. -/
def dotted (fuel : Nat) (cs : List Char) : Option (List String × String × List Char) :=
  match fuel with
  | 0 => none
  | fuel + 1 =>
    match simpleKey? (skipGap cs) with
    | none => none
    | some (name, rest) =>
      match skipGap rest with
      | '.' :: rest => (dotted fuel rest).map fun (path, key, left) => (name :: path, key, left)
      | rest => some ([], name, rest)

/-- Read a key. -/
def key? (cs : List Char) : Option (List String × String × List Char) :=
  dotted (depthLimit - 1) cs

/-! ### Values -/

/-- Skip the blanks, line breaks and comments inside a list. -/
def skipBreaks (fuel : Nat) (cs : List Char) : List Char :=
  match fuel with
  | 0 => cs
  | fuel + 1 =>
    match skipGap cs with
    | '\n' :: rest => skipBreaks fuel rest
    | '\r' :: '\n' :: rest => skipBreaks fuel rest
    | '#' :: rest => skipBreaks fuel (rest.dropWhile isPlain)
    | rest => rest

mutual

/-- Read a value, with room for so many levels of lists and inline tables. -/
def value (fuel room : Nat) (cs : List Char) : Option (Value × List Char) :=
  match fuel, cs with
  | 0, _ => none
  | _, [] => none
  | fuel + 1, c :: rest =>
    if c = '"' ∨ c = '\'' then (string? cs).map fun (text, left) => (.string text, left)
    else if c = '[' ∨ c = '\x7b' then
      match room with
      | 0 => none
      | room + 1 =>
        if c = '[' then (items fuel room rest).map fun (values, left) => (.list values, left)
        else
          match skipGap rest with
          | '\x7d' :: left => some (.table [], left)
          | rest => (inline fuel room [] rest).map fun (fields, left) =>
              (.table (Entry.fieldsToValue fields), left)
    else run? cs

/-- Read the items of a list through its closing bracket. -/
def items (fuel room : Nat) (cs : List Char) : Option (List Value × List Char) :=
  match fuel with
  | 0 => none
  | fuel + 1 =>
    match skipBreaks (cs.length + 1) cs with
    | ']' :: left => some ([], left)
    | cs =>
      match value fuel room cs with
      | none => none
      | some (first, rest) =>
        match skipBreaks (rest.length + 1) rest with
        | ',' :: rest => (items fuel room rest).map fun (others, left) => (first :: others, left)
        | ']' :: left => some ([first], left)
        | _ => none

/-- Read the fields of an inline table through its closing brace. -/
def inline (fuel room : Nat) (read : List (String × Entry)) (cs : List Char) :
    Option (List (String × Entry) × List Char) :=
  match fuel with
  | 0 => none
  | fuel + 1 =>
    match key? cs with
    | some (path, key, '=' :: rest) =>
      match value fuel room (skipGap rest) with
      | none => none
      | some (first, rest) =>
        match Entry.assign? path key first read with
        | none => none
        | some read =>
          match skipGap rest with
          | ',' :: rest => inline fuel room read rest
          | '\x7d' :: left => some (read, left)
          | _ => none
    | _ => none

end

/-! ### Files -/

/-- Read the header of a table, or of the next one in a list of tables, after its opening bracket:
the tables read so far with that one, the path to it, and what follows. -/
def header? (read : List (String × Entry)) (cs : List Char) :
    Option (List (String × Entry) × List String × List Char) :=
  match cs with
  | '[' :: rest =>
    match key? rest with
    | some (path, key, ']' :: ']' :: rest) =>
      (Entry.nextTable? path key read).map fun read => (read, path ++ [key], rest)
    | _ => none
  | _ =>
    match key? cs with
    | some (path, key, ']' :: rest) =>
      (Entry.openTable? path key read).map fun read => (read, path ++ [key], rest)
    | _ => none

/-- Read the lines of a file. `header` is the table they belong to. -/
def statements (fuel : Nat) (header : List String) (read : List (String × Entry))
    (cs : List Char) : Option (List (String × Entry)) :=
  match fuel with
  | 0 => none
  | fuel + 1 =>
    match skipGap cs with
    | [] => some read
    | '[' :: rest => do
      let (read, header, rest) ← header? read rest
      statements fuel header read (← lineEnd? rest)
    | c :: rest =>
      if c = '#' ∨ c = '\n' ∨ c = '\r' then do
        statements fuel header read (← lineEnd? (c :: rest))
      else
        match key? (c :: rest) with
        | some (path, key, '=' :: rest) => do
          let (value, rest) ← value (rest.length + 1) (depthLimit - 1) (skipGap rest)
          let read ← Entry.assignIn? header path key value read
          statements fuel header read (← lineEnd? rest)
        | _ => none

/-- The text without the mark of its encoding at its beginning. -/
def dropMark : List Char → List Char
  | '\ufeff' :: rest => rest
  | cs => cs

/-- The fields of the table that a settings file spells, if it is well formed. The mark of the
encoding may stand there twice. -/
def parse? (text : String) : Option (List (String × Value)) :=
  let cs := dropMark (dropMark text.toList)
  (statements (cs.length + 1) [] [] cs).map Entry.fieldsToValue

end FanServer.Settings.Toml
