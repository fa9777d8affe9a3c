import FanServer.Text.Digits

/-!
# Characters and strings of settings files

The readers of a settings file take the characters that are left and give back those they leave.

A string is written in one of four ways: in double quotes with escapes or in single quotes without
them, and in one quote to a side on one line or in three over several lines. **A line break in a
string is a line feed**, however the file writes its line breaks.
-/

namespace FanServer.Settings.Toml

/-- The blanks within a line. -/
def isGap (c : Char) : Bool :=
  c == ' ' || c == '\t'

/-- The character may stand in a comment or, unescaped, in a string on one line. -/
def isPlain (c : Char) : Bool :=
  c == '\t' || (0x20 ≤ c.toNat && c.toNat != 0x7F)

/-- Skip the blanks of a line. -/
def skipGap (cs : List Char) : List Char :=
  cs.dropWhile isGap

/-- Read a line break. -/
def lineBreak? : List Char → Option (List Char)
  | '\n' :: rest => some rest
  | '\r' :: '\n' :: rest => some rest
  | _ => none

/-- Read the end of a line after a statement: a comment, if there is one, and a line break or the
end of the text. -/
def lineEnd? (cs : List Char) : Option (List Char) :=
  let cs := match skipGap cs with
    | '#' :: rest => rest.dropWhile isPlain
    | rest => rest
  if cs.isEmpty then some [] else lineBreak? cs

/-! ### Strings on one line -/

/-- The character with a code point, unless there is none. -/
def scalar? (n : Nat) : Option Char :=
  if n.isValidChar then some (Char.ofNat n) else none

/-- Read what follows the backslash of an escape. -/
def escape? : List Char → Option (Char × List Char)
  | 'b' :: cs => some ('\x08', cs)
  | 't' :: cs => some ('\t', cs)
  | 'n' :: cs => some ('\n', cs)
  | 'f' :: cs => some ('\x0c', cs)
  | 'r' :: cs => some ('\r', cs)
  | '"' :: cs => some ('"', cs)
  | '\\' :: cs => some ('\\', cs)
  | 'u' :: cs => do
    guard (4 ≤ cs.length)
    let c ← (Text.digits? 16 (cs.take 4)).bind scalar?
    return (c, cs.drop 4)
  | 'U' :: cs => do
    guard (8 ≤ cs.length)
    let c ← (Text.digits? 16 (cs.take 8)).bind scalar?
    return (c, cs.drop 8)
  | _ => none

/-- Read a string with escapes, after its opening quote; `read` holds its characters so far, the
last one first. -/
def basic (fuel : Nat) (read : List Char) (cs : List Char) : Option (String × List Char) :=
  match fuel, cs with
  | 0, _ => none
  | _, [] => none
  | fuel + 1, c :: rest =>
    if c = '"' then some (String.ofList read.reverse, rest)
    else if c = '\\' then
      match escape? rest with
      | some (c, rest) => basic fuel (c :: read) rest
      | none => none
    else if isPlain c then basic fuel (c :: read) rest
    else none

/-- Read a string without escapes, after its opening quote. -/
def literal (cs : List Char) : Option (String × List Char) :=
  let body := cs.takeWhile fun c => isPlain c && c != '\''
  match cs.dropWhile fun c => isPlain c && c != '\'' with
  | '\'' :: rest => some (String.ofList body, rest)
  | _ => none

/-! ### Strings over several lines -/

/-- Drop the line break right after the opening quotes. -/
def dropBreak (cs : List Char) : List Char :=
  (lineBreak? cs).getD cs

/-- Skip blanks and line breaks. -/
def skipBlank : List Char → List Char
  | '\r' :: '\n' :: rest => skipBlank rest
  | c :: rest => if isGap c || c == '\n' then skipBlank rest else c :: rest
  | [] => []

/-- What follows a backslash at the end of a line, which removes the line break and all blanks and
line breaks after it. -/
def joinedLine? (cs : List Char) : Option (List Char) :=
  (lineBreak? (skipGap cs)).map skipBlank

/-- Read a string over several lines after its opening quotes, with escapes where the quote is
the double one. One or two quotes right before the closing ones belong to the string. -/
def multiline (fuel : Nat) (quote : Char) (read : List Char) (cs : List Char) :
    Option (String × List Char) :=
  match fuel, cs with
  | 0, _ => none
  | _, [] => none
  | fuel + 1, c :: rest =>
    if c = quote then
      match rest with
      | d :: e :: rest' =>
        if d = quote ∧ e = quote then
          let extra := (rest'.takeWhile (· == quote)).take 2
          some (String.ofList (extra ++ read).reverse, rest'.drop extra.length)
        else multiline fuel quote (c :: read) rest
      | _ => none
    else if c = '\\' ∧ quote = '"' then
      match joinedLine? rest with
      | some rest => multiline fuel quote read rest
      | none =>
        match escape? rest with
        | some (c, rest) => multiline fuel quote (c :: read) rest
        | none => none
    else
      match lineBreak? (c :: rest) with
      | some rest => multiline fuel quote ('\n' :: read) rest
      | none => if isPlain c then multiline fuel quote (c :: read) rest else none

/-- Read a string of any kind. -/
def string? (cs : List Char) : Option (String × List Char) :=
  match cs with
  | '"' :: '"' :: '"' :: rest => multiline (rest.length + 1) '"' [] (dropBreak rest)
  | '\'' :: '\'' :: '\'' :: rest => multiline (rest.length + 1) '\'' [] (dropBreak rest)
  | '"' :: rest => basic (rest.length + 1) [] rest
  | '\'' :: rest => literal rest
  | _ => none

end FanServer.Settings.Toml
