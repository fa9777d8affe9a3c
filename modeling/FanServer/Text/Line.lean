import FanServer.Text.Bytes

/-!
# Lines of a text

Declarations and methods are recognised line by line. A line never holds a line feed; a carriage
return at its end belongs to it.
-/

namespace FanServer.Text

/-- A line of a text and the offset at which it starts. -/
structure Line where
  /-- the offset of the line's first character -/
  start : Nat
  /-- the characters of the line, without the line feed -/
  chars : List Char
  deriving DecidableEq, Repr

/-- The lines of the text `cs`, which begins at `offset`. A text without line feeds is one line,
and there is one more line than line feeds. -/
def linesFrom (offset : Nat) : List Char → List Line
  | [] => [⟨offset, []⟩]
  | c :: cs =>
    if c = '\n' then ⟨offset, []⟩ :: linesFrom (offset + c.utf8Size) cs
    else
      match linesFrom (offset + c.utf8Size) cs with
      | [] => [⟨offset, [c]⟩]
      | line :: lines => ⟨offset, c :: line.chars⟩ :: lines

/-- The lines of a text. -/
def lines (text : String) : List Line :=
  linesFrom 0 text.toList

/-- What follows `piece` in `cs`, if `cs` begins with it. -/
def after? (piece cs : List Char) : Option (List Char) :=
  match piece, cs with
  | [], cs => some cs
  | _ :: _, [] => none
  | p :: ps, c :: cs => if p = c then after? ps cs else none

end FanServer.Text
