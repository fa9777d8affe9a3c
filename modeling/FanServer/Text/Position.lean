import FanServer.Text.Bytes

/-!
# Lines and columns

Editors speak of a line and a column instead of a byte offset. Lines are separated by line feeds
and counted from zero; a column counts the UTF-16 code units before it on its line.

A `LineIndex` holds the offsets at which the lines of a text start, so that the line of an offset
is found by bisection. Both directions are **total**: an offset past the end, an offset inside a
character, a line or a column that does not exist are all moved to the nearest place that does.
-/

namespace FanServer

/-- A place in a text: a line, and a column in UTF-16 code units, both counted from zero. -/
structure Position where
  /-- the line, counted from zero -/
  line : Nat
  /-- the number of UTF-16 code units before the place on its line -/
  column : Nat
  deriving DecidableEq, Repr, Inhabited

/-- The written form of a position, as in `2:4`. -/
def Position.display (p : Position) : String :=
  s!"{p.line}:{p.column}"

namespace Text

/-- The number of UTF-16 code units of a character: two above the basic plane, else one. -/
def unitCount (c : Char) : Nat :=
  if c.toNat < 0x10000 then 1 else 2

/-- The number of UTF-16 code units of a list of characters. -/
def unitsCount : List Char → Nat
  | [] => 0
  | c :: cs => unitCount c + unitsCount cs

/-- The offsets right after the line feeds of a text that begins at `offset`. -/
def breaksFrom (offset : Nat) : List Char → List Nat
  | [] => []
  | c :: cs =>
    let next := offset + c.utf8Size
    if c = '\n' then next :: breaksFrom next cs else breaksFrom next cs

/-- The number of bytes before the first place of a line whose column is at least `column`, or
before the end of the line. `units` is the column reached so far. -/
def columnBytes (column : Nat) (units : Nat) : List Char → Nat
  | [] => 0
  | c :: cs =>
    if c = '\n' ∨ column ≤ units then 0
    else c.utf8Size + columnBytes column (units + unitCount c) cs

/-- **Bisection.** The last index in `[lo, hi)` whose line start is not above `offset`, provided
that the one at `lo` is not. -/
def bisect (starts : Array Nat) (offset lo hi : Nat) : Nat :=
  if lo + 1 < hi then
    let mid := (lo + hi) / 2
    if starts.getD mid 0 ≤ offset then bisect starts offset mid hi else bisect starts offset lo mid
  else
    lo
termination_by hi - lo
decreasing_by all_goals omega

end Text

/-- A text together with the offsets at which its lines start. -/
structure LineIndex where
  /-- the characters of the text -/
  text : List Char
  /-- where each line starts, in order; the first line starts at zero -/
  starts : Array Nat

namespace LineIndex

/-- Find the lines of a text. -/
def ofText (text : String) : LineIndex :=
  let cs := text.toList
  ⟨cs, (0 :: Text.breaksFrom 0 cs).toArray⟩

/-- The length of the text in bytes. -/
def length (index : LineIndex) : Nat :=
  Text.byteCount index.text

/-- The text has no character. -/
def isEmpty (index : LineIndex) : Bool :=
  index.text.isEmpty

/-- The line and column of an offset. An offset inside a character stands for its start, and one
past the end for the end. -/
def positionAt (index : LineIndex) (offset : Nat) : Position :=
  let offset := Text.floorBoundary index.text offset
  let line := Text.bisect index.starts offset 0 index.starts.size
  let start := index.starts.getD line 0
  ⟨line, Text.unitsCount (Text.slice index.text ⟨start, offset⟩)⟩

/-- The offset of a line and column. A line past the last stands for the end of the text, and a
column past the end of its line for the line break. -/
def offsetAt (index : LineIndex) (p : Position) : Nat :=
  match index.starts[p.line]? with
  | none => index.length
  | some start => start + Text.columnBytes p.column 0 (Text.dropBytes start index.text)

/-- The positions of both ends of a span. -/
def positionsOf (index : LineIndex) (span : Span) : Position × Position :=
  (index.positionAt span.start, index.positionAt span.stop)

end LineIndex

end FanServer
