import FanServer.Outline
import FanServer.Settings
import FanServer.Text.Position

/-!
# What an editor is shown

The values of the editor protocol: ranges, locations, symbols, descriptions and diagnostics. Here
a place is a line and a character, **each of 32 bits**; a place further away wraps around. The
conversion from spans goes through the line index of the document that the span belongs to.
-/

namespace FanServer.Editor

/-- A place in a document. -/
structure Position where
  /-- the line, counted from zero -/
  line : UInt32
  /-- the number of UTF-16 code units before the place on its line -/
  character : UInt32
  deriving DecidableEq, Repr

/-- The stretch between two places of a document. -/
structure Range where
  /-- where it begins -/
  start : Position
  /-- where it ends -/
  stop : Position
  deriving DecidableEq, Repr

/-- A stretch of a document. -/
structure Location where
  /-- the document -/
  uri : Uri
  /-- the stretch -/
  range : Range
  deriving DecidableEq, Repr

/-- The place of a position. -/
def Position.ofPosition (p : FanServer.Position) : Position :=
  ⟨UInt32.ofNat p.line, UInt32.ofNat p.column⟩

/-- The position of a place. -/
def Position.toPosition (p : Position) : FanServer.Position :=
  ⟨p.line.toNat, p.character.toNat⟩

/-- The range of a span. -/
def Range.ofSpan (lines : LineIndex) (span : Span) : Range :=
  let (start, stop) := lines.positionsOf span
  ⟨.ofPosition start, .ofPosition stop⟩

/-- An entry of the list of symbols and the symbols below it. -/
structure Symbol where
  /-- the name it is shown by -/
  name : String
  /-- what is shown beside the name -/
  detail : Option String
  /-- what it stands for -/
  kind : OutlineKind
  /-- the whole of what it stands for -/
  range : Range
  /-- the part to go to -/
  selection : Range
  /-- the symbols below it -/
  children : List Symbol

mutual

/-- The symbol of an entry of an outline. -/
def Symbol.ofEntry (lines : LineIndex) : OutlineEntry → Symbol
  | ⟨label, detail, kind, full, focus, _, children⟩ =>
    ⟨label, detail, kind, .ofSpan lines full, .ofSpan lines focus, Symbol.ofEntries lines children⟩

/-- The symbols of the entries of an outline. -/
def Symbol.ofEntries (lines : LineIndex) : List OutlineEntry → List Symbol
  | [] => []
  | entry :: entries => Symbol.ofEntry lines entry :: Symbol.ofEntries lines entries

end

/-- A description and the stretch it describes. -/
structure Hover where
  /-- the description, in Markdown -/
  contents : String
  /-- what it describes -/
  range : Range
  deriving DecidableEq, Repr

/-- Something in another place that belongs to a diagnostic. -/
structure Related where
  /-- where it stands -/
  location : Location
  /-- what it is -/
  message : String
  deriving DecidableEq, Repr

/-- A remark on a stretch of a document. -/
structure Diagnostic where
  /-- what is remarked on -/
  range : Range
  /-- how serious it is -/
  severity : Severity
  /-- the remark -/
  message : String
  /-- what belongs to it elsewhere -/
  related : Option Related
  deriving DecidableEq, Repr

/-- All diagnostics of a document, in place of those it had. -/
structure Update where
  /-- the document -/
  uri : Uri
  /-- the version of the text they were made from -/
  version : Option Int
  /-- the diagnostics -/
  diagnostics : List Diagnostic
  deriving DecidableEq, Repr

end FanServer.Editor
