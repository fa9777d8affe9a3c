import FanServer.Proofs.Declaration

/-!
# Offsets and positions, there and back

An offset may lie inside a character, and a column inside a surrogate pair or past the end of its
line. Both conversions then round, in opposite directions: an offset **down** to the character it
lies in, a column **up** to the next character of its line, if there is one.

* `Text.Boundary`, `Text.Column` — the offsets and the columns that lie between characters;
* `Text.isGreatest_floorBoundary` — an offset is rounded down to the greatest boundary;
* `Text.RoundsUp` — what a column is rounded up to;
* `LineIndex.exists_offsetAt` — the offset of a position is the length of a part of the text: what
  comes before the line, and as much of the line as reaches the column.

Main results: `LineIndex.inverse_up_to_rounding` says what comes of going there and back, and
`LineIndex.positions_follow_text` that the bisection of the line starts comes to the same as reading
the text from its beginning, so that both conversions keep the order.
-/

namespace FanServer

namespace Text

/-! ## Rounding offsets down -/

/-- The offset lies between characters of the text, or at one of its ends. -/
def Boundary (cs : List Char) (offset : Nat) : Prop :=
  ∃ part, part <+: cs ∧ byteCount part = offset

theorem byteCount_mono {part cs : List Char} (h : part <+: cs) : byteCount part ≤ byteCount cs := by
  obtain ⟨rest, rfl⟩ := h
  rw [byteCount_append]
  exact Nat.le_add_right _ _

theorem byteCount_takeBytes_le (n : Nat) (cs : List Char) : byteCount (takeBytes n cs) ≤ n := by
  induction cs generalizing n with
  | nil => exact Nat.zero_le _
  | cons c cs ih =>
    simp only [takeBytes]
    split_ifs with hfits
    · have hrest := ih (n - c.utf8Size)
      rw [byteCount]
      omega
    · exact Nat.zero_le _

/-- **An offset is rounded down** to the greatest boundary that is neither above it nor above the
end of the text. -/
theorem isGreatest_floorBoundary (cs : List Char) (offset : Nat) :
    IsGreatest {b | Boundary cs b ∧ b ≤ min offset (byteCount cs)} (floorBoundary cs offset) := by
  have hpart : takeBytes offset cs <+: cs := ⟨_, takeBytes_append_dropBytes offset cs⟩
  refine ⟨⟨⟨_, hpart, rfl⟩, le_min (byteCount_takeBytes_le offset cs) (byteCount_mono hpart)⟩, ?_⟩
  rintro b ⟨⟨part, ⟨rest, rfl⟩, rfl⟩, hle⟩
  -- a part that ends there fits before the offset, so it is among the characters that do
  have hfits : takeBytes (byteCount part) (part ++ rest) <+: takeBytes offset (part ++ rest) :=
    takeBytes_prefix (hle.trans (min_le_left _ _)) _
  rw [takeBytes_byteCount_append] at hfits
  exact byteCount_mono hfits

/-! ## Rounding columns up -/

/-- The column lies between characters of the line, or at one of its ends. -/
def Column (line : List Char) (column : Nat) : Prop :=
  ∃ part, part <+: line ∧ unitsCount part = column

/-- **A column rounded up**: the least column between characters of the line that is not below it,
or the end of the line if there is none. -/
def RoundsUp (line : List Char) (column rounded : Nat) : Prop :=
  IsLeast {c | Column line c ∧ column ≤ c} rounded ∨
    (¬ ∃ c, Column line c ∧ column ≤ c) ∧ rounded = unitsCount line

theorem unitsCount_mono {part cs : List Char} (h : part <+: cs) :
    unitsCount part ≤ unitsCount cs := by
  obtain ⟨rest, rfl⟩ := h
  rw [unitsCount_append]
  exact Nat.le_add_right _ _

/-- A column leads behind a part of its line: one that reaches the column, if the line does, and no
more than is needed for that. -/
theorem exists_columnBytes (column units : Nat) {line rest : List Char} (hline : '\n' ∉ line)
    (hrest : ∀ c ∈ rest.head?, c = '\n') :
    ∃ part, part <+: line ∧ columnBytes column units (line ++ rest) = byteCount part ∧
      (column ≤ units + unitsCount part ∨ part = line) ∧
      ∀ other, other <+: line → column ≤ units + unitsCount other →
        unitsCount part ≤ unitsCount other := by
  induction line generalizing units with
  | nil =>
    refine ⟨[], List.nil_prefix, ?_, .inr rfl, fun _ _ _ => Nat.zero_le _⟩
    cases rest with
    | nil => rfl
    | cons c rest => exact if_pos (.inl (hrest c rfl))
  | cons c line ih =>
    rw [List.mem_cons, not_or] at hline
    by_cases hreached : column ≤ units
    · exact ⟨[], List.nil_prefix, if_pos (.inr hreached), .inl hreached,
        fun _ _ _ => Nat.zero_le _⟩
    · have hgo : ¬ (c = '\n' ∨ column ≤ units) := by
        rintro (hc | hle)
        · exact hline.1 hc.symm
        · exact hreached hle
      obtain ⟨part, hpart, hbytes, hend, hleast⟩ := ih (units + unitCount c) hline.2
      refine ⟨c :: part, List.cons_prefix_cons.mpr ⟨rfl, hpart⟩, ?_, ?_, ?_⟩
      · rw [List.cons_append, columnBytes, if_neg hgo, hbytes, byteCount]
      · rw [unitsCount, ← Nat.add_assoc]
        exact hend.imp id (congrArg (c :: ·))
      · intro other hother hle
        cases other with
        | nil => exact absurd hle hreached
        | cons d other =>
          obtain ⟨rfl, hmore⟩ := List.cons_prefix_cons.mp hother
          rw [unitsCount, ← Nat.add_assoc] at hle
          exact Nat.add_le_add_left (hleast other hmore hle) _

/-- **A column is rounded up** on its line. -/
theorem exists_roundsUp (column : Nat) {line rest : List Char} (hline : '\n' ∉ line)
    (hrest : ∀ c ∈ rest.head?, c = '\n') :
    ∃ part, part <+: line ∧ columnBytes column 0 (line ++ rest) = byteCount part ∧
      RoundsUp line column (unitsCount part) := by
  obtain ⟨part, hpart, hbytes, hend, hleast⟩ := exists_columnBytes column 0 hline hrest
  simp only [Nat.zero_add] at hend hleast
  refine ⟨part, hpart, hbytes, ?_⟩
  by_cases hreached : column ≤ unitsCount part
  · refine .inl ⟨⟨⟨part, hpart, rfl⟩, hreached⟩, ?_⟩
    rintro c ⟨⟨other, hother, rfl⟩, hle⟩
    exact hleast other hother hle
  · -- the column is past the end of the line
    obtain rfl : part = line := hend.resolve_left hreached
    refine .inr ⟨?_, rfl⟩
    rintro ⟨c, ⟨other, hother, rfl⟩, hle⟩
    exact hreached (hle.trans (unitsCount_mono hother))

theorem columnBytes_mono {column column' : Nat} (h : column ≤ column') (units : Nat)
    (cs : List Char) : columnBytes column units cs ≤ columnBytes column' units cs := by
  induction cs generalizing units with
  | nil => exact Nat.le_refl _
  | cons c cs ih =>
    simp only [columnBytes]
    by_cases hstop : c = '\n' ∨ column ≤ units
    · rw [if_pos hstop]
      exact Nat.zero_le _
    · have hgo : ¬ (c = '\n' ∨ column' ≤ units) := fun hstop' => hstop (hstop'.imp id h.trans)
      rw [if_neg hstop, if_neg hgo]
      exact Nat.add_le_add_left (ih _) _

/-! ## Lines by their number -/

/-- The offsets at which lines start are those right after the line feeds, and that of the
beginning. -/
theorem map_start_linesFrom (offset : Nat) (cs : List Char) :
    (linesFrom offset cs).map Line.start = offset :: breaksFrom offset cs := by
  induction cs generalizing offset with
  | nil => rfl
  | cons c cs ih =>
    have hrest := ih (offset + c.utf8Size)
    rw [linesFrom, breaksFrom]
    split_ifs with hc
    · rw [List.map_cons, hrest]
    · rcases hlines : linesFrom (offset + c.utf8Size) cs with _ | ⟨line, others⟩
      · rw [hlines] at hrest
        cases hrest
      · rw [hlines, List.map_cons, List.cons.injEq] at hrest
        rw [List.map_cons, hrest.2]

/-- The part before a line, the line, and the rest of the text behind it. -/
structure CutAtLine (text : String) (number : Nat) (before line rest : List Char) : Prop where
  /-- they are the text -/
  cut : text.toList = before ++ (line ++ rest)
  /-- a line starts behind what comes before -/
  endsLine : EndsLine before
  /-- so many lines come before -/
  count : before.count '\n' = number
  /-- the line ends before the next line feed -/
  noBreak : '\n' ∉ line
  /-- and not earlier -/
  atBreak : ∀ c ∈ rest.head?, c = '\n'

theorem EndsLine.lastLine_eq {before : List Char} (h : EndsLine before) : lastLine before = [] := by
  obtain rfl | ⟨most, rfl⟩ := h
  · rfl
  · exact List.rtakeWhile_concat_neg _ _ _ (by decide)

/-- A place on a line by the part of the line before it. -/
theorem CutAtLine.positionAfter_eq {text : String} {number : Nat}
    {before line rest part : List Char} (h : CutAtLine text number before line rest)
    (hpart : part <+: line) :
    positionAfter (before ++ part) = ⟨number, unitsCount part⟩ := by
  have hfree : '\n' ∉ part := fun hmem => h.noBreak (hpart.subset hmem)
  rw [positionAfter, List.count_append, h.count, List.count_eq_zero.mpr hfree, Nat.add_zero,
    lastLine_append hfree, h.endsLine.lastLine_eq, List.nil_append]

end Text

namespace LineIndex

open Text

variable {text : String} {p q : Position} {line : Line}

/-- The table of the index is that of the lines. -/
theorem getElem?_starts_lines (text : String) (number : Nat) :
    (ofText text).starts[number]? = ((lines text)[number]?).map Line.start := by
  rw [ofText, List.getElem?_toArray, ← map_start_linesFrom, List.getElem?_map]
  rfl

/-- The line of a number starts behind as many line feeds. -/
theorem exists_cutAtLine {number : Nat} (h : (lines text)[number]? = some line) :
    ∃ before rest, CutAtLine text number before line.chars rest ∧
      line.start = byteCount before := by
  obtain ⟨before, rest, hcut, hbefore, rfl⟩ := mem_lines_iff.mp (List.mem_of_getElem? h)
  refine ⟨before, rest.dropWhile (· != '\n'), ⟨?_, hbefore, ?_, ?_, ?_⟩, rfl⟩
  · rw [List.takeWhile_append_dropWhile, hcut]
  · -- no two lines start at the same offset
    have hstart := getElem?_starts_eq hcut hbefore
    have hnumber : ((lines text).map Line.start)[number]? = some (byteCount before) := by
      rw [List.getElem?_map, h]
      rfl
    have hnodup : ((lines text).map Line.start).Nodup :=
      List.pairwise_map.mpr ((pairwise_linesFrom 0 text.toList).imp fun hlt => by omega)
    rw [getElem?_starts_lines, ← List.getElem?_map, ← hnumber] at hstart
    obtain ⟨hlt, -⟩ := List.getElem?_eq_some_iff.mp hnumber
    exact ((List.getElem?_inj hlt hnodup).mp hstart.symm).symm
  · intro hmem
    simpa using List.mem_takeWhile_imp hmem
  · intro c hc
    simpa using Pattern.head?_dropWhile (· != '\n') rest c hc

/-- **The offset of a position** is the length of what comes before its line and of the part of the
line that its column leads behind. -/
theorem exists_offsetAt (h : (lines text)[p.line]? = some line) :
    ∃ before part rest, CutAtLine text p.line before line.chars rest ∧ part <+: line.chars ∧
      RoundsUp line.chars p.column (unitsCount part) ∧
      (ofText text).offsetAt p = byteCount (before ++ part) := by
  obtain ⟨before, rest, hcut, hstart⟩ := exists_cutAtLine h
  obtain ⟨part, hpart, hbytes, hrounds⟩ := exists_roundsUp p.column hcut.noBreak hcut.atBreak
  refine ⟨before, part, rest, hcut, hpart, hrounds, ?_⟩
  have hget : (ofText text).starts[p.line]? = some (byteCount before) := by
    rw [getElem?_starts_lines, h, Option.map_some, hstart]
  simp only [offsetAt, hget]
  rw [show (ofText text).text = text.toList from rfl, hcut.cut, dropBytes_byteCount_append, hbytes,
    byteCount_append]

theorem offsetAt_of_past (h : (lines text)[p.line]? = none) :
    (ofText text).offsetAt p = (ofText text).length := by
  have hget : (ofText text).starts[p.line]? = none := by
    rw [getElem?_starts_lines, h, Option.map_none]
  simp only [offsetAt, hget]

/-- Going to an offset and back leaves the line as it is and rounds the column up. -/
theorem exists_positionAt_offsetAt (h : (lines text)[p.line]? = some line) :
    ∃ rounded, RoundsUp line.chars p.column rounded ∧
      (ofText text).positionAt ((ofText text).offsetAt p) = ⟨p.line, rounded⟩ := by
  obtain ⟨before, part, rest, hcut, hpart, hrounds, hoffset⟩ := exists_offsetAt h
  refine ⟨unitsCount part, hrounds, ?_⟩
  obtain ⟨more, hmore⟩ := hpart
  have htext : text.toList = before ++ part ++ (more ++ rest) := by
    rw [hcut.cut, ← hmore]
    simp only [List.append_assoc]
  rw [hoffset, positionAt_byteCount htext, hcut.positionAfter_eq ⟨more, hmore⟩]

theorem offsetAt_le_length (text : String) (p : Position) :
    (ofText text).offsetAt p ≤ (ofText text).length := by
  rcases h : (lines text)[p.line]? with _ | line
  · exact (offsetAt_of_past h).le
  · obtain ⟨before, part, rest, hcut, hpart, -, hoffset⟩ := exists_offsetAt h
    have hwhole : before ++ part <+: text.toList := by
      rw [hcut.cut, List.prefix_append_right_inj]
      exact hpart.trans (List.prefix_append _ _)
    rw [hoffset]
    exact byteCount_mono hwhole

/-- **Offsets follow positions**: an earlier position is not at a greater offset. -/
theorem offsetAt_mono (text : String) (h : p ≤ q) :
    (ofText text).offsetAt p ≤ (ofText text).offsetAt q := by
  rcases hq : (lines text)[q.line]? with _ | line
  · rw [offsetAt_of_past hq]
    exact offsetAt_le_length text p
  · obtain hlt | ⟨heq, hcolumn⟩ := h
    · -- were the offsets in the other order, so would be the lines that they lead back to
      by_contra hnot
      obtain ⟨hlength, -⟩ := List.getElem?_eq_some_iff.mp hq
      obtain ⟨rounded, -, hback⟩ :=
        exists_positionAt_offsetAt (p := p) (List.getElem?_eq_getElem (hlt.trans hlength))
      obtain ⟨rounded', -, hback'⟩ := exists_positionAt_offsetAt hq
      have hle := positionAt_mono text (Nat.le_of_not_le hnot)
      rw [hback, hback'] at hle
      obtain hle | ⟨hle, -⟩ := hle
      · exact absurd hle hlt.asymm
      · exact absurd hle hlt.ne'
    · have hget : (ofText text).starts[q.line]? = some line.start := by
        rw [getElem?_starts_lines, hq, Option.map_some]
      simp only [offsetAt, heq, hget]
      exact Nat.add_le_add_left (columnBytes_mono hcolumn 0 _) _

/-- **The two conversions are inverse to each other up to rounding.** An offset comes back as the
greatest boundary that is neither above it nor above the end of the text. A position on a line of
the text comes back on the same line, with its column rounded up; and a line past the last one
stands for the end of the text. -/
theorem inverse_up_to_rounding (text : String) :
    (∀ offset, IsGreatest {b | Boundary text.toList b ∧ b ≤ min offset (ofText text).length}
        ((ofText text).offsetAt ((ofText text).positionAt offset))) ∧
      (∀ (p : Position) (line : Line), (lines text)[p.line]? = some line →
        ((ofText text).positionAt ((ofText text).offsetAt p)).line = p.line ∧
          RoundsUp line.chars p.column
            ((ofText text).positionAt ((ofText text).offsetAt p)).column) ∧
      ∀ p : Position, (lines text).length ≤ p.line →
        (ofText text).offsetAt p = (ofText text).length := by
  refine ⟨fun offset => ?_, fun p line hline => ?_, fun p hpast => ?_⟩
  · rw [offsetAt_positionAt]
    exact isGreatest_floorBoundary text.toList offset
  · obtain ⟨rounded, hrounds, hback⟩ := exists_positionAt_offsetAt hline
    rw [hback]
    exact ⟨rfl, hrounds⟩
  · exact offsetAt_of_past (List.getElem?_eq_none hpast)

/-- A text whose first line has a character of four bytes and two UTF-16 units, and a carriage
return at its end. Its second line is empty, and its last one has no line feed. -/
def wideText : String :=
  "a😀\r\n\nö"

/-- Offset `3` lies inside the wide character, which starts at `1`; column `2` lies inside its
surrogate pair, which ends at `3`; column `9` is past the end of the line. -/
theorem inverse_up_to_rounding_inside_character :
    IsGreatest {b | Boundary wideText.toList b ∧ b ≤ min 3 (ofText wideText).length} 1 ∧
      (lines wideText)[0]? = some ⟨0, ['a', '😀', '\r']⟩ ∧
      RoundsUp ['a', '😀', '\r'] 2 3 ∧ RoundsUp ['a', '😀', '\r'] 9 4 ∧
      (lines wideText).length ≤ 3 ∧ (ofText wideText).offsetAt ⟨3, 0⟩ = 10 := by
  obtain ⟨hoffsets, hlines, hpast⟩ := inverse_up_to_rounding wideText
  have hfirst : (lines wideText)[0]? = some ⟨0, ['a', '😀', '\r']⟩ := by decide +kernel
  have hlength : (lines wideText).length ≤ 3 := by decide +kernel
  have hinside := hoffsets 3
  have hpair := (hlines ⟨0, 2⟩ _ hfirst).2
  have hend := (hlines ⟨0, 9⟩ _ hfirst).2
  have hlast := hpast ⟨3, 0⟩ hlength
  rw [show (ofText wideText).offsetAt ((ofText wideText).positionAt 3) = 1 by decide +kernel]
    at hinside
  rw [show (ofText wideText).positionAt ((ofText wideText).offsetAt ⟨0, 2⟩) = ⟨0, 3⟩ by
    decide +kernel] at hpair
  rw [show (ofText wideText).positionAt ((ofText wideText).offsetAt ⟨0, 9⟩) = ⟨0, 4⟩ by
    decide +kernel] at hend
  rw [show (ofText wideText).length = 10 by decide +kernel] at hlast
  exact ⟨hinside, hfirst, hpair, hend, hlength, hlast⟩

/-- **Positions are those of a plain reading of the text.** The line of an offset is the number of
line feeds before the boundary that it is rounded down to, and its column the number of UTF-16 code
units there after the last of them. Both conversions keep the order, in which positions are compared
by their lines first. -/
theorem positions_follow_text (text : String) :
    (∀ offset, ∃ before after, text.toList = before ++ after ∧
        IsGreatest {b | Boundary text.toList b ∧ b ≤ min offset (ofText text).length}
          (byteCount before) ∧
        (ofText text).positionAt offset = ⟨before.count '\n', unitsCount (lastLine before)⟩) ∧
      (∀ offset offset', offset ≤ offset' →
        (ofText text).positionAt offset ≤ (ofText text).positionAt offset') ∧
      ∀ p q : Position, p ≤ q → (ofText text).offsetAt p ≤ (ofText text).offsetAt q := by
  refine ⟨fun offset => ?_, fun _ _ => positionAt_mono text, fun _ _ => offsetAt_mono text⟩
  exact ⟨takeBytes offset text.toList, dropBytes offset text.toList,
    (takeBytes_append_dropBytes offset text.toList).symm,
    isGreatest_floorBoundary text.toList offset, positionAt_eq text offset⟩

/-- The offsets `3`, inside a character, and `7`, at the start of the next line; and a column past
the end of the first line beside the start of the second. -/
theorem positions_follow_text_across_lines :
    ((ofText wideText).positionAt 3 = ⟨0, 1⟩ ∧ (ofText wideText).positionAt 7 = ⟨1, 0⟩ ∧
        (⟨0, 1⟩ : Position) ≤ ⟨1, 0⟩) ∧
      (⟨0, 9⟩ : Position) ≤ ⟨1, 0⟩ ∧ (ofText wideText).offsetAt ⟨0, 9⟩ = 6 ∧
      6 ≤ (ofText wideText).offsetAt ⟨1, 0⟩ := by
  obtain ⟨-, hpositions, hoffsets⟩ := positions_follow_text wideText
  have hthree : (ofText wideText).positionAt 3 = ⟨0, 1⟩ := by decide +kernel
  have hseven : (ofText wideText).positionAt 7 = ⟨1, 0⟩ := by decide +kernel
  have hend : (ofText wideText).offsetAt ⟨0, 9⟩ = 6 := by decide +kernel
  have hplaces : (⟨0, 9⟩ : Position) ≤ ⟨1, 0⟩ := .inl (by decide)
  have hle := hpositions 3 7 (by decide)
  have hle' := hoffsets _ _ hplaces
  rw [hthree, hseven] at hle
  rw [hend] at hle'
  exact ⟨⟨hthree, hseven, hle⟩, hplaces, hend, hle'⟩

end LineIndex

end FanServer
