import FanServer.Text.Position
import Mathlib.Data.List.DropRight

/-!
# The line index finds the right place

The line index answers from a table of line starts, by bisection. What it answers can be said
without the table: the place behind a part `p` of the text is in the line that the number of line
feeds in `p` gives, and its column is the number of UTF-16 code units of `p` after the last of them
(`Text.positionAfter`).

* `LineIndex.positionAt_eq` — the position of an offset is the place behind the characters that fit
  before it;
* `LineIndex.positionAt_mono` — so positions are in the order of the offsets;
* `LineIndex.offsetAt_positionAfter` — the offset of the place behind a part is the length of the
  part;
* `LineIndex.offsetAt_positionAt` — so going to a position and back only rounds the offset down to
  the start of a character.

All of it rests on one cut of a part: up to its last line feed, and the line after that.
-/

namespace FanServer

namespace Text

/-- The characters after the last line feed. -/
def lastLine (cs : List Char) : List Char :=
  cs.rtakeWhile (· != '\n')

/-- The place behind a part of a text that begins it. -/
def positionAfter (cs : List Char) : Position :=
  ⟨cs.count '\n', unitsCount (lastLine cs)⟩

/-! ## Line feeds -/

/-- The characters end with a line feed, if there are any: a line starts behind them. -/
def EndsLine (cs : List Char) : Prop :=
  cs = [] ∨ ∃ before, cs = before ++ ['\n']

/-- **The cut of a part at its last line feed.** -/
theorem exists_lastLine (cs : List Char) :
    ∃ before, cs = before ++ lastLine cs ∧ EndsLine before ∧ '\n' ∉ lastLine cs ∧
      before.count '\n' = cs.count '\n' := by
  have hfree : '\n' ∉ lastLine cs := fun h => by simpa using List.mem_rtakeWhile_imp h
  have hcut : cs = cs.rdropWhile (· != '\n') ++ lastLine cs := by
    rw [lastLine, List.rdropWhile, List.rtakeWhile, ← List.reverse_append,
      List.takeWhile_append_dropWhile, List.reverse_reverse]
  refine ⟨cs.rdropWhile (· != '\n'), hcut, ?_, hfree, ?_⟩
  · rcases List.eq_nil_or_concat (cs.rdropWhile (· != '\n')) with hnil | ⟨before, last, hlast⟩
    · exact .inl hnil
    · -- what stops the line is a line feed
      have hstop := List.rdropWhile_last_not (· != '\n') cs (by simp [hlast])
      simp only [hlast, List.concat_eq_append, List.getLast_append_singleton] at hstop
      obtain rfl : last = '\n' := by simpa using hstop
      exact .inr ⟨before, by rw [hlast, List.concat_eq_append]⟩
  · conv_rhs => rw [hcut]
    rw [List.count_append, List.count_eq_zero.mpr hfree, Nat.add_zero]

theorem breaksFrom_append (offset : Nat) (a b : List Char) :
    breaksFrom offset (a ++ b) = breaksFrom offset a ++ breaksFrom (offset + byteCount a) b := by
  induction a generalizing offset with
  | nil => rfl
  | cons c cs ih =>
    simp only [List.cons_append, breaksFrom, byteCount, ih, ← Nat.add_assoc]
    split <;> rfl

theorem length_breaksFrom (offset : Nat) (cs : List Char) :
    (breaksFrom offset cs).length = cs.count '\n' := by
  induction cs generalizing offset with
  | nil => rfl
  | cons c cs ih =>
    simp only [breaksFrom, List.count_cons, beq_iff_eq]
    split
    · rw [List.length_cons, ih]
    · rw [ih, Nat.add_zero]

/-- Lines start after the first character and not after the end. -/
theorem bounds_of_mem_breaksFrom {offset start : Nat} {cs : List Char}
    (h : start ∈ breaksFrom offset cs) : offset < start ∧ start ≤ offset + byteCount cs := by
  induction cs generalizing offset with
  | nil => cases h
  | cons c cs ih =>
    have hpos := c.utf8Size_pos
    have hrest : start ∈ breaksFrom (offset + c.utf8Size) cs →
        offset < start ∧ start ≤ offset + byteCount (c :: cs) := by
      intro hmem
      obtain ⟨hlt, hle⟩ := ih hmem
      rw [byteCount]
      omega
    simp only [breaksFrom] at h
    split at h
    · rcases List.mem_cons.mp h with rfl | hmem
      · rw [byteCount]
        omega
      · exact hrest hmem
    · exact hrest h

/-- The line that starts behind a part is the one that the line feeds of the part number. -/
theorem getElem?_starts {before : List Char} (hbefore : EndsLine before) (rest : List Char) :
    (0 :: breaksFrom 0 (before ++ rest))[before.count '\n']? = some (byteCount before) := by
  obtain rfl | ⟨before, rfl⟩ := hbefore
  · rfl
  · rw [breaksFrom_append, breaksFrom_append, Nat.zero_add, List.count_append,
      List.count_singleton_self, List.getElem?_cons_succ, List.append_assoc,
      ← length_breaksFrom 0 before, List.getElem?_append_right (Nat.le_refl _), Nat.sub_self,
      byteCount_append]
    rfl

/-- The lines up to that of the end of a part start within the part. -/
theorem start_le_byteCount {line start : Nat} {part rest : List Char}
    (h : (0 :: breaksFrom 0 (part ++ rest))[line]? = some start) (hline : line ≤ part.count '\n') :
    start ≤ byteCount part := by
  cases line with
  | zero =>
    cases h
    exact Nat.zero_le _
  | succ line =>
    have hlt : line < (breaksFrom 0 part).length := by
      rw [length_breaksFrom]
      exact hline
    rw [List.getElem?_cons_succ, breaksFrom_append, List.getElem?_append_left hlt] at h
    have hle := (bounds_of_mem_breaksFrom (List.mem_of_getElem? h)).2
    rwa [Nat.zero_add] at hle

/-- The lines after that of the end of a part start behind the part. -/
theorem byteCount_lt_start {line start : Nat} {part rest : List Char}
    (h : (0 :: breaksFrom 0 (part ++ rest))[line]? = some start) (hline : part.count '\n' < line) :
    byteCount part < start := by
  cases line with
  | zero => cases hline
  | succ line =>
    have hle : (breaksFrom 0 part).length ≤ line := by
      rw [length_breaksFrom]
      exact Nat.le_of_lt_succ hline
    rw [List.getElem?_cons_succ, breaksFrom_append, List.getElem?_append_right hle,
      Nat.zero_add] at h
    exact (bounds_of_mem_breaksFrom (List.mem_of_getElem? h)).1

/-! ## Bisection -/

/-- **Bisection finds the last line start that is not above the offset**: the one at `line`, if the
starts up to it are not above the offset and those after it are. -/
theorem bisect_eq {starts : Array Nat} {offset line lo hi : Nat} (hlo : lo ≤ line)
    (hhi : line < hi) (hsize : hi ≤ starts.size)
    (hbelow : ∀ {i start}, starts[i]? = some start → i ≤ line → start ≤ offset)
    (habove : ∀ {i start}, starts[i]? = some start → line < i → offset < start) :
    bisect starts offset lo hi = line := by
  have hget : ∀ i < starts.size, starts[i]? = some (starts.getD i 0) := by
    intro i hi
    simp [hi]
  fun_induction bisect starts offset lo hi with
  | case1 lo hi hlt mid hmid ih =>
    have hle : mid ≤ line := by
      by_contra hnot
      exact absurd (habove (hget mid (by omega)) (by omega)) (by omega)
    exact ih hle hhi hsize
  | case2 lo hi hlt mid hmid ih =>
    have hgt : line < mid := by
      by_contra hnot
      exact hmid (hbelow (hget mid (by omega)) (by omega))
    exact ih hlo hgt (by omega)
  | case3 lo hi hlt => omega

/-! ## Columns -/

theorem unitCount_pos (c : Char) : 0 < unitCount c := by
  unfold unitCount
  split <;> decide

theorem unitCount_le_utf8Size (c : Char) : unitCount c ≤ c.utf8Size := by
  have hpos := c.utf8Size_pos
  unfold unitCount
  split
  · exact hpos
  · -- above the basic plane, a character takes four bytes
    next hplane =>
    have hvalue : ¬ c.val.toNat < 0x10000 := hplane
    simp only [Char.utf8Size, UInt32.le_iff_toNat_le]
    split_ifs with hone
    · exact absurd (Nat.lt_of_le_of_lt hone (by decide)) hvalue
    · decide
    · decide
    · decide

theorem unitsCount_le_byteCount (cs : List Char) : unitsCount cs ≤ byteCount cs := by
  induction cs with
  | nil => exact Nat.le_refl _
  | cons c cs ih => exact Nat.add_le_add (unitCount_le_utf8Size c) ih

/-- On a line, the column behind a part of it leads behind that part. -/
theorem columnBytes_append {part : List Char} (hpart : '\n' ∉ part) (units : Nat)
    (rest : List Char) :
    columnBytes (units + unitsCount part) units (part ++ rest) = byteCount part := by
  induction part generalizing units with
  | nil =>
    cases rest with
    | nil => rfl
    | cons c cs => exact if_pos (.inr (Nat.le_refl _))
  | cons c cs ih =>
    rw [List.mem_cons, not_or] at hpart
    have hpos := unitCount_pos c
    have hgo : ¬ (c = '\n' ∨ units + unitsCount (c :: cs) ≤ units) := by
      rw [unitsCount]
      rintro (hc | hle)
      · exact hpart.1 hc.symm
      · omega
    rw [List.cons_append, columnBytes, if_neg hgo, unitsCount, ← Nat.add_assoc, ih hpart.2,
      byteCount]

end Text

/-- The line and the column fit in 32 bits. -/
def Position.Fits (p : Position) : Prop :=
  p.line < UInt32.size ∧ p.column < UInt32.size

/-- The place behind a part of less than four gigabytes fits in 32 bits. -/
theorem Text.fits_positionAfter {cs : List Char} (h : byteCount cs < UInt32.size) :
    (positionAfter cs).Fits := by
  obtain ⟨before, hcut, -, -, hcount⟩ := exists_lastLine cs
  have hlength : cs.length ≤ byteCount cs := length_le_byteCount cs
  have hlines : cs.count '\n' ≤ cs.length := List.count_le_length
  have hunits := unitsCount_le_byteCount (lastLine cs)
  have hlast : byteCount (lastLine cs) ≤ byteCount cs := by
    conv_rhs => rw [hcut, byteCount_append]
    exact Nat.le_add_left _ _
  exact ⟨Nat.lt_of_le_of_lt (hlines.trans hlength) h,
    Nat.lt_of_le_of_lt (hunits.trans hlast) h⟩

/-! ## The order of places -/

/-- Positions are compared by their lines, and on one line by their columns. -/
instance : LE Position where
  le p q := p.line < q.line ∨ (p.line = q.line ∧ p.column ≤ q.column)

namespace Text

theorem unitsCount_append (a b : List Char) :
    unitsCount (a ++ b) = unitsCount a + unitsCount b := by
  induction a with
  | nil => exact (Nat.zero_add _).symm
  | cons c cs ih => rw [List.cons_append, unitsCount, unitsCount, ih, Nat.add_assoc]

theorem lastLine_append {b : List Char} (h : '\n' ∉ b) (a : List Char) :
    lastLine (a ++ b) = lastLine a ++ b := by
  have hall : ∀ c ∈ b.reverse, (c != '\n') = true := by
    intro c hc
    rw [bne_iff_ne]
    rintro rfl
    exact h (List.mem_reverse.mp hc)
  rw [lastLine, lastLine, List.rtakeWhile, List.rtakeWhile, List.reverse_append,
    List.takeWhile_append_of_pos hall, List.reverse_append, List.reverse_reverse]

/-- A place is not behind the place that more of the text leads to. -/
theorem positionAfter_le_append (a b : List Char) : positionAfter a ≤ positionAfter (a ++ b) := by
  by_cases hb : '\n' ∈ b
  · -- a line feed leads to a later line
    refine .inl ?_
    have hcount := List.count_pos_iff.mpr hb
    simp only [positionAfter, List.count_append]
    omega
  · refine .inr ?_
    simp only [positionAfter, List.count_append, List.count_eq_zero.mpr hb, lastLine_append hb,
      unitsCount_append]
    exact ⟨rfl, Nat.le_add_right _ _⟩

theorem takeBytes_prefix {n m : Nat} (h : n ≤ m) (cs : List Char) :
    takeBytes n cs <+: takeBytes m cs := by
  induction cs generalizing n m with
  | nil => exact List.prefix_refl _
  | cons c cs ih =>
    unfold takeBytes
    split_ifs with hn hm
    · exact List.cons_prefix_cons.mpr ⟨rfl, ih (Nat.sub_le_sub_right h _)⟩
    · exact absurd (hn.trans h) hm
    · exact List.nil_prefix
    · exact List.nil_prefix

end Text

/-! ## The index -/

namespace LineIndex

open Text

variable {text : String} {part rest : List Char}

/-- The line of the end of a part is found by bisection. -/
theorem bisect_starts (h : text.toList = part ++ rest) :
    bisect (ofText text).starts (byteCount part) 0 (ofText text).starts.size = part.count '\n' := by
  have hstarts : (ofText text).starts = (0 :: breaksFrom 0 (part ++ rest)).toArray := by
    rw [ofText, h]
  rw [hstarts]
  refine bisect_eq (Nat.zero_le _) ?_ (Nat.le_refl _) (fun hget => ?_) fun hget => ?_
  · rw [List.size_toArray, List.length_cons, length_breaksFrom, List.count_append]
    omega
  · rw [List.getElem?_toArray] at hget
    exact start_le_byteCount hget
  · rw [List.getElem?_toArray] at hget
    exact byteCount_lt_start hget

/-- The last line of a part starts behind what comes before it. -/
theorem getElem?_starts_eq {before : List Char} (h : text.toList = before ++ rest)
    (hbefore : EndsLine before) :
    (ofText text).starts[before.count '\n']? = some (byteCount before) := by
  rw [ofText, h, List.getElem?_toArray]
  exact getElem?_starts hbefore rest

/-- The position of the end of a part is the place behind it. -/
theorem positionAt_byteCount (h : text.toList = part ++ rest) :
    (ofText text).positionAt (byteCount part) = positionAfter part := by
  obtain ⟨before, hcut, hbefore, -, hcount⟩ := exists_lastLine part
  have htext : (ofText text).text = before ++ lastLine part ++ rest := by
    rw [← hcut]
    exact h
  have hwhole : text.toList = before ++ (lastLine part ++ rest) := by
    rw [← List.append_assoc, ← hcut]
    exact h
  have hfloor : floorBoundary (ofText text).text (byteCount part) = byteCount part := by
    rw [htext, ← hcut, floorBoundary_byteCount_append]
  have hstart : (ofText text).starts.getD (part.count '\n') 0 = byteCount before := by
    rw [Array.getD_eq_getD_getElem?, ← hcount, getElem?_starts_eq hwhole hbefore, Option.getD_some]
  have hlength : byteCount part = byteCount before + byteCount (lastLine part) := by
    rw [← byteCount_append, ← hcut]
  simp only [positionAt, hfloor, bisect_starts h, hstart]
  rw [hlength, htext, slice_append, positionAfter]

/-- **The position of an offset** is the place behind the characters that fit before it. -/
theorem positionAt_eq (text : String) (offset : Nat) :
    (ofText text).positionAt offset = positionAfter (takeBytes offset text.toList) := by
  have hcut := takeBytes_append_dropBytes offset text.toList
  have hfloor := floorBoundary_byteCount_append (takeBytes offset text.toList)
    (dropBytes offset text.toList)
  rw [hcut] at hfloor
  -- the index rounds the offset down before it does anything else
  rw [← positionAt_byteCount hcut.symm, positionAt, positionAt,
    show (ofText text).text = text.toList from rfl, hfloor, floorBoundary]

/-- **Positions follow offsets**: a smaller offset is not at a later position. -/
theorem positionAt_mono (text : String) {offset offset' : Nat} (h : offset ≤ offset') :
    (ofText text).positionAt offset ≤ (ofText text).positionAt offset' := by
  obtain ⟨more, hmore⟩ := takeBytes_prefix h text.toList
  rw [positionAt_eq, positionAt_eq, ← hmore]
  exact positionAfter_le_append _ more

/-- **The offset of the place behind a part** is the length of the part. -/
theorem offsetAt_positionAfter (h : text.toList = part ++ rest) :
    (ofText text).offsetAt (positionAfter part) = byteCount part := by
  obtain ⟨before, hcut, hbefore, hfree, hcount⟩ := exists_lastLine part
  have hwhole : text.toList = before ++ (lastLine part ++ rest) := by
    rw [← List.append_assoc, ← hcut]
    exact h
  have hstart : (ofText text).starts[part.count '\n']? = some (byteCount before) := by
    rw [← hcount, getElem?_starts_eq hwhole hbefore]
  have hcolumn : columnBytes (unitsCount (lastLine part)) 0 (lastLine part ++ rest) =
      byteCount (lastLine part) := by
    rw [← columnBytes_append hfree 0 rest, Nat.zero_add]
  simp only [offsetAt, positionAfter, hstart]
  rw [show (ofText text).text = text.toList from rfl, hwhole, dropBytes_byteCount_append, hcolumn,
    ← byteCount_append, ← hcut]

/-- Going to a position and back only rounds the offset down to the start of a character. -/
theorem offsetAt_positionAt (text : String) (offset : Nat) :
    (ofText text).offsetAt ((ofText text).positionAt offset) =
      floorBoundary text.toList offset := by
  rw [positionAt_eq, floorBoundary]
  exact offsetAt_positionAfter (takeBytes_append_dropBytes offset text.toList).symm

/-- In a text of less than four gigabytes, all positions fit in 32 bits. -/
theorem fits_positionAt {text : String} (h : byteCount text.toList < UInt32.size) (offset : Nat) :
    ((ofText text).positionAt offset).Fits := by
  have hcut := congrArg byteCount (takeBytes_append_dropBytes offset text.toList)
  rw [byteCount_append] at hcut
  rw [positionAt_eq]
  exact fits_positionAfter (by omega)

end LineIndex

end FanServer
