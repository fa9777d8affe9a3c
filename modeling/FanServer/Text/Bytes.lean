import FanServer.Span

/-!
# Texts measured in bytes

Offsets count the bytes of a text's UTF-8 encoding, while the program reads a text as a list of
characters. This module is the bridge:

* `byteCount` is the length of a list of characters in bytes;
* `takeBytes` and `dropBytes` cut a list at an offset, rounding an offset inside a character down
  to that character's start;
* `slice?` reads the characters at a span, and refuses a span that is not bounded by characters
  of the text.
-/

namespace FanServer.Text

/-- The number of bytes the characters take in UTF-8. -/
def byteCount : List Char → Nat
  | [] => 0
  | c :: cs => c.utf8Size + byteCount cs

/-- The leading characters that fit whole into `n` bytes. -/
def takeBytes : Nat → List Char → List Char
  | _, [] => []
  | n, c :: cs => if c.utf8Size ≤ n then c :: takeBytes (n - c.utf8Size) cs else []

/-- The characters left after those that fit whole into `n` bytes. -/
def dropBytes : Nat → List Char → List Char
  | _, [] => []
  | n, c :: cs => if c.utf8Size ≤ n then dropBytes (n - c.utf8Size) cs else c :: cs

/-- The largest character boundary of the text that is not above `offset`. -/
def floorBoundary (cs : List Char) (offset : Nat) : Nat :=
  byteCount (takeBytes offset cs)

/-- The offset is the start of a character of the text, or its end. -/
def isBoundary (cs : List Char) (offset : Nat) : Bool :=
  floorBoundary cs offset == offset

/-- The characters between two offsets. -/
def slice (cs : List Char) (span : Span) : List Char :=
  takeBytes (span.stop - span.start) (dropBytes span.start cs)

/-- The characters at a span whose ends are in order and are boundaries of the text. -/
def slice? (cs : List Char) (span : Span) : Option (List Char) :=
  if span.start ≤ span.stop ∧ isBoundary cs span.start ∧ isBoundary cs span.stop then
    some (slice cs span)
  else
    none

theorem byteCount_append (a b : List Char) : byteCount (a ++ b) = byteCount a + byteCount b := by
  induction a with
  | nil => simp [byteCount]
  | cons c cs ih => simp [byteCount, ih, Nat.add_assoc]

theorem byteCount_pos {cs : List Char} (h : cs ≠ []) : 0 < byteCount cs := by
  cases cs with
  | nil => exact absurd rfl h
  | cons c cs => exact Nat.add_pos_left c.utf8Size_pos _

theorem length_le_byteCount (cs : List Char) : cs.length ≤ byteCount cs := by
  induction cs with
  | nil => exact Nat.le_refl _
  | cons c cs ih =>
    have := c.utf8Size_pos
    simp only [List.length_cons, byteCount]
    omega

theorem takeBytes_append_dropBytes (n : Nat) (cs : List Char) :
    takeBytes n cs ++ dropBytes n cs = cs := by
  induction cs generalizing n with
  | nil => rfl
  | cons c cs ih =>
    unfold takeBytes dropBytes
    split
    · simp [ih]
    · rfl

theorem takeBytes_byteCount_append (a b : List Char) : takeBytes (byteCount a) (a ++ b) = a := by
  induction a with
  | nil =>
    cases b with
    | nil => rfl
    | cons c cs =>
      have : ¬ c.utf8Size ≤ 0 := Nat.not_le.2 c.utf8Size_pos
      simp only [byteCount, List.nil_append, takeBytes, if_neg this]
  | cons c cs ih => simp [byteCount, takeBytes, ih]

theorem dropBytes_byteCount_append (a b : List Char) : dropBytes (byteCount a) (a ++ b) = b := by
  have h := takeBytes_append_dropBytes (byteCount a) (a ++ b)
  rw [takeBytes_byteCount_append] at h
  exact List.append_cancel_left h

theorem floorBoundary_byteCount_append (a b : List Char) :
    floorBoundary (a ++ b) (byteCount a) = byteCount a := by
  rw [floorBoundary, takeBytes_byteCount_append]

theorem isBoundary_byteCount_append (a b : List Char) :
    isBoundary (a ++ b) (byteCount a) = true := by
  rw [isBoundary, floorBoundary_byteCount_append, beq_self_eq_true]

/-- The characters between the ends of a part of the text are that part. -/
theorem slice_append (a b c : List Char) :
    slice (a ++ b ++ c) ⟨byteCount a, byteCount a + byteCount b⟩ = b := by
  rw [slice, Nat.add_sub_cancel_left, List.append_assoc, dropBytes_byteCount_append,
    takeBytes_byteCount_append]

theorem slice?_append (a b c : List Char) :
    slice? (a ++ b ++ c) ⟨byteCount a, byteCount a + byteCount b⟩ = some b := by
  have hstart : isBoundary (a ++ b ++ c) (byteCount a) = true := by
    rw [List.append_assoc]
    exact isBoundary_byteCount_append a (b ++ c)
  have hstop : isBoundary (a ++ b ++ c) (byteCount a + byteCount b) = true := by
    rw [← byteCount_append]
    exact isBoundary_byteCount_append (a ++ b) c
  rw [slice?, if_pos ⟨Nat.le_add_right _ _, hstart, hstop⟩, slice_append]

end FanServer.Text
