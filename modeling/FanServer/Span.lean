/-!
# Spans

A span is a pair of byte offsets into the text of one document. Every node of a syntax model
carries one. Containment is **inclusive at both ends**: a cursor that sits right after an
identifier still belongs to it.

* `Span.ofBounds` is the checked way to make a span from two offsets; it refuses reversed ones;
* `Span.contains` and `Span.encloses` are the two relations every query is phrased with;
* `Span.join` is the smallest span around two.
-/

namespace FanServer

/-- A stretch of text, from the byte offset `start` up to the byte offset `stop`. -/
structure Span where
  /-- where the stretch begins -/
  start : Nat
  /-- where the stretch ends -/
  stop : Nat
  deriving DecidableEq, Repr, Inhabited

namespace Span

/-- Two offsets that cannot bound a span: the first lies after the second. -/
structure Reversed where
  /-- the offset given as the start -/
  start : Nat
  /-- the smaller offset given as the end -/
  stop : Nat
  deriving DecidableEq, Repr

/-- The complaint about reversed bounds. -/
def Reversed.message (r : Reversed) : String :=
  s!"span start {r.start} after end {r.stop}"

/-- The span between two offsets, unless they are reversed. -/
def ofBounds (start stop : Nat) : Except Reversed Span :=
  if start ≤ stop then .ok ⟨start, stop⟩ else .error ⟨start, stop⟩

/-- The offset lies in the span, both ends included. -/
def contains (s : Span) (offset : Nat) : Bool :=
  s.start ≤ offset && offset ≤ s.stop

/-- The span `t` lies entirely within `s`. -/
def encloses (s t : Span) : Bool :=
  s.start ≤ t.start && t.stop ≤ s.stop

/-- The smallest span around both `s` and `t`. -/
def join (s t : Span) : Span :=
  ⟨min s.start t.start, max s.stop t.stop⟩

/-- The number of bytes covered. -/
def length (s : Span) : Nat :=
  s.stop - s.start

/-- The span covers no byte. -/
def isEmpty (s : Span) : Bool :=
  s.start == s.stop

/-- Spans are ordered by their start, and by their end where the starts agree. -/
def precedes (s t : Span) : Bool :=
  s.start < t.start || (s.start == t.start && s.stop < t.stop)

/-- The span moved `n` bytes to the right. -/
def shift (n : Nat) (s : Span) : Span :=
  ⟨s.start + n, s.stop + n⟩

/-- The written form of a span, as in `3..7`. -/
def display (s : Span) : String :=
  s!"{s.start}..{s.stop}"

theorem contains_iff {s : Span} {offset : Nat} :
    s.contains offset = true ↔ s.start ≤ offset ∧ offset ≤ s.stop := by
  simp [contains]

theorem encloses_iff {s t : Span} :
    s.encloses t = true ↔ s.start ≤ t.start ∧ t.stop ≤ s.stop := by
  simp [encloses]

theorem encloses_refl (s : Span) : s.encloses s = true :=
  encloses_iff.mpr ⟨Nat.le_refl _, Nat.le_refl _⟩

theorem encloses_trans {s t u : Span} (h : s.encloses t = true) (h' : t.encloses u = true) :
    s.encloses u = true := by
  rw [encloses_iff] at *
  omega

theorem contains_of_encloses {s t : Span} {offset : Nat} (h : s.encloses t = true)
    (h' : t.contains offset = true) : s.contains offset = true := by
  rw [encloses_iff] at h
  rw [contains_iff] at *
  omega

theorem ofBounds_eq_ok_iff {a b : Nat} {s : Span} :
    ofBounds a b = .ok s ↔ a ≤ b ∧ s = ⟨a, b⟩ := by
  unfold ofBounds
  by_cases h : a ≤ b <;> simp [h, eq_comm]

end Span

end FanServer
