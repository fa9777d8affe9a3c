import FanServer.Proofs.Store
import Mathlib.Data.List.TakeWhile
import Mathlib.Data.Option.Basic

/-!
# Methods stand apart

A method is declared by a line of its own, and its span is that of its name on the line. Lines are
apart by the line feeds between them, so no offset lies on the names of two methods, **not even at
their ends**; the method that a search at an offset finds is then the only one there is
(`Actions.methodAt?_eq_some_iff`).
-/

namespace FanServer

namespace Text

/-! ## Lines -/

theorem le_start_of_mem_linesFrom {offset : Nat} {cs : List Char} {line : Line}
    (h : line ∈ linesFrom offset cs) : offset ≤ line.start := by
  induction cs generalizing offset line with
  | nil =>
    obtain rfl := List.mem_singleton.mp h
    exact Nat.le_refl _
  | cons c cs ih =>
    have hrest : ∀ {line}, line ∈ linesFrom (offset + c.utf8Size) cs → offset ≤ line.start :=
      fun hmem => Nat.le_of_add_right_le (ih hmem)
    simp only [linesFrom] at h
    split at h
    · rcases List.mem_cons.mp h with rfl | hmem
      · exact Nat.le_refl _
      · exact hrest hmem
    · split at h
      · obtain rfl := List.mem_singleton.mp h
        exact Nat.le_refl _
      · next first others hlines =>
        rcases List.mem_cons.mp h with rfl | hmem
        · exact Nat.le_refl _
        · exact hrest (hlines ▸ List.mem_cons_of_mem _ hmem)

/-- **Lines are apart**: each ends before the next one starts. -/
theorem pairwise_linesFrom (offset : Nat) (cs : List Char) :
    (linesFrom offset cs).Pairwise fun line next =>
      line.start + byteCount line.chars < next.start := by
  induction cs generalizing offset with
  | nil => exact List.pairwise_singleton _ _
  | cons c cs ih =>
    have hpos := c.utf8Size_pos
    rw [linesFrom]
    split
    · refine List.pairwise_cons.mpr ⟨fun next hnext => ?_, ih _⟩
      have hle := le_start_of_mem_linesFrom hnext
      simp only [byteCount]
      omega
    · split
      · exact List.pairwise_singleton _ _
      · -- the first line grows to the left by one character
        next first others hlines =>
        have hall := ih (offset + c.utf8Size)
        rw [hlines, List.pairwise_cons] at hall
        have hfirst : offset + c.utf8Size ≤ first.start :=
          le_start_of_mem_linesFrom (hlines ▸ List.mem_cons_self)
        refine List.pairwise_cons.mpr ⟨fun next hnext => ?_, hall.2⟩
        have hlt := hall.1 next hnext
        simp only [byteCount]
        omega

theorem after?_eq_some_iff {piece cs rest : List Char} :
    after? piece cs = some rest ↔ cs = piece ++ rest := by
  fun_induction after? piece cs with
  | case1 cs => simp
  | case2 p ps => simp
  | case3 ps p cs ih => simpa using ih
  | case4 p ps c cs hne => simp [Ne.symm hne]

end Text

/-! ## Declarations -/

namespace Method

/-- **The parts of a declaration**: a line with a declared name is taken apart without a remainder,
from the indentation to the end of the line, which is read backwards. -/
theorem exists_of_declared? {line before name : List Char}
    (h : declared? line = some (before, name)) :
    ∃ indent gap gap' ending : List Char, before = indent ++ "method".toList ++ gap ∧
      (∀ c ∈ indent, isGap c) ∧ gap ≠ [] ∧ (∀ c ∈ gap, isGap c) ∧
      name ≠ [] ∧ (∀ c ∈ name, isNameChar c) ∧
      (∀ c ∈ gap', isGap c) ∧ closesReversed ending.reverse ∧
      line = before ++ name ++ (gap' ++ '(' :: ending) := by
  simp only [declared?, Option.bind_eq_bind, Option.bind_eq_some_iff] at h
  obtain ⟨afterWord, hword, ⟨⟩, hguard, h⟩ := h
  obtain ⟨hgap, hname⟩ : afterWord.takeWhile isGap ≠ [] ∧
      (afterWord.dropWhile isGap).takeWhile isNameChar ≠ [] := by simpa [guard] using hguard
  rw [Text.after?_eq_some_iff] at hword
  split at h
  · next parenthesis ending hparenthesis =>
    simp only [Option.bind_eq_some_iff, Option.pure_def, Option.some.injEq, Prod.mk.injEq] at h
    obtain ⟨⟨⟩, hguard', rfl, rfl⟩ := h
    obtain ⟨rfl, hending⟩ : parenthesis = '(' ∧ closesReversed ending.reverse = true := by
      simpa [guard] using hguard'
    refine ⟨line.takeWhile isGap, afterWord.takeWhile isGap,
      ((afterWord.dropWhile isGap).dropWhile isNameChar).takeWhile isGap, ending, rfl,
      fun c hc => List.mem_takeWhile_imp hc, hgap, fun c hc => List.mem_takeWhile_imp hc, hname,
      fun c hc => List.mem_takeWhile_imp hc, fun c hc => List.mem_takeWhile_imp hc, hending, ?_⟩
    calc line = line.takeWhile isGap ++ line.dropWhile isGap :=
          List.takeWhile_append_dropWhile.symm
      _ = line.takeWhile isGap ++ ("method".toList ++ (afterWord.takeWhile isGap ++
            ((afterWord.dropWhile isGap).takeWhile isNameChar ++
              (afterWord.dropWhile isGap).dropWhile isNameChar))) := by
          rw [hword, List.takeWhile_append_dropWhile, List.takeWhile_append_dropWhile]
      _ = _ := by
          rw [← hparenthesis]
          simp only [List.append_assoc, List.takeWhile_append_dropWhile]
  · cases h

/-- A method stands on the line that declares it. -/
theorem bounds_of_ofLine? {line : Text.Line} {method : Method} (h : ofLine? line = some method) :
    line.start ≤ method.span.start ∧
      method.span.stop ≤ line.start + Text.byteCount line.chars := by
  obtain ⟨⟨before, name⟩, hdeclared, rfl⟩ := Option.map_eq_some_iff.mp h
  obtain ⟨-, -, gap, ending, -, -, -, -, -, -, -, -, hline⟩ := exists_of_declared? hdeclared
  rw [hline, Text.byteCount_append, Text.byteCount_append]
  dsimp only
  omega

/-- **Methods stand apart**: the name of each ends before the name of the next one begins. -/
theorem pairwise_ofText (text : String) :
    (ofText text).Pairwise fun method next => method.span.stop < next.span.start := by
  refine List.Pairwise.filterMap _ ?_ (Text.pairwise_linesFrom 0 text.toList)
  intro line next hlt method hmethod method' hmethod'
  have hstop := (bounds_of_ofLine? hmethod).2
  have hstart := (bounds_of_ofLine? hmethod').1
  omega

end Method

/-! ## Action classes -/

/-- The methods of an open action class are those of its text. -/
theorem Entry.methods_eq {entry : Entry} {actions : Actions}
    (h : entry.model? = some (.action actions)) : actions.methods = Method.ofText entry.text := by
  obtain ⟨name, -, rfl⟩ := Option.map_eq_some_iff.mp (Entry.ofText?_eq_some h)
  rfl

/-- **The method at an offset** is the only one on whose name the offset lies, ends included. -/
theorem Actions.methodAt?_eq_some_iff {actions : Actions} {text : String} {offset : Nat}
    {method : Method} (h : actions.methods = Method.ofText text) :
    actions.methodAt? offset = some method ↔
      method ∈ actions.methods ∧ method.span.contains offset := by
  rw [methodAt?, List.find?_eq_some_iff_append]
  refine ⟨?_, ?_⟩
  · rintro ⟨hcontains, before, after, hsplit, -⟩
    exact ⟨hsplit ▸ List.mem_append_right _ List.mem_cons_self, hcontains⟩
  · rintro ⟨hmem, hcontains⟩
    obtain ⟨before, after, hsplit⟩ := List.append_of_mem hmem
    have hapart := Method.pairwise_ofText text
    rw [← h, hsplit, List.pairwise_append] at hapart
    refine ⟨hcontains, before, after, hsplit, fun other hother => ?_⟩
    have hlt := hapart.2.2 other hother method List.mem_cons_self
    rw [Span.contains_iff] at hcontains
    rw [Bool.not_eq_true', ← Bool.not_eq_true, Span.contains_iff]
    omega

end FanServer
