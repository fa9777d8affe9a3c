import FanServer.Editor
import FanServer.Proofs.Declaration
import FanServer.Proofs.Spans

/-!
# Symbols nest

An editor refuses symbols whose selection leaves their range, and it shows symbols as a tree by
their ranges. The ranges come from spans in bytes, which are turned into lines and UTF-16 columns
one end at a time. They nest because

* the spans do: definitions stand in a row (`Grammar.definitions_inRow`), and so do the lines that
  declare methods (`Method.pairwise_ofText`);
* the conversion keeps the order of offsets (`LineIndex.positionAt_mono`), and nothing wraps around
  as long as lines and columns fit in 32 bits (`LineIndex.Fits`).

Main result: `Editor.Symbol.nested_of_parse`.
-/

namespace FanServer

/-- The lines and columns of the text fit in 32 bits. -/
def LineIndex.Fits (lines : LineIndex) : Prop :=
  ∀ offset, (lines.positionAt offset).Fits

/-! ## Methods in their text -/

theorem Text.stop_le_of_mem_lines {text : String} {line : Line} (h : line ∈ lines text) :
    line.start + byteCount line.chars ≤ byteCount text.toList := by
  obtain ⟨before, rest, hcut, hstart⟩ := exists_of_mem_lines h
  rw [hcut, byteCount_append, byteCount_append, hstart]
  exact Nat.le_add_right _ _

/-- A method lies in the text that declares it. -/
theorem Method.bounds_of_mem_ofText {text : String} {method : Method} (h : method ∈ ofText text) :
    method.span.start ≤ method.span.stop ∧ method.span.stop ≤ Text.byteCount text.toList := by
  obtain ⟨line, hline, hmethod⟩ := List.mem_filterMap.mp h
  have hstop := (bounds_of_ofLine? hmethod).2
  have hend := Text.stop_le_of_mem_lines hline
  obtain ⟨⟨before, name⟩, -, rfl⟩ := Option.map_eq_some_iff.mp hmethod
  exact ⟨Nat.le_add_right _ _, hstop.trans hend⟩

namespace Editor

/-! ## Ranges -/

/-- Places are compared by their lines, and on one line by their characters. -/
instance : LE Position where
  le p q := p.line < q.line ∨ (p.line = q.line ∧ p.character ≤ q.character)

/-- The range is in order and lies within another. -/
structure Range.Within (inner outer : Range) : Prop where
  /-- it does not begin before the other -/
  start_le : outer.start ≤ inner.start
  /-- it does not end before it begins -/
  le : inner.start ≤ inner.stop
  /-- it does not end behind the other -/
  stop_le : inner.stop ≤ outer.stop

/-- The conversion to 32 bits keeps the order of positions that fit. -/
theorem Position.ofPosition_le {p q : FanServer.Position} (hp : p.Fits) (hq : q.Fits) (h : p ≤ q) :
    ofPosition p ≤ ofPosition q := by
  obtain ⟨hpline, hpcolumn⟩ := hp
  obtain ⟨hqline, hqcolumn⟩ := hq
  obtain hline | ⟨hline, hcolumn⟩ := h
  · refine .inl (UInt32.lt_iff_toNat_lt.mpr ?_)
    simpa only [ofPosition, UInt32.toNat_ofNat_of_lt' hpline, UInt32.toNat_ofNat_of_lt' hqline]
      using hline
  · refine .inr ⟨congrArg UInt32.ofNat hline, UInt32.le_iff_toNat_le.mpr ?_⟩
    simpa only [ofPosition, UInt32.toNat_ofNat_of_lt' hpcolumn,
      UInt32.toNat_ofNat_of_lt' hqcolumn] using hcolumn

section Ranges

variable {text : String} (hfits : (LineIndex.ofText text).Fits)

include hfits

theorem Position.ofPosition_positionAt_mono {offset offset' : Nat} (h : offset ≤ offset') :
    ofPosition ((LineIndex.ofText text).positionAt offset) ≤
      ofPosition ((LineIndex.ofText text).positionAt offset') :=
  ofPosition_le (hfits offset) (hfits offset') (LineIndex.positionAt_mono text h)

/-- The range of a span lies within that of any span around it. -/
theorem Range.within_ofSpan {inner outer : Span} (hstart : outer.start ≤ inner.start)
    (hle : inner.start ≤ inner.stop) (hstop : inner.stop ≤ outer.stop) :
    (ofSpan (.ofText text) inner).Within (ofSpan (.ofText text) outer) where
  start_le := Position.ofPosition_positionAt_mono hfits hstart
  le := Position.ofPosition_positionAt_mono hfits hle
  stop_le := Position.ofPosition_positionAt_mono hfits hstop

end Ranges

/-! ## Symbols -/

/-- **The symbol nests**: its range is in order and holds its selection and the ranges of the
symbols below it, which come one behind the other and nest themselves. -/
inductive Symbol.Nested : Symbol → Prop where
  /-- what is asked of a symbol and of those below it -/
  | intro {symbol : Symbol}
      (range : symbol.range.start ≤ symbol.range.stop)
      (selection : symbol.selection.Within symbol.range)
      (within : ∀ child ∈ symbol.children, child.range.Within symbol.range)
      (inRow : symbol.children.Pairwise fun child next => child.range.stop ≤ next.range.start)
      (children : ∀ child ∈ symbol.children, child.Nested) : symbol.Nested

namespace Symbol

theorem ofEntries_eq_map (lines : LineIndex) (entries : List OutlineEntry) :
    ofEntries lines entries = entries.map (ofEntry lines) := by
  induction entries with
  | nil => rfl
  | cons entry entries ih => rw [ofEntries, ih, List.map_cons]

section Nested

variable {text : String} (hfits : (LineIndex.ofText text).Fits)

include hfits

/-- The symbol of a definition or a method nests, if the part to go to lies in the whole. -/
theorem nested_ofDeclaration {label : String} {full focus : Span} {linked : Option String}
    (hstart : full.start ≤ focus.start) (hle : focus.start ≤ focus.stop)
    (hstop : focus.stop ≤ full.stop) :
    (ofEntry (.ofText text) (.ofDeclaration label full focus linked)).Nested := by
  have hfull : full.start ≤ full.stop := hstart.trans (hle.trans hstop)
  refine .intro ?_ ?_ ?_ ?_ ?_
  · exact Position.ofPosition_positionAt_mono hfits hfull
  · exact Range.within_ofSpan hfits hstart hle hstop
  · exact List.forall_mem_nil _
  · exact List.Pairwise.nil
  · exact List.forall_mem_nil _

/-- The symbol of a document nests, if the entries below it lie in the document, one behind the
other, and their symbols nest. -/
theorem nested_ofDocument {label detail : String} {span : Span} {children : List OutlineEntry}
    (hspan : span.start ≤ span.stop)
    (hwithin : ∀ child ∈ children, span.start ≤ child.full.start ∧
      child.full.start ≤ child.full.stop ∧ child.full.stop ≤ span.stop)
    (hrow : children.Pairwise fun child next => child.full.stop ≤ next.full.start)
    (hchildren : ∀ child ∈ children, (ofEntry (.ofText text) child).Nested) :
    (ofEntry (.ofText text) (.ofDocument label detail span children)).Nested := by
  have hrange (entry : OutlineEntry) :
      (ofEntry (.ofText text) entry).range = .ofSpan (.ofText text) entry.full := by
    cases entry
    rfl
  have hbelow : (ofEntry (.ofText text) (.ofDocument label detail span children)).children =
      children.map (ofEntry (.ofText text)) := ofEntries_eq_map _ _
  refine .intro ?_ ?_ ?_ ?_ ?_
  · exact Position.ofPosition_positionAt_mono hfits hspan
  · exact Range.within_ofSpan hfits (Nat.le_refl _) hspan (Nat.le_refl _)
  · rw [hbelow, List.forall_mem_map]
    intro child hchild
    obtain ⟨hstart, hle, hstop⟩ := hwithin child hchild
    rw [hrange]
    exact Range.within_ofSpan hfits hstart hle hstop
  · rw [hbelow, List.pairwise_map]
    refine hrow.imp ?_
    intro child next hle
    rw [hrange, hrange]
    exact Position.ofPosition_positionAt_mono hfits hle
  · rw [hbelow, List.forall_mem_map]
    exact hchildren

theorem nested_grammar {grammar : Grammar} (h : Grammar.parse text = .ok grammar)
    (link : Option Link) : (ofEntry (.ofText text) (grammar.outline link)).Nested := by
  obtain ⟨hspan, hwithin, hrow⟩ := Grammar.definitions_inRow h
  refine nested_ofDocument hfits ?_ ?_ ?_ ?_
  · rw [hspan]
    exact Nat.zero_le _
  · rw [hspan, List.forall_mem_map]
    intro definition hmem
    have hdefinition := (hwithin definition hmem).span
    exact ⟨hdefinition.le_start, hdefinition.start_lt_stop.le, hdefinition.stop_le⟩
  · rw [List.pairwise_map]
    exact hrow
  · rw [List.forall_mem_map]
    intro definition hmem
    have hname := (hwithin definition hmem).name
    exact nested_ofDeclaration hfits hname.le_start hname.start_lt_stop.le hname.stop_le

theorem nested_action {actions : Actions} (h : Actions.ofText? text = some actions)
    (link : Option Link) : (ofEntry (.ofText text) (actions.outline link)).Nested := by
  obtain ⟨name, -, rfl⟩ := Option.map_eq_some_iff.mp h
  refine nested_ofDocument hfits (Nat.zero_le _) ?_ ?_ ?_
  · rw [List.forall_mem_map]
    intro method hmem
    obtain ⟨hle, hstop⟩ := Method.bounds_of_mem_ofText hmem
    exact ⟨Nat.zero_le _, hle, hstop⟩
  · rw [List.pairwise_map]
    exact (Method.pairwise_ofText text).imp fun hlt => Nat.le_of_lt hlt
  · rw [List.forall_mem_map]
    intro method hmem
    obtain ⟨hle, -⟩ := Method.bounds_of_mem_ofText hmem
    exact nested_ofDeclaration hfits (Nat.le_refl _) hle (Nat.le_refl _)

end Nested

/-- **The symbols of a document nest**, whatever its link, as long as the lines and columns of its
text fit in 32 bits. The symbols at the top come one behind the other, too. -/
theorem nested_of_parse {text : String} {model : Model}
    (hparse : Model.parse text = .ok (some model)) (hfits : (LineIndex.ofText text).Fits)
    (link : Option Link) :
    (∀ symbol ∈ ofEntries (.ofText text) (model.outline link), symbol.Nested) ∧
      (ofEntries (.ofText text) (model.outline link)).Pairwise fun symbol next =>
        symbol.range.stop ≤ next.range.start := by
  rw [ofEntries_eq_map]
  obtain ⟨grammar, hgrammar, rfl⟩ | ⟨actions, hactions, rfl⟩ := Model.parse_cases hparse
  · exact ⟨List.forall_mem_singleton.mpr (nested_grammar hfits hgrammar link),
      List.pairwise_singleton _ _⟩
  · exact ⟨List.forall_mem_singleton.mpr (nested_action hfits hactions link),
      List.pairwise_singleton _ _⟩

/-- A grammar with a character of two UTF-16 units before one of its definitions, which is linked to
a method. -/
theorem nested_of_wide_character :
    ∃ model, Model.parse "unit grammar G;\nk: '𝄞' m: n\n" = .ok (some model) ∧
      (LineIndex.ofText "unit grammar G;\nk: '𝄞' m: n\n").Fits ∧
      ∀ symbol ∈ ofEntries (.ofText "unit grammar G;\nk: '𝄞' m: n\n") (model.outline
        (some (.grammar ⟨⟨"file:///a"⟩, "A", [("m", ⟨"m", ⟨9, 10⟩⟩)]⟩))), symbol.Nested := by
  have hsome : (Model.parse "unit grammar G;\nk: '𝄞' m: n\n").map Option.isSome = .ok true := by
    decide +kernel
  have hfits : (LineIndex.ofText "unit grammar G;\nk: '𝄞' m: n\n").Fits :=
    LineIndex.fits_positionAt (by decide +kernel)
  cases hparse : Model.parse "unit grammar G;\nk: '𝄞' m: n\n" with
  | error e => simp [hparse, Except.map] at hsome
  | ok model =>
    cases model with
    | none => simp [hparse, Except.map] at hsome
    | some model => exact ⟨model, rfl, hfits, (nested_of_parse hparse hfits _).1⟩

end Symbol

end Editor

end FanServer
