import FanServer.Proofs.Definition
import FanServer.Proofs.Locate
import FanServer.Proofs.MethodPattern
import FanServer.Proofs.Symbols

/-!
# Where descriptions stand

A description is asked for at a place and answered with a range. In between there are three
conversions: the place becomes an offset, the offset leads to a node, and the span of the node
becomes a range. The place may be one that does not exist, such as one inside a surrogate pair; the
description then belongs to the place that it is **rounded to**.

* `Model.Describes` — what stands at an offset, and how it is described;
* `Model.Describes.locates` — what is described marks off a part of the text, and the offset lies in
  it;
* `Entry.rangeOf_around` — the range of such a part lies around the place of the offset, and leads
  back to the part.

Main result: `Store.hover_around_place`.
-/

open FanServer.Derivation

namespace FanServer

/-! ## What is described -/

/-- **What stands at an offset of a document**, with its description and its span: in a grammar the
node that is found there, in an action class the method whose name the offset lies on. -/
inductive Model.Describes (link : Option Link) (offset : Nat) : Model → String → Span → Prop where
  /-- a node of a grammar -/
  | node {grammar : Grammar} {node : Node} (found : grammar.locate? offset = some node) :
      Describes link offset (.grammar grammar) (node.describe (link.bind Link.grammar?)) node.span
  /-- a method of an action class -/
  | method {actions : Actions} {method : Method} (found : actions.methodAt? offset = some method) :
      Describes link offset (.action actions) (method.describe (link.bind Link.action?)) method.span

/-- **A description is that of what stands at the offset**, and there is one wherever something
does. -/
theorem Model.hover?_eq_some_iff {model : Model} {link : Option Link} {offset : Nat}
    {hover : Hover} :
    model.hover? link offset = some hover ↔
      model.Describes link offset hover.contents hover.span := by
  refine ⟨?_, ?_⟩
  · intro h
    cases model with
    | grammar grammar =>
      obtain ⟨node, hnode, rfl⟩ := Option.map_eq_some_iff.mp h
      exact .node hnode
    | action actions =>
      obtain ⟨method, hmethod, rfl⟩ := Option.map_eq_some_iff.mp h
      exact .method hmethod
  · obtain ⟨contents, span⟩ := hover
    rintro (hfound | hfound) <;> exact Option.map_eq_some_iff.mpr ⟨_, hfound, rfl⟩

/-! ## What is described is in the text -/

/-- All that can be found in an element marks off a part of the text. -/
theorem Rule.Throughout.marks_candidates {cs : List Char} {rule : Rule}
    (h : rule.Throughout (Placed cs)) : ∀ node ∈ rule.candidates, node.span.Marks cs := by
  induction h with
  | @intro rule self parts separator ihparts ihseparator =>
    have hclause : ∀ node ∈ rule.separatorNodes, node.span.Marks cs := by
      intro node hnode
      obtain ⟨clause, hclause, rfl⟩ := mem_separatorNodes.mp hnode
      obtain ⟨_, -, -, hplaced⟩ := self.exists_quantifier hclause
      exact hplaced.marks
    intro node hnode
    cases hleaf : rule.isLeaf with
    | true =>
      rw [candidates_of_isLeaf hleaf] at hnode
      rcases List.mem_append.mp hnode with hnode | hnode
      · exact hclause node hnode
      · rw [List.mem_singleton.mp hnode]
        exact self.marks
    | false =>
      rw [candidates_of_sequence hleaf] at hnode
      rcases List.mem_append.mp hnode with hnode | hnode
      · obtain ⟨part, hpart, hnode⟩ := mem_candidatesAll.mp hnode
        exact ihparts part hpart node hnode
      · exact hclause node hnode

theorem RuleDef.Nested.marks_of_exhaustive? {cs : List Char} {definition : RuleDef} {offset : Nat}
    {node : Node} (h : definition.Nested cs) (hnode : definition.exhaustive? offset = some node) :
    node.span.Marks cs := by
  rw [exhaustive?] at hnode
  split_ifs at hnode
  · obtain rfl := Option.some.inj hnode
    exact h.marks_name
  · obtain ⟨rule, hrule, hmem⟩ := Rule.mem_candidatesAll.mp (List.mem_of_find?_eq_some hnode)
    exact (h.throughout rule hrule).marks_candidates node hmem

/-- What is found in a grammar marks off a part of its text, and contains the offset. -/
theorem Grammar.Nested.of_locate? {text : String} {grammar : Grammar} {offset : Nat} {node : Node}
    (h : grammar.Nested text) (hnode : grammar.locate? offset = some node) :
    node.span.Marks text.toList ∧ node.span.contains offset := by
  rw [h.locate?_eq_bind] at hnode
  obtain ⟨definition, hfind, hnode⟩ := Option.bind_eq_some_iff.mp hnode
  have hdefinition := h.rules definition (List.mem_of_find?_eq_some hfind)
  rw [hdefinition.locate?_eq] at hnode
  exact ⟨hdefinition.marks_of_exhaustive? hnode, (hdefinition.of_exhaustive? hnode).1⟩

/-- The name of a method marks off a part of the text that declares it. -/
theorem Method.marks_of_mem_ofText {text : String} {method : Method} (h : method ∈ ofText text) :
    method.span.Marks text.toList := by
  obtain ⟨line, hline, hmethod⟩ := List.mem_filterMap.mp h
  exact .of_slice? (declaredBy_of_ofLine? hline hmethod).slice

/-- **What is described marks off a part of the text, and the offset lies in it.** -/
theorem Model.Describes.locates {text : String} {model : Model} {link : Option Link} {offset : Nat}
    {contents : String} {span : Span} (hparse : Model.parse text = .ok (some model))
    (h : model.Describes link offset contents span) :
    span.Marks text.toList ∧ span.contains offset := by
  obtain ⟨grammar, hgrammar, rfl⟩ | ⟨actions, hactions, rfl⟩ := Model.parse_cases hparse
  · obtain ⟨document, hvalid, hscan, rfl⟩ := Grammar.exists_document_of_parse hgrammar
    cases h with
    | node found => exact (Document.nested_grammar hvalid hscan).of_locate? found
  · obtain ⟨name, -, rfl⟩ := Option.map_eq_some_iff.mp hactions
    cases h with
    | method found =>
      obtain ⟨hmem, hcontains⟩ := (Actions.methodAt?_eq_some_iff rfl).mp found
      exact ⟨Method.marks_of_mem_ofText hmem, hcontains⟩

/-! ## Ranges -/

namespace Entry

variable {entry : Entry}

/-- A boundary of the text comes back from its place. -/
theorem offsetAt_ofPosition (hfits : entry.lines.Fits) {offset : Nat}
    (h : Text.isBoundary entry.text.toList offset) :
    entry.offsetAt (.ofPosition (entry.lines.positionAt offset)) = offset := by
  rw [offsetAt, Editor.Position.toPosition_ofPosition (hfits offset), lines,
    LineIndex.offsetAt_positionAt]
  exact beq_iff_eq.mp h

/-- **The range of a part of the text** lies around the places of the offsets in the part, and its
ends lead back to those of the part. -/
theorem rangeOf_around (hfits : entry.lines.Fits) {span : Span}
    (hmarks : span.Marks entry.text.toList) {offset : Nat} (hcontains : span.contains offset) :
    (entry.rangeOf span).start.toPosition ≤ entry.lines.positionAt offset ∧
      entry.lines.positionAt offset ≤ (entry.rangeOf span).stop.toPosition ∧
      entry.offsetAt (entry.rangeOf span).start = span.start ∧
      entry.offsetAt (entry.rangeOf span).stop = span.stop := by
  obtain ⟨hstart, hstop⟩ := Span.contains_iff.mp hcontains
  refine ⟨?_, ?_, offsetAt_ofPosition hfits hmarks.start, offsetAt_ofPosition hfits hmarks.stop⟩
  · have hplace : (entry.rangeOf span).start.toPosition = entry.lines.positionAt span.start :=
      Editor.Position.toPosition_ofPosition (hfits span.start)
    rw [hplace]
    exact LineIndex.positionAt_mono entry.text hstart
  · have hplace : (entry.rangeOf span).stop.toPosition = entry.lines.positionAt span.stop :=
      Editor.Position.toPosition_ofPosition (hfits span.stop)
    rw [hplace]
    exact LineIndex.positionAt_mono entry.text hstop

end Entry

namespace Store

/-- **A description stands around the place it was asked for.** Whatever the link of the document,
the range of an answer lies around the place that the asked one is rounded to, and its ends are
those of the span of what is described, if lines and columns fit in 32 bits. -/
theorem hover_around_place {store : Store} {uri : Uri} {entry : Entry} {p : Editor.Position}
    {hover : Editor.Hover} (hopen : store.get? uri = some entry) (hfits : entry.lines.Fits)
    (h : store.hover? uri p = some hover) :
    ∃ model span, entry.model? = some model ∧
      model.Describes entry.link (entry.offsetAt p) hover.contents span ∧
      hover.range.start.toPosition ≤ entry.lines.positionAt (entry.offsetAt p) ∧
      entry.lines.positionAt (entry.offsetAt p) ≤ hover.range.stop.toPosition ∧
      entry.offsetAt hover.range.start = span.start ∧
      entry.offsetAt hover.range.stop = span.stop := by
  rw [hover?, hopen, Option.bind_some, Entry.hover?] at h
  obtain ⟨model, hmodel, h⟩ := Option.bind_eq_some_iff.mp h
  obtain ⟨found, hfound, h⟩ := Option.bind_eq_some_iff.mp h
  obtain rfl := Option.some.inj h
  have hdescribes := Model.hover?_eq_some_iff.mp hfound
  have hparse : Model.parse entry.text = .ok (some model) := by
    rw [← entry.outcome_eq]
    exact Entry.model?_eq_some_iff.mp hmodel
  obtain ⟨hmarks, hcontains⟩ := hdescribes.locates hparse
  exact ⟨model, found.span, hmodel, hdescribes, Entry.rangeOf_around hfits hmarks hcontains⟩

/-- A grammar with a literal of one character in two UTF-16 units, and a place inside of it, which
is rounded to the end of the character. -/
theorem hover_around_place_inside_character :
    ∃ entry hover, (empty.upsert ⟨"file:///g"⟩ (some 1) "unit grammar G;\nk: '𝄞' m\n").get?
        ⟨"file:///g"⟩ = some entry ∧
      entry.lines.Fits ∧
      (empty.upsert ⟨"file:///g"⟩ (some 1) "unit grammar G;\nk: '𝄞' m\n").hover? ⟨"file:///g"⟩
        ⟨1, 5⟩ = some hover ∧
      ∃ model span, entry.model? = some model ∧
        model.Describes entry.link (entry.offsetAt ⟨1, 5⟩) "string literal `𝄞`" span ∧
        hover.range.start.toPosition ≤ ⟨1, 6⟩ ∧ ⟨1, 6⟩ ≤ hover.range.stop.toPosition ∧
        entry.offsetAt hover.range.start = span.start ∧
        entry.offsetAt hover.range.stop = span.stop := by
  have hopen : (empty.upsert ⟨"file:///g"⟩ (some 1) "unit grammar G;\nk: '𝄞' m\n").get?
      ⟨"file:///g"⟩ = some (.ofText (some 1) "unit grammar G;\nk: '𝄞' m\n") := rfl
  have hfits : (Entry.ofText (some 1) "unit grammar G;\nk: '𝄞' m\n").lines.Fits :=
    LineIndex.fits_positionAt (by decide +kernel)
  have hhover : (empty.upsert ⟨"file:///g"⟩ (some 1) "unit grammar G;\nk: '𝄞' m\n").hover?
      ⟨"file:///g"⟩ ⟨1, 5⟩ = some ⟨"string literal `𝄞`", ⟨⟨1, 3⟩, ⟨1, 7⟩⟩⟩ := by decide +kernel
  have hplace : (Entry.ofText (some 1) "unit grammar G;\nk: '𝄞' m\n").lines.positionAt
      ((Entry.ofText (some 1) "unit grammar G;\nk: '𝄞' m\n").offsetAt ⟨1, 5⟩) = ⟨1, 6⟩ := by
    decide +kernel
  have haround := hover_around_place hopen hfits hhover
  rw [hplace] at haround
  exact ⟨_, _, hopen, hfits, hhover, haround⟩

end Store

end FanServer
