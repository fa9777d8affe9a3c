import FanServer.Proofs.Parse
import FanServer.Proofs.Scan

/-!
# Definitions stand one behind the other

The tokens of a text stand in a row: none is empty, and each begins where the one before it ends or
later (`Token.InRow`). A tree covers a part of the row, so what it stands for lies between the ends
of that part. For the definitions of a grammar this says that each **begins with its name**, holds
its name, and ends before the next one begins (`Grammar.definitions_inRow`).

The induction is on the trees. What it is about is always the same: the offsets `lo` and `hi`
between which the tokens of a tree stand.
-/

open FanServer.Derivation

namespace FanServer

/-! ## Tokens in a row -/

/-- The tokens stand between two offsets, one behind the other, and none is empty. -/
def Token.InRow (lo hi : Nat) : List Token → Prop
  | [] => lo ≤ hi
  | t :: ts => lo ≤ t.span.start ∧ t.span.start < t.span.stop ∧ InRow t.span.stop hi ts

namespace Token.InRow

variable {lo hi : Nat} {t : Token} {ts us : List Token}

theorem le (h : InRow lo hi ts) : lo ≤ hi := by
  induction ts generalizing lo with
  | nil => exact h
  | cons t ts ih =>
    obtain ⟨hstart, hlt, hrest⟩ := h
    have hle := ih hrest
    omega

theorem of_le {lo' : Nat} (h : InRow lo hi ts) (hlo : lo' ≤ lo) : InRow lo' hi ts := by
  cases ts with
  | nil => exact hlo.trans h
  | cons t ts => exact ⟨hlo.trans h.1, h.2⟩

/-- A row can be cut anywhere. -/
theorem append_iff : InRow lo hi (ts ++ us) ↔ ∃ mid, InRow lo mid ts ∧ InRow mid hi us := by
  induction ts generalizing lo with
  | nil =>
    refine ⟨?_, ?_⟩
    · intro h
      exact ⟨lo, Nat.le_refl lo, h⟩
    · rintro ⟨mid, hle, h⟩
      exact h.of_le hle
  | cons t ts ih =>
    rw [List.cons_append, InRow, ih]
    refine ⟨?_, ?_⟩
    · rintro ⟨hstart, hlt, mid, hleft, hright⟩
      exact ⟨mid, ⟨hstart, hlt, hleft⟩, hright⟩
    · rintro ⟨mid, ⟨hstart, hlt, hleft⟩, hright⟩
      exact ⟨hstart, hlt, mid, hleft, hright⟩

end Token.InRow

/-- The tokens that are read stand in a row, in the part of the text they are read from. -/
theorem Reads.inRow {rest cs : List Char} {offset : Nat} {tokens : List Token}
    (h : Reads rest offset cs tokens) : Token.InRow offset (offset + Text.byteCount cs) tokens := by
  induction h with
  | nil => exact Nat.le_refl _
  | blank _ _ ih =>
    rw [Text.byteCount, ← Nat.add_assoc]
    exact ih.of_le (Nat.le_add_right _ _)
  | comment _ _ _ ih =>
    rw [Text.byteCount_append, ← Nat.add_assoc]
    exact ih.of_le (Nat.le_add_right _ _)
  | @token offset kind text cs tokens htext _ _ ih =>
    have hne : text ≠ [] := by
      rintro rfl
      exact Pattern.nil_notMem_ofKind kind htext
    have hpos := Text.byteCount_pos hne
    rw [Text.byteCount_append, ← Nat.add_assoc]
    exact ⟨Nat.le_refl _, Nat.lt_add_of_pos_right hpos, ih⟩

theorem Token.inRow_of_scan {text : String} {tokens : List Token}
    (h : Token.scan text = .ok tokens) : InRow 0 (Text.byteCount text.toList) tokens := by
  have hread := (scanFrom_eq_ok_iff.mp h).inRow
  rwa [Nat.zero_add] at hread

/-! ## Trees in a row -/

/-- The span is not empty and lies between two offsets. -/
structure Span.Within (lo hi : Nat) (span : Span) : Prop where
  /-- it does not begin before the first -/
  le_start : lo ≤ span.start
  /-- it is not empty -/
  start_lt_stop : span.start < span.stop
  /-- it does not end behind the second -/
  stop_le : span.stop ≤ hi

theorem Span.Within.mono {lo hi lo' hi' : Nat} {span : Span} (h : span.Within lo hi)
    (hlo : lo' ≤ lo) (hhi : hi ≤ hi') : span.Within lo' hi' :=
  ⟨hlo.trans h.le_start, h.start_lt_stop, h.stop_le.trans hhi⟩

namespace Derivation

variable {lo hi : Nat}

/-- A term lies where its tokens are: it covers all of them. -/
theorem Term.within_rule {term : Term} (h : Token.InRow lo hi term.tokens) :
    term.rule.span.Within lo hi := by
  cases term with
  | leaf t kind =>
    obtain ⟨hstart, hlt, hhi⟩ := h
    exact ⟨hstart, hlt, hhi⟩
  | group opening items closing =>
    obtain ⟨mid, ⟨hstart, hlt, hitems⟩, hmid, hlt', hhi⟩ := Token.InRow.append_iff.mp h
    have hle := hitems.le
    exact ⟨hstart, by dsimp only [Term.rule, Rule.plain]; omega, hhi⟩

/-- So does an item. Its span is widened over its range and its separator. -/
theorem Item.within_rule {item : Item} (h : Token.InRow lo hi item.tokens) :
    item.rule.span.Within lo hi := by
  cases item with
  | plain term => exact Term.within_rule h
  | repeated term range =>
    obtain ⟨mid, hterm, hstart, hlt, (hhi : range.span.stop ≤ hi)⟩ := Token.InRow.append_iff.mp h
    obtain ⟨hlo, hne, hmid⟩ := Term.within_rule hterm
    refine ⟨?_, ?_, ?_⟩ <;> simp only [Item.rule, Rule.repeated, Span.join] <;> omega
  | separated term range marker separator =>
    obtain ⟨mid, hterm, hstart, hlt, hstart', hlt', hseparator⟩ := Token.InRow.append_iff.mp h
    obtain ⟨hlo, hne, hmid⟩ := Term.within_rule hterm
    obtain ⟨hlo', hne', hhi⟩ := Term.within_rule hseparator
    rw [Parse.stop_rule] at hne' hhi
    refine ⟨?_, ?_, ?_⟩ <;> simp only [Item.rule, Rule.repeated, Span.join] <;> omega

/-- The elements of items lie where the tokens of the items are. -/
theorem Items.within_rules {lo hi : Nat} {items : Items} (h : Token.InRow lo hi items.tokens) :
    ∀ rule ∈ items.rules, rule.span.Within lo hi := by
  cases items with
  | nil => exact List.forall_mem_nil _
  | cons item items =>
    obtain ⟨mid, hitem, hitems⟩ := Token.InRow.append_iff.mp h
    refine List.forall_mem_cons.mpr ⟨(Item.within_rule hitem).mono (Nat.le_refl lo) hitems.le, ?_⟩
    intro rule hrule
    exact (Items.within_rules hitems rule hrule).mono hitem.le (Nat.le_refl hi)

/-- An alternative ends where its last element does, or where it would have begun. -/
theorem Items.stop_alternative_le {items : Items} (h : Token.InRow lo hi items.tokens) :
    (items.alternative lo).span.stop ≤ hi := by
  have hrules := Items.within_rules h
  simp only [Items.alternative, Rule.plain, Parse.alternativeSpan]
  split
  · next first last _ hlast => exact (hrules last (List.mem_of_getLast? hlast)).stop_le
  · exact h.le

theorem stop_othersAlternatives_le {others : List (Token × Items)}
    (h : Token.InRow lo hi (othersTokens others)) :
    ∀ rule ∈ othersAlternatives others, rule.span.stop ≤ hi := by
  induction others generalizing lo with
  | nil => exact List.forall_mem_nil _
  | cons other others ih =>
    obtain ⟨-, -, hrest⟩ := h
    obtain ⟨mid, hitems, hothers⟩ := Token.InRow.append_iff.mp hrest
    exact List.forall_mem_cons.mpr ⟨(Items.stop_alternative_le hitems).trans hothers.le, ih hothers⟩

end Derivation

/-! ## Definitions in a row -/

namespace Parse

/-- A definition ends behind its colon, or where the last of its alternatives does. -/
theorem definitionStop_le {colonStop hi : Nat} {alternatives : List Rule} :
    definitionStop colonStop alternatives ≤ hi ↔
      colonStop ≤ hi ∧ ∀ rule ∈ alternatives, rule.span.stop ≤ hi := by
  rw [definitionStop]
  induction alternatives generalizing colonStop with
  | nil => simp
  | cons rule rules ih =>
    rw [List.map_cons, List.foldl_cons, ih, List.forall_mem_cons, Nat.max_le, and_assoc]

end Parse

/-- The definition lies between two offsets, and its name stands at its beginning. -/
structure RuleDef.Within (lo hi : Nat) (definition : RuleDef) : Prop where
  /-- the definition lies between the offsets -/
  span : definition.span.Within lo hi
  /-- it begins with its name -/
  start_eq : definition.name.span.start = definition.span.start
  /-- its name lies in it -/
  name : definition.name.span.Within definition.span.start definition.span.stop

theorem RuleDef.Within.mono {lo hi lo' hi' : Nat} {definition : RuleDef}
    (h : definition.Within lo hi) (hlo : lo' ≤ lo) (hhi : hi ≤ hi') : definition.Within lo' hi' :=
  ⟨h.span.mono hlo hhi, h.start_eq, h.name⟩

namespace Derivation

variable {lo hi : Nat}

theorem Definition.within_ruleDef {definition : Definition}
    (h : Token.InRow lo hi definition.tokens) : definition.ruleDef.Within lo hi := by
  obtain ⟨mid, ⟨hstart, hlt, hcolon, hcolon', hfirst⟩, hothers⟩ := Token.InRow.append_iff.mp h
  have hfirstStop := Items.stop_alternative_le hfirst
  have hmid := hfirst.le
  have hhi := hothers.le
  have hstop : definition.ruleDef.span.stop ≤ hi :=
    Parse.definitionStop_le.mpr ⟨hmid.trans hhi, List.forall_mem_cons.mpr
      ⟨hfirstStop.trans hhi, stop_othersAlternatives_le hothers⟩⟩
  have hcolonStop : definition.colon.span.stop ≤ definition.ruleDef.span.stop :=
    (Parse.definitionStop_le.mp (Nat.le_refl _)).1
  have hname : definition.name.span.stop ≤ definition.ruleDef.span.stop := by omega
  exact ⟨⟨hstart, Nat.lt_of_lt_of_le hlt hname, hstop⟩, rfl, ⟨Nat.le_refl _, hlt, hname⟩⟩

/-- Each definition ends before the next one begins, because its tokens do. -/
theorem within_definitions {definitions : List Definition}
    (h : Token.InRow lo hi (definitionsTokens definitions)) :
    (∀ definition ∈ definitions.map Definition.ruleDef, definition.Within lo hi) ∧
      (definitions.map Definition.ruleDef).Pairwise fun definition next =>
        definition.span.stop ≤ next.span.start := by
  induction definitions generalizing lo with
  | nil => exact ⟨List.forall_mem_nil _, List.Pairwise.nil⟩
  | cons definition definitions ih =>
    obtain ⟨mid, hfirst, hrest⟩ := Token.InRow.append_iff.mp h
    have hdefinition := Definition.within_ruleDef hfirst
    obtain ⟨hwithin, hpairwise⟩ := ih hrest
    refine ⟨List.forall_mem_cons.mpr ⟨hdefinition.mono (Nat.le_refl lo) hrest.le, ?_⟩,
      List.pairwise_cons.mpr ⟨?_, hpairwise⟩⟩
    · intro next hnext
      exact (hwithin next hnext).mono hfirst.le (Nat.le_refl hi)
    · intro next hnext
      exact hdefinition.span.stop_le.trans (hwithin next hnext).span.le_start

end Derivation

/-- **Definitions stand in a row.** The definitions of a grammar lie in its text, each begins with
its name and holds it, and each ends before the next one begins. -/
theorem Grammar.definitions_inRow {text : String} {grammar : Grammar}
    (h : Grammar.parse text = .ok grammar) :
    grammar.span = ⟨0, Text.byteCount text.toList⟩ ∧
      (∀ definition ∈ grammar.rules, definition.Within 0 (Text.byteCount text.toList)) ∧
      grammar.rules.Pairwise fun definition next => definition.span.stop ≤ next.span.start := by
  obtain ⟨document, -, hscan, rfl⟩ := Grammar.exists_document_of_parse h
  obtain ⟨mid, -, -, -, hrest⟩ := Token.InRow.append_iff.mp (Token.inRow_of_scan hscan)
  exact ⟨rfl, within_definitions (hrest.of_le (Nat.zero_le _))⟩

end FanServer
