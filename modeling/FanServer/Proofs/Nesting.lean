import FanServer.Grammar.Names
import FanServer.Proofs.Spans

/-!
# Spans nest

A node of a grammar lies within the node that it belongs to, and nodes that belong to the same one
stand in the order of the text. What is asked of one element is `Rule.Placed`; what is asked of one
definition and of the whole grammar, `RuleDef.Nested` and `Grammar.Nested`.

The elements inside an element are its parts and the one in its separator. That something holds of
all of them, at any depth, is `Rule.Throughout`. An element that was parsed is that of an item, and
so is each element inside it, so **it is enough to look at one item at a time**
(`Derivation.Items.throughout`): the tokens of an item stand in a row (`Token.InRow`), and each span
of its element is bounded by ends of such tokens.

Main result: `Grammar.spans_nest_of_parse`.
-/

open FanServer.Derivation

namespace FanServer

/-! ## Elements inside elements -/

namespace Rule

/-- `P` holds of the element and of all elements inside it: its parts, the one in its separator, and
those inside them. -/
inductive Throughout (P : Rule → Prop) : Rule → Prop where
  /-- what is asked of an element and of those right below it -/
  | intro {rule : Rule} (self : P rule) (parts : ∀ part ∈ rule.parts, part.Throughout P)
      (separator : ∀ clause ∈ rule.separator?, clause.rule.Throughout P) : rule.Throughout P

namespace Throughout

variable {P : Rule → Prop} {rule : Rule}

theorem self (h : rule.Throughout P) : P rule := by
  cases h with
  | intro self parts separator => exact self

theorem parts (h : rule.Throughout P) : ∀ part ∈ rule.parts, part.Throughout P := by
  cases h with
  | intro self parts separator => exact parts

theorem separator (h : rule.Throughout P) :
    ∀ clause ∈ rule.separator?, clause.rule.Throughout P := by
  cases h with
  | intro self parts separator => exact separator

end Throughout

end Rule

namespace Derivation

theorem Leaf.parts_eq_nil {t : Token} {kind : RuleKind} (h : Leaf t kind) (span : Span) :
    (Rule.plain kind span).parts = [] := by
  cases h <;> rfl

mutual

/-- What holds of the element of each item holds throughout the element of a term. -/
theorem Term.throughout {P : Rule → Prop} {ts : List Token}
    (hP : ∀ item : Item, item.Valid → item.tokens <:+: ts → P item.rule)
    (term : Term) (hvalid : term.Valid) (htokens : term.tokens <:+: ts) :
    term.rule.Throughout P := by
  have hself := hP (.plain term) hvalid htokens
  cases term with
  | leaf t kind =>
    refine .intro hself ?_ (by simp [Term.rule, Rule.plain, Rule.separator?])
    rw [Term.rule, Leaf.parts_eq_nil hvalid]
    exact List.forall_mem_nil _
  | group opening items closing =>
    have hitems : items.tokens <:+: ts := by
      refine List.IsInfix.trans ?_ htokens
      exact ⟨[opening], [closing], rfl⟩
    refine .intro hself ?_ (by simp [Term.rule, Rule.plain, Rule.separator?])
    exact Items.throughout hP items hvalid.2.1 hitems

/-- So it does throughout the element of an item: a repetition leaves the parts as they are. -/
theorem Item.throughout {P : Rule → Prop} {ts : List Token}
    (hP : ∀ item : Item, item.Valid → item.tokens <:+: ts → P item.rule)
    (item : Item) (hvalid : item.Valid) (htokens : item.tokens <:+: ts) :
    item.rule.Throughout P := by
  have hself := hP item hvalid htokens
  cases item with
  | plain term => exact Term.throughout hP term hvalid htokens
  | repeated term range =>
    have hterm := (List.prefix_append term.tokens [range]).isInfix.trans htokens
    refine .intro hself ?_ (by simp [Item.rule, Rule.repeated, Rule.separator?])
    exact (Term.throughout hP term hvalid.1 hterm).parts
  | separated term range marker separator =>
    have hterm := (List.prefix_append term.tokens
      (range :: marker :: separator.tokens)).isInfix.trans htokens
    have hseparator : separator.tokens <:+: ts := by
      refine List.IsInfix.trans ?_ htokens
      exact ⟨term.tokens ++ [range, marker], [], by simp [Item.tokens]⟩
    refine .intro hself ?_ ?_
    · exact (Term.throughout hP term hvalid.1 hterm).parts
    · intro clause hclause
      obtain rfl := Option.some.inj hclause
      exact Term.throughout hP separator hvalid.2.2.2 hseparator

/-- So it does throughout the elements of items. -/
theorem Items.throughout {P : Rule → Prop} {ts : List Token}
    (hP : ∀ item : Item, item.Valid → item.tokens <:+: ts → P item.rule)
    (items : Items) (hvalid : items.Valid) (htokens : items.tokens <:+: ts) :
    ∀ rule ∈ items.rules, rule.Throughout P := by
  cases items with
  | nil => exact List.forall_mem_nil _
  | cons item items =>
    have hitem := (List.prefix_append item.tokens items.tokens).isInfix.trans htokens
    have hitems := (List.suffix_append item.tokens items.tokens).isInfix.trans htokens
    exact List.forall_mem_cons.mpr ⟨Item.throughout hP item hvalid.1 hitem,
      Items.throughout hP items hvalid.2 hitems⟩

end

/-- An alternative of a definition is that of items of the definition. -/
theorem Definition.exists_items {definition : Definition} (hvalid : definition.Valid)
    {alternative : Rule} (h : alternative ∈ definition.ruleDef.alternatives) :
    ∃ (items : Items) (anchor : Nat), items.Valid ∧ items.tokens <:+: definition.tokens ∧
      items.alternative anchor = alternative := by
  rcases List.mem_cons.mp h with rfl | h
  · refine ⟨definition.first, definition.colon.span.stop, hvalid.first, ?_, rfl⟩
    exact ⟨[definition.name, definition.colon], othersTokens definition.others, rfl⟩
  · obtain ⟨⟨pipe, items⟩, hmem, rfl⟩ := List.mem_map.mp h
    refine ⟨items, pipe.span.stop, (hvalid.others _ hmem).2, ?_, rfl⟩
    have hother : pipe :: items.tokens <:+: othersTokens definition.others :=
      List.infix_of_mem_flatten (List.mem_map_of_mem hmem)
    exact ((List.suffix_cons pipe items.tokens).isInfix.trans hother).trans
      (List.suffix_append _ _).isInfix

theorem Document.tokens_definition {document : Document} {definition : Definition}
    (h : definition ∈ document.definitions) : definition.tokens <:+: document.tokens := by
  have hdefinition : definition.tokens <:+: definitionsTokens document.definitions :=
    List.infix_of_mem_flatten (List.mem_map_of_mem h)
  exact (hdefinition.trans (List.suffix_cons _ _).isInfix).trans (List.suffix_append _ _).isInfix

/-- What holds of the element of each item and of each alternative holds throughout a grammar. -/
theorem Document.throughout {P : Rule → Prop} {text : String} {document : Document}
    (hvalid : document.Valid)
    (hitem : ∀ item : Item, item.Valid → item.tokens <:+: document.tokens → P item.rule)
    (halternative : ∀ (items : Items) (anchor : Nat), P (items.alternative anchor)) :
    ∀ definition ∈ (document.grammar text).rules, ∀ alternative ∈ definition.alternatives,
      alternative.Throughout P := by
  intro _ hrule alternative hmem
  obtain ⟨definition, hdefinition, rfl⟩ := List.mem_map.mp hrule
  obtain ⟨items, anchor, hitems, htokens, rfl⟩ :=
    Definition.exists_items (hvalid.definitions definition hdefinition) hmem
  have hseparator : (items.alternative anchor).separator? = none := rfl
  refine .intro (halternative items anchor) ?_ (by simp [hseparator])
  exact Items.throughout hitem items hitems (htokens.trans (Document.tokens_definition hdefinition))

end Derivation

/-! ## Where elements stand -/

/-- The span marks off a part of the text: its ends are in order, and both are character boundaries
of the text. -/
structure Span.Marks (cs : List Char) (span : Span) : Prop where
  /-- the ends are in order -/
  le : span.start ≤ span.stop
  /-- the first end is a character boundary -/
  start : Text.isBoundary cs span.start
  /-- so is the second -/
  stop : Text.isBoundary cs span.stop

theorem Span.Marks.of_slice? {cs w : List Char} {span : Span} (h : Text.slice? cs span = some w) :
    span.Marks cs := by
  rw [Text.slice?] at h
  split_ifs at h with hmarks
  exact ⟨hmarks.1, hmarks.2.1, hmarks.2.2⟩

theorem Span.Marks.stop_le {cs : List Char} {span : Span} (h : span.Marks cs) :
    span.stop ≤ Text.byteCount cs := by
  have hstop := beq_iff_eq.mp h.stop
  have hcut := congrArg Text.byteCount (Text.takeBytes_append_dropBytes span.stop cs)
  rw [Text.floorBoundary] at hstop
  rw [Text.byteCount_append] at hcut
  omega

/-- A separator stands in its quantifier, behind the range, and ends with the element in it. -/
structure Separator.Placed (cs : List Char) (quantifier : Quantifier) (clause : Separator) :
    Prop where
  /-- it marks off a part of the text -/
  marks : clause.span.Marks cs
  /-- the quantifier holds it -/
  enclosed : quantifier.span.encloses clause.span
  /-- something stands before it in the quantifier -/
  lt_start : quantifier.span.start < clause.span.start
  /-- it begins before its element -/
  start_lt : clause.span.start < clause.rule.span.start
  /-- it holds its element -/
  encloses : clause.span.encloses clause.rule.span
  /-- it ends with its element -/
  stop_eq : clause.span.stop = clause.rule.span.stop

/-- A quantifier stands in its element, behind all parts, and ends with it. -/
structure Quantifier.Placed (cs : List Char) (rule : Rule) (quantifier : Quantifier) : Prop where
  /-- it marks off a part of the text -/
  marks : quantifier.span.Marks cs
  /-- the element holds it -/
  enclosed : rule.span.encloses quantifier.span
  /-- it begins where the parts have ended -/
  behind : ∀ part ∈ rule.parts, part.span.stop ≤ quantifier.span.start
  /-- it ends with the element -/
  stop_eq : quantifier.span.stop = rule.span.stop
  /-- its separator stands in it -/
  separator : ∀ clause ∈ quantifier.separator, clause.Placed cs quantifier

/-- An element holds its parts, which stand one behind the other, and its quantifier. -/
structure Rule.Placed (cs : List Char) (rule : Rule) : Prop where
  /-- it marks off a part of the text -/
  marks : rule.span.Marks cs
  /-- it holds its parts -/
  encloses : ∀ part ∈ rule.parts, rule.span.encloses part.span
  /-- each part ends before the next one begins -/
  inRow : rule.parts.Pairwise fun part next => part.span.stop ≤ next.span.start
  /-- its quantifier stands in it -/
  quantifier : ∀ quantifier ∈ rule.quantifier, quantifier.Placed cs rule

/-- A quantifier that begins where an element ends can be put to it. -/
theorem Rule.Placed.repeated {cs : List Char} {rule : Rule} {quantifier : Quantifier}
    (h : rule.Placed cs) (hmarks : quantifier.span.Marks cs)
    (hstart : quantifier.span.start = rule.span.stop)
    (hseparator : ∀ clause ∈ quantifier.separator, clause.Placed cs quantifier) :
    (rule.repeated quantifier).Placed cs := by
  have hle := h.marks.le
  have hle' := hmarks.le
  have hspan : (rule.repeated quantifier).span = ⟨rule.span.start, quantifier.span.stop⟩ := by
    simp only [Rule.repeated, Span.join, Span.mk.injEq]
    omega
  have hencloses : ∀ part ∈ rule.parts, rule.span.start ≤ part.span.start ∧
      part.span.stop ≤ rule.span.stop := fun part hpart =>
    Span.encloses_iff.mp (h.encloses part hpart)
  refine ⟨?_, ?_, h.inRow, ?_⟩
  · rw [hspan]
    exact ⟨by dsimp only; omega, h.marks.start, hmarks.stop⟩
  · intro part hpart
    obtain ⟨hpart, hpart'⟩ := hencloses part hpart
    rw [hspan, Span.encloses_iff]
    exact ⟨hpart, by dsimp only; omega⟩
  · intro quantifier' hquantifier
    obtain rfl := Option.some.inj hquantifier
    refine ⟨hmarks, ?_, ?_, ?_, hseparator⟩
    · rw [hspan, Span.encloses_iff]
      exact ⟨by dsimp only; omega, Nat.le_refl _⟩
    · intro part hpart
      rw [hstart]
      exact (hencloses part hpart).2
    · rw [hspan]

/-- Tokens between tokens that stand in a row stand in a row. -/
theorem Token.InRow.of_isInfix {lo hi : Nat} {ts us : List Token} (h : InRow lo hi ts)
    (hbetween : us <:+: ts) : ∃ lo' hi', InRow lo' hi' us := by
  obtain ⟨before, after, rfl⟩ := hbetween
  obtain ⟨_, hleft, -⟩ := append_iff.mp h
  obtain ⟨_, -, hmiddle⟩ := append_iff.mp hleft
  exact ⟨_, _, hmiddle⟩

theorem Token.StandsIn.marks {t : Token} {cs : List Char} (h : t.StandsIn cs) :
    t.span.Marks cs := by
  have hlt := h.start_lt_stop
  obtain ⟨before, after, rfl, hbetween⟩ := h
  rw [hbetween.span_eq] at hlt ⊢
  refine ⟨hlt.le, ?_, ?_⟩
  · rw [List.append_assoc]
    exact Text.isBoundary_byteCount_append before _
  · dsimp only
    rw [← Text.byteCount_append]
    exact Text.isBoundary_byteCount_append _ after

namespace Derivation

variable {cs : List Char} {lo hi : Nat}

/-- The elements of items stand one behind the other. -/
theorem Items.pairwise_rules {lo hi : Nat} (items : Items) (hrow : Token.InRow lo hi items.tokens) :
    items.rules.Pairwise fun rule next => rule.span.stop ≤ next.span.start := by
  cases items with
  | nil => exact List.Pairwise.nil
  | cons item items =>
    obtain ⟨mid, hitem, hitems⟩ := Token.InRow.append_iff.mp hrow
    refine List.pairwise_cons.mpr ⟨?_, Items.pairwise_rules items hitems⟩
    intro next hnext
    exact (Item.within_rule hitem).stop_le.trans (Items.within_rules hitems next hnext).le_start

theorem Term.placed_rule {term : Term} (hvalid : term.Valid) (hrow : Token.InRow lo hi term.tokens)
    (hmarks : ∀ t ∈ term.tokens, t.span.Marks cs) : term.rule.Placed cs := by
  have hwithin := Term.within_rule hrow
  cases term with
  | leaf t kind =>
    have hparts : (Term.leaf t kind).rule.parts = [] := Leaf.parts_eq_nil hvalid t.span
    refine ⟨hmarks t List.mem_cons_self, ?_, ?_, by simp [Term.rule, Rule.plain]⟩
    · rw [hparts]
      exact List.forall_mem_nil _
    · rw [hparts]
      exact List.Pairwise.nil
  | group opening items closing =>
    obtain ⟨mid, ⟨hstart, hlt, hitems⟩, hmid, hlt', hhi⟩ := Token.InRow.append_iff.mp hrow
    refine ⟨⟨hwithin.start_lt_stop.le, ?_, ?_⟩, ?_, Items.pairwise_rules items hitems,
      by simp [Term.rule, Rule.plain]⟩
    · exact (hmarks opening (by simp [Term.tokens])).start
    · exact (hmarks closing (by simp [Term.tokens])).stop
    · intro part hpart
      have hpart := Items.within_rules hitems part hpart
      refine Span.encloses_iff.mpr ⟨?_, ?_⟩
      · exact hlt.le.trans hpart.le_start
      · exact hpart.stop_le.trans (hmid.trans hlt'.le)

/-- The separator of an item stands in its quantifier. -/
theorem placed_separator {range marker : Token} {separator : Term} (text : String)
    (hvalid : separator.Valid) (hrow : Token.InRow lo hi (range :: marker :: separator.tokens))
    (hmarks : ∀ t ∈ marker :: separator.tokens, t.span.Marks cs) :
    Separator.Placed cs ⟨⟨range.span.start, separator.stop⟩, text,
        some ⟨⟨marker.span.start, separator.stop⟩, marker.text, separator.rule⟩⟩
      ⟨⟨marker.span.start, separator.stop⟩, marker.text, separator.rule⟩ := by
  obtain ⟨hstart, hlt, hstart', hlt', hseparator⟩ := hrow
  obtain ⟨hmarker, hmarks⟩ := List.forall_mem_cons.mp hmarks
  have hplaced := Term.placed_rule hvalid hseparator hmarks
  have hwithin := Term.within_rule hseparator
  have hle := hwithin.le_start
  have hne := hwithin.start_lt_stop
  have hstop := hplaced.marks.stop
  rw [Parse.stop_rule] at hne hstop
  refine ⟨⟨?_, hmarker.start, hstop⟩, ?_, ?_, ?_, ?_, (Parse.stop_rule separator).symm⟩
  · dsimp only
    omega
  · exact Span.encloses_iff.mpr ⟨by dsimp only; omega, Nat.le_refl _⟩
  · dsimp only
    omega
  · dsimp only
    omega
  · exact Span.encloses_iff.mpr ⟨by dsimp only; omega, (Parse.stop_rule separator).le⟩

theorem Item.placed_rule {item : Item} (hvalid : item.Valid)
    (hrow : Token.InRow lo hi item.tokens) (hmarks : ∀ t ∈ item.tokens, t.span.Marks cs) :
    item.rule.Placed cs := by
  cases item with
  | plain term => exact Term.placed_rule hvalid hrow hmarks
  | repeated term range =>
    obtain ⟨hterm, -, hstart⟩ := hvalid
    obtain ⟨mid, hrow, -⟩ := Token.InRow.append_iff.mp hrow
    obtain ⟨hmarks, hrange⟩ := List.forall_mem_append.mp hmarks
    refine (Term.placed_rule hterm hrow hmarks).repeated ?_ ?_ (by simp)
    · exact hrange range List.mem_cons_self
    · rw [hstart, Parse.stop_rule]
  | separated term range marker separator =>
    obtain ⟨hterm, ⟨-, hstart⟩, -, hseparator⟩ := hvalid
    obtain ⟨mid, hrow, hrest⟩ := Token.InRow.append_iff.mp hrow
    obtain ⟨hmarks, hmarks'⟩ := List.forall_mem_append.mp hmarks
    obtain ⟨hrange, hmarks'⟩ := List.forall_mem_cons.mp hmarks'
    have hclause := placed_separator (String.ofList (Text.trimBlank (Parse.inside range.text)))
      hseparator hrest hmarks'
    refine (Term.placed_rule hterm hrow hmarks).repeated ?_ ?_ ?_
    · refine ⟨?_, hrange.start, hclause.marks.stop⟩
      exact hclause.lt_start.le.trans hclause.marks.le
    · rw [Parse.stop_rule, ← hstart]
    · intro clause hmem
      obtain rfl := Option.some.inj hmem
      exact hclause

end Derivation

/-! ## Alternatives -/

namespace Derivation

variable {cs : List Char} {lo hi : Nat}

/-- An alternative begins with its first element, or right behind the sign that introduces it. -/
theorem Items.le_start_alternative {items : Items} (h : Token.InRow lo hi items.tokens) :
    lo ≤ (items.alternative lo).span.start := by
  have hrules := Items.within_rules h
  simp only [Items.alternative, Rule.plain, Parse.alternativeSpan]
  split
  · next first last hfirst _ => exact (hrules first (List.mem_of_mem_head? hfirst)).le_start
  · exact Nat.le_refl lo

/-- Elements that stand in a row lie between the start of the first and the end of the last. -/
theorem bounds_of_pairwise {rules : List Rule} {first last rule : Rule}
    (hwithin : ∀ rule ∈ rules, rule.span.Within lo hi)
    (hrow : rules.Pairwise fun rule next => rule.span.stop ≤ next.span.start)
    (hfirst : rules.head? = some first) (hlast : rules.getLast? = some last)
    (hrule : rule ∈ rules) :
    first.span.start ≤ rule.span.start ∧ rule.span.stop ≤ last.span.stop := by
  refine ⟨?_, ?_⟩
  · obtain ⟨others, rfl⟩ := List.head?_eq_some_iff.mp hfirst
    rcases List.mem_cons.mp hrule with rfl | hrule
    · exact Nat.le_refl _
    · have hne := (hwithin first List.mem_cons_self).start_lt_stop
      exact hne.le.trans ((List.pairwise_cons.mp hrow).1 rule hrule)
  · obtain ⟨others, rfl⟩ := List.getLast?_eq_some_iff.mp hlast
    rcases List.mem_append.mp hrule with hrule | hrule
    · have hne := (hwithin last (List.mem_append_right _ List.mem_cons_self)).start_lt_stop
      exact ((List.pairwise_append.mp hrow).2.2 rule hrule last List.mem_cons_self).trans hne.le
    · rw [List.mem_singleton.mp hrule]

/-- Each element of items and each element inside it is that of an item, whose tokens stand in a
row, too. -/
theorem Items.throughout_placed {items : Items} (hvalid : items.Valid)
    (hrow : Token.InRow lo hi items.tokens) (hmarks : ∀ t ∈ items.tokens, t.span.Marks cs) :
    ∀ rule ∈ items.rules, rule.Throughout (Rule.Placed cs) := by
  refine Items.throughout ?_ items hvalid (List.infix_refl items.tokens)
  intro item hitem htokens
  obtain ⟨lo', hi', hrow'⟩ := hrow.of_isInfix htokens
  exact Item.placed_rule hitem hrow' fun t ht => hmarks t (htokens.subset ht)

/-- An alternative holds its elements. -/
theorem Items.placed_alternative {items : Items} (hvalid : items.Valid)
    (hrow : Token.InRow lo hi items.tokens) (hmarks : ∀ t ∈ items.tokens, t.span.Marks cs)
    (hanchor : Text.isBoundary cs lo) : (items.alternative lo).Placed cs := by
  have hwithin := Items.within_rules hrow
  have hpairwise := Items.pairwise_rules items hrow
  have hplaced := fun rule hrule => (Items.throughout_placed hvalid hrow hmarks rule hrule).self
  have hquantifier : (items.alternative lo).quantifier = none := rfl
  refine ⟨?_, ?_, hpairwise, by simp [hquantifier]⟩
  · simp only [Items.alternative, Rule.plain, Parse.alternativeSpan]
    split
    · next first last hfirst hlast =>
      have hmem := List.mem_of_getLast? hlast
      have hle := (bounds_of_pairwise hwithin hpairwise hfirst hlast hmem).1
      refine ⟨hle.trans (hplaced last hmem).marks.le, ?_, (hplaced last hmem).marks.stop⟩
      exact (hplaced first (List.mem_of_mem_head? hfirst)).marks.start
    · exact ⟨Nat.le_refl lo, hanchor, hanchor⟩
  · intro part (hpart : part ∈ items.rules)
    simp only [Items.alternative, Rule.plain, Parse.alternativeSpan]
    split
    · next first last hfirst hlast =>
      exact Span.encloses_iff.mpr (bounds_of_pairwise hwithin hpairwise hfirst hlast hpart)
    · next hnone =>
      -- an alternative with an element has a first and a last one
      have hne := List.ne_nil_of_mem hpart
      exact absurd (List.getLast?_eq_some_getLast hne) (hnone _ _ (List.head?_eq_some_head hne))

theorem Items.throughout_alternative {items : Items} (hvalid : items.Valid)
    (hrow : Token.InRow lo hi items.tokens) (hmarks : ∀ t ∈ items.tokens, t.span.Marks cs)
    (hanchor : Text.isBoundary cs lo) : (items.alternative lo).Throughout (Rule.Placed cs) := by
  have hseparator : (items.alternative lo).separator? = none := rfl
  refine .intro (Items.placed_alternative hvalid hrow hmarks hanchor) ?_ (by simp [hseparator])
  exact Items.throughout_placed hvalid hrow hmarks

/-- The alternatives behind the first stand one behind the other, each behind its `|`. -/
theorem othersAlternatives_inRow {others : List (Token × Items)}
    (h : Token.InRow lo hi (othersTokens others)) :
    (∀ rule ∈ othersAlternatives others, lo < rule.span.start) ∧
      (othersAlternatives others).Pairwise fun rule next => rule.span.stop < next.span.start := by
  induction others generalizing lo with
  | nil => exact ⟨List.forall_mem_nil _, List.Pairwise.nil⟩
  | cons other others ih =>
    obtain ⟨hpipe, hlt, hrest⟩ := h
    obtain ⟨mid, hitems, hothers⟩ := Token.InRow.append_iff.mp hrest
    obtain ⟨hstart, hrow⟩ := ih hothers
    have hle := Items.le_start_alternative hitems
    have hstop := Items.stop_alternative_le hitems
    have hmid := hitems.le
    refine ⟨List.forall_mem_cons.mpr ⟨?_, ?_⟩, List.pairwise_cons.mpr ⟨?_, hrow⟩⟩
    · exact (hpipe.trans_lt hlt).trans_le hle
    · intro rule hrule
      exact ((hpipe.trans_lt hlt).trans_le hmid).trans (hstart rule hrule)
    · intro rule hrule
      exact hstop.trans_lt (hstart rule hrule)

theorem throughout_othersAlternatives {others : List (Token × Items)}
    (hvalid : ∀ other ∈ others, other.2.Valid) (hrow : Token.InRow lo hi (othersTokens others))
    (hmarks : ∀ t ∈ othersTokens others, t.span.Marks cs) :
    ∀ rule ∈ othersAlternatives others, rule.Throughout (Rule.Placed cs) := by
  induction others generalizing lo with
  | nil => exact List.forall_mem_nil _
  | cons other others ih =>
    obtain ⟨pipe, items⟩ := other
    obtain ⟨hitems, hothers⟩ := List.forall_mem_cons.mp hvalid
    obtain ⟨-, -, hrest⟩ := hrow
    obtain ⟨mid, hrow, hrow'⟩ := Token.InRow.append_iff.mp hrest
    obtain ⟨hpipe, hmarks⟩ := List.forall_mem_cons.mp hmarks
    obtain ⟨hmarks, hmarks'⟩ := List.forall_mem_append.mp hmarks
    exact List.forall_mem_cons.mpr ⟨Items.throughout_alternative hitems hrow hmarks hpipe.stop,
      ih hothers hrow' hmarks'⟩

end Derivation

/-! ## Definitions -/

/-- A definition begins with its name and holds its alternatives, which stand one behind the other
behind the name. -/
structure RuleDef.Nested (cs : List Char) (definition : RuleDef) : Prop where
  /-- the definition marks off a part of the text -/
  marks : definition.span.Marks cs
  /-- so does its name -/
  marks_name : definition.name.span.Marks cs
  /-- it begins with its name -/
  start_eq : definition.name.span.start = definition.span.start
  /-- it holds its name -/
  encloses_name : definition.span.encloses definition.name.span
  /-- there is an alternative -/
  nonempty : definition.alternatives ≠ []
  /-- it holds its alternatives -/
  encloses : ∀ alternative ∈ definition.alternatives,
    definition.span.encloses alternative.span
  /-- the name ends before the alternatives begin -/
  name_lt : ∀ alternative ∈ definition.alternatives,
    definition.name.span.stop < alternative.span.start
  /-- each alternative ends before the next one begins -/
  inRow : definition.alternatives.Pairwise fun alternative next =>
    alternative.span.stop < next.span.start
  /-- all elements of the alternatives stand where they should -/
  throughout : ∀ alternative ∈ definition.alternatives, alternative.Throughout (Rule.Placed cs)

/-- A grammar covers its text and holds its definitions, which stand one behind the other. -/
structure Grammar.Nested (text : String) (grammar : Grammar) : Prop where
  /-- the grammar covers the text -/
  span_eq : grammar.span = ⟨0, Text.byteCount text.toList⟩
  /-- it marks off a part of the text -/
  marks : grammar.span.Marks text.toList
  /-- it holds its definitions -/
  encloses : ∀ definition ∈ grammar.rules, grammar.span.encloses definition.span
  /-- each definition ends before the next one begins -/
  inRow : grammar.rules.Pairwise fun definition next => definition.span.stop ≤ next.span.start
  /-- all definitions nest -/
  rules : ∀ definition ∈ grammar.rules, definition.Nested text.toList

/-- A definition ends with its colon or with one of its alternatives. -/
theorem Parse.definitionStop_cases (colonStop : Nat) (alternatives : List Rule) :
    definitionStop colonStop alternatives = colonStop ∨
      ∃ rule ∈ alternatives, definitionStop colonStop alternatives = rule.span.stop := by
  rw [definitionStop]
  induction alternatives generalizing colonStop with
  | nil => exact .inl rfl
  | cons rule rules ih =>
    rw [List.map_cons, List.foldl_cons]
    rcases ih (max colonStop rule.span.stop) with hmax | ⟨last, hlast, hstop⟩
    · rcases Nat.le_total colonStop rule.span.stop with hle | hle
      · exact .inr ⟨rule, List.mem_cons_self, hmax.trans (Nat.max_eq_right hle)⟩
      · exact .inl (hmax.trans (Nat.max_eq_left hle))
    · exact .inr ⟨last, List.mem_cons_of_mem _ hlast, hstop⟩

namespace Derivation

variable {cs : List Char} {lo hi : Nat}

theorem Definition.nested_ruleDef {definition : Definition} (hvalid : definition.Valid)
    (hrow : Token.InRow lo hi definition.tokens)
    (hmarks : ∀ t ∈ definition.tokens, t.span.Marks cs) : definition.ruleDef.Nested cs := by
  have hwithin := Definition.within_ruleDef hrow
  obtain ⟨mid, ⟨hstart, hlt, hcolon, hcolon', hfirst⟩, hothers⟩ := Token.InRow.append_iff.mp hrow
  obtain ⟨hmarks, hmarksOthers⟩ := List.forall_mem_append.mp hmarks
  obtain ⟨hname, hmarks⟩ := List.forall_mem_cons.mp hmarks
  obtain ⟨hcolonMarks, hmarksFirst⟩ := List.forall_mem_cons.mp hmarks
  have hstartFirst := Items.le_start_alternative hfirst
  have hstopFirst := Items.stop_alternative_le hfirst
  have hmid := hfirst.le
  obtain ⟨hstartOthers, hrowOthers⟩ := othersAlternatives_inRow hothers
  have hnameLt : ∀ alternative ∈ definition.ruleDef.alternatives,
      definition.name.span.stop < alternative.span.start := by
    refine List.forall_mem_cons.mpr ⟨?_, ?_⟩
    · exact (hcolon.trans_lt hcolon').trans_le hstartFirst
    · intro alternative halternative
      exact ((hcolon.trans_lt hcolon').trans_le hmid).trans (hstartOthers alternative halternative)
  have hthroughout : ∀ alternative ∈ definition.ruleDef.alternatives,
      alternative.Throughout (Rule.Placed cs) :=
    List.forall_mem_cons.mpr
      ⟨Items.throughout_alternative hvalid.first hfirst hmarksFirst hcolonMarks.stop,
        throughout_othersAlternatives (fun other hother => (hvalid.others other hother).2) hothers
          hmarksOthers⟩
  have hspan : definition.ruleDef.span.stop = Parse.definitionStop definition.colon.span.stop
      definition.ruleDef.alternatives := rfl
  have hstop := (Parse.definitionStop_le.mp hspan.ge).2
  exact {
    marks := by
      refine ⟨hwithin.span.start_lt_stop.le, hname.start, ?_⟩
      rcases Parse.definitionStop_cases definition.colon.span.stop
        definition.ruleDef.alternatives with hcases | ⟨last, hlast, hcases⟩
      · rw [hspan, hcases]
        exact hcolonMarks.stop
      · rw [hspan, hcases]
        exact (hthroughout last hlast).self.marks.stop
    marks_name := hname
    start_eq := hwithin.start_eq
    encloses_name := Span.encloses_iff.mpr ⟨hwithin.name.le_start, hwithin.name.stop_le⟩
    nonempty := List.cons_ne_nil _ _
    encloses := by
      intro alternative halternative
      refine Span.encloses_iff.mpr ⟨?_, hstop alternative halternative⟩
      exact hlt.le.trans (hnameLt alternative halternative).le
    name_lt := hnameLt
    inRow := by
      refine List.pairwise_cons.mpr ⟨?_, hrowOthers⟩
      intro alternative halternative
      exact hstopFirst.trans_lt (hstartOthers alternative halternative)
    throughout := hthroughout }

/-- The spans of the model of a tree nest, if the tokens of the tree are those of the text. -/
theorem Document.nested_grammar {text : String} {document : Document} (hvalid : document.Valid)
    (hscan : Token.scan text = .ok document.tokens) : (document.grammar text).Nested text := by
  have hrow := Token.inRow_of_scan hscan
  obtain ⟨mid, -, -, -, hrest⟩ := Token.InRow.append_iff.mp hrow
  obtain ⟨hwithin, hpairwise⟩ := within_definitions (hrest.of_le (Nat.zero_le _))
  have hstands := Token.standsIn_of_scan hscan
  exact {
    span_eq := rfl
    marks := by
      refine ⟨Nat.zero_le _, Text.isBoundary_byteCount_append [] text.toList, ?_⟩
      have hend := Text.isBoundary_byteCount_append text.toList []
      rwa [List.append_nil] at hend
    encloses := by
      intro definition hdefinition
      have hspan := (hwithin definition hdefinition).span
      exact Span.encloses_iff.mpr ⟨hspan.le_start, hspan.stop_le⟩
    inRow := hpairwise
    rules := by
      rintro _ hdefinition
      obtain ⟨definition, hmem, rfl⟩ := List.mem_map.mp hdefinition
      have htokens := Document.tokens_definition hmem
      obtain ⟨lo, hi, hrow'⟩ := hrow.of_isInfix htokens
      exact Definition.nested_ruleDef (hvalid.definitions definition hmem) hrow'
        fun t ht => (hstands t (htokens.subset ht)).marks }

end Derivation

/-- **Spans nest.** In a grammar that is parsed, each node marks off a part of the text and lies
within the node that it belongs to, and nodes that belong to the same one stand in the order of the
text. -/
theorem Grammar.spans_nest_of_parse {text : String} {grammar : Grammar}
    (h : Grammar.parse text = .ok grammar) : grammar.Nested text := by
  obtain ⟨document, hvalid, hscan, rfl⟩ := Grammar.exists_document_of_parse h
  exact Document.nested_grammar hvalid hscan

/-- A grammar with characters of several bytes, a group with a group in its separator, alternatives
without elements, and a definition that begins where another one ends. -/
theorem Grammar.spans_nest_of_wide_characters :
    ∃ grammar,
      Grammar.parse "unit grammar G;\nk: '𝄞' [a .b(s?)](s) %% [c] | | /ä/m:|" = .ok grammar ∧
      grammar.ruleNames = ["k", "m"] ∧
      grammar.Nested "unit grammar G;\nk: '𝄞' [a .b(s?)](s) %% [c] | | /ä/m:|" := by
  have hnames : (Grammar.parse "unit grammar G;\nk: '𝄞' [a .b(s?)](s) %% [c] | | /ä/m:|").map
      Grammar.ruleNames = .ok ["k", "m"] := by decide +kernel
  obtain ⟨grammar, hparse, hnames⟩ := Parse.exists_of_map_eq_ok hnames
  exact ⟨grammar, hparse, hnames, Grammar.spans_nest_of_parse hparse⟩

end FanServer
