import FanServer.Proofs.Lines
import FanServer.Proofs.Mentions
import FanServer.Proofs.Verbatim

/-!
# Texts that go on on further lines

A definition has no sign at its end. Where it ends is decided by what follows, so it has to be shown
that **definitions do not depend on what follows them**, and that it does not matter where in a text
they stand:

* `Token.scan_lines_eq_ok_iff`, `Reads.shift` — of the tokens, both are known already: a text is
  scanned line by line, and what is read further on is read in the same way, with its spans moved;
* `Term.shift`, `Definition.shift` — a tree that is moved. Its tokens, its depth and what it stands
  for move with it, and it stays valid, since a range that touches a term still does;
* `Document.fifteen_le` — a declaration has at least fifteen bytes, so that definitions taken from
  behind the shortest declaration can only move to the right.

Main result: `Grammar.parse_continued`.
-/

open FanServer.Derivation

namespace FanServer

/-! ## Moving models -/

mutual

/-- The element with every span in it moved `n` bytes to the right. -/
def Rule.shift (n : Nat) : Rule → Rule
  | ⟨kind, span, quantifier⟩ =>
    ⟨kind.shift n, span.shift n, Quantifier.optionShift n quantifier⟩

/-- What an element is, with every span in it moved. -/
def RuleKind.shift (n : Nat) : RuleKind → RuleKind
  | .sequence parts => .sequence (Rule.listShift n parts)
  | .marker marker => .marker marker
  | .reference target modifiers => .reference target modifiers
  | .literal form value => .literal form value

/-- The elements of a sequence, with every span in them moved. -/
def Rule.listShift (n : Nat) : List Rule → List Rule
  | [] => []
  | rule :: rules => rule.shift n :: Rule.listShift n rules

/-- A repetition, with every span in it moved. -/
def Quantifier.optionShift (n : Nat) : Option Quantifier → Option Quantifier
  | none => none
  | some ⟨span, range, separator⟩ =>
    some ⟨span.shift n, range, Separator.optionShift n separator⟩

/-- A separator, with every span in it moved. -/
def Separator.optionShift (n : Nat) : Option Separator → Option Separator
  | none => none
  | some ⟨span, marker, rule⟩ => some ⟨span.shift n, marker, rule.shift n⟩

end

/-- The definition with every span in it moved `n` bytes to the right. -/
def RuleDef.shift (n : Nat) (definition : RuleDef) : RuleDef :=
  ⟨⟨definition.name.text, definition.name.span.shift n⟩, definition.span.shift n,
    definition.alternatives.map (Rule.shift n)⟩

section Models

variable (n : Nat)

theorem Rule.listShift_eq_map (rules : List Rule) :
    Rule.listShift n rules = rules.map (Rule.shift n) := by
  induction rules with
  | nil => rw [Rule.listShift, List.map_nil]
  | cons rule rules ih => rw [Rule.listShift, List.map_cons, ih]

@[simp]
theorem Rule.span_shift (rule : Rule) : (rule.shift n).span = rule.span.shift n := by
  cases rule
  rw [Rule.shift]

theorem Rule.shift_plain (kind : RuleKind) (span : Span) :
    (Rule.plain kind span).shift n = .plain (kind.shift n) (span.shift n) := by
  rw [Rule.plain, Rule.shift, Quantifier.optionShift, Rule.plain]

theorem Span.shift_join (s t : Span) : (s.join t).shift n = (s.shift n).join (t.shift n) := by
  simp only [Span.shift, Span.join, Nat.add_min_add_right, Nat.add_max_add_right]

theorem Rule.shift_repeated (rule : Rule) (span : Span) (range : String)
    (clause : Option Separator) :
    (rule.repeated ⟨span, range, clause⟩).shift n =
      (rule.shift n).repeated ⟨span.shift n, range, Separator.optionShift n clause⟩ := by
  cases rule
  simp only [Rule.repeated, Rule.shift, Quantifier.optionShift, Span.shift_join]

/-- The span of an alternative moves with its parts. -/
theorem Parse.alternativeSpan_shift (anchor : Nat) (parts : List Rule) :
    Parse.alternativeSpan (anchor + n) (parts.map (Rule.shift n)) =
      (Parse.alternativeSpan anchor parts).shift n := by
  rw [Parse.alternativeSpan, Parse.alternativeSpan, List.head?_map, List.getLast?_map]
  cases parts.head? <;> cases parts.getLast? <;> simp [Span.shift]

/-- The end of a definition moves with its alternatives. -/
theorem Parse.definitionStop_shift (colonStop : Nat) (alternatives : List Rule) :
    Parse.definitionStop (colonStop + n) (alternatives.map (Rule.shift n)) =
      Parse.definitionStop colonStop alternatives + n := by
  simp only [Parse.definitionStop]
  induction alternatives generalizing colonStop with
  | nil => rfl
  | cons rule rules ih =>
    simp only [List.map_cons, List.foldl_cons, Rule.span_shift, Span.stop_shift,
      Nat.add_max_add_right]
    exact ih _

end Models

/-! ## Moving trees -/

namespace Derivation

mutual

/-- The term with every token in it moved. -/
def Term.shift (n : Nat) : Term → Term
  | .leaf t kind => .leaf (t.shift n) (kind.shift n)
  | .group opening items closing => .group (opening.shift n) (items.shift n) (closing.shift n)

/-- The item with every token in it moved. -/
def Item.shift (n : Nat) : Item → Item
  | .plain term => .plain (term.shift n)
  | .repeated term range => .repeated (term.shift n) (range.shift n)
  | .separated term range marker separator =>
    .separated (term.shift n) (range.shift n) (marker.shift n) (separator.shift n)

/-- The items with every token in them moved. -/
def Items.shift (n : Nat) : Items → Items
  | .nil => .nil
  | .cons item items => .cons (item.shift n) (items.shift n)

end

/-- The definition with every token in it moved. -/
def Definition.shift (n : Nat) (definition : Definition) : Definition :=
  ⟨definition.name.shift n, definition.colon.shift n, definition.first.shift n,
    definition.others.map fun other => (other.1.shift n, other.2.shift n)⟩

section Trees

variable (n : Nat)

mutual

theorem Term.tokens_shift (term : Term) :
    (term.shift n).tokens = term.tokens.map (Token.shift n) := by
  cases term with
  | leaf t kind => simp [Term.shift, Term.tokens]
  | group opening items closing => simp [Term.shift, Term.tokens, items.tokens_shift]

theorem Item.tokens_shift (item : Item) :
    (item.shift n).tokens = item.tokens.map (Token.shift n) := by
  cases item with
  | plain term => simp [Item.shift, Item.tokens, term.tokens_shift]
  | repeated term range => simp [Item.shift, Item.tokens, term.tokens_shift]
  | separated term range marker separator =>
    simp [Item.shift, Item.tokens, term.tokens_shift, separator.tokens_shift]

theorem Items.tokens_shift (items : Items) :
    (items.shift n).tokens = items.tokens.map (Token.shift n) := by
  cases items with
  | nil => simp [Items.shift, Items.tokens]
  | cons item items =>
    simp [Items.shift, Items.tokens, item.tokens_shift, items.tokens_shift]

end

mutual

theorem Term.depth_shift (term : Term) : (term.shift n).depth = term.depth := by
  cases term with
  | leaf t kind => simp [Term.shift, Term.depth]
  | group opening items closing => simp [Term.shift, Term.depth, items.depth_shift]

theorem Item.depth_shift (item : Item) : (item.shift n).depth = item.depth := by
  cases item with
  | plain term => simp [Item.shift, Item.depth, term.depth_shift]
  | repeated term range => simp [Item.shift, Item.depth, term.depth_shift]
  | separated term range marker separator =>
    simp [Item.shift, Item.depth, term.depth_shift, separator.depth_shift]

theorem Items.depth_shift (items : Items) : (items.shift n).depth = items.depth := by
  cases items with
  | nil => simp [Items.shift, Items.depth]
  | cons item items => simp [Items.shift, Items.depth, item.depth_shift, items.depth_shift]

end

theorem Term.stop_shift (term : Term) : (term.shift n).stop = term.stop + n := by
  cases term <;> simp [Term.shift, Term.stop]

theorem Leaf.shift {t : Token} {kind : RuleKind} (h : Leaf t kind) :
    Leaf (t.shift n) (kind.shift n) := by
  cases h with
  | plus hkind => exact .plus hkind
  | minus hkind => exact .minus hkind
  | word hkind => exact .word hkind
  | string hkind => exact .string hkind
  | regex hkind => exact .regex hkind

/-- A range that touches a term touches it wherever both are moved. -/
theorem IsRange.shift {range : Token} {term : Term} (h : IsRange range term.stop) :
    IsRange (range.shift n) (term.shift n).stop := by
  obtain ⟨hkind, hstart⟩ := h
  refine ⟨hkind, ?_⟩
  rw [Token.span_shift, Span.start_shift, hstart, Term.stop_shift]

mutual

theorem Term.valid_shift (term : Term) (h : term.Valid) : (term.shift n).Valid := by
  cases term with
  | leaf t kind =>
    have hleaf : Leaf t kind := h
    exact hleaf.shift n
  | group opening items closing =>
    obtain ⟨hopening, hitems, hclosing⟩ := h
    exact ⟨hopening, items.valid_shift hitems, hclosing⟩

theorem Item.valid_shift (item : Item) (h : item.Valid) : (item.shift n).Valid := by
  cases item with
  | plain term => exact term.valid_shift h
  | repeated term range =>
    obtain ⟨hterm, hrange⟩ := h
    exact ⟨term.valid_shift hterm, hrange.shift n⟩
  | separated term range marker separator =>
    obtain ⟨hterm, hrange, hmarker, hseparator⟩ := h
    exact ⟨term.valid_shift hterm, hrange.shift n, hmarker, separator.valid_shift hseparator⟩

theorem Items.valid_shift (items : Items) (h : items.Valid) : (items.shift n).Valid := by
  cases items with
  | nil => trivial
  | cons item items =>
    obtain ⟨hitem, hitems⟩ := h
    exact ⟨item.valid_shift hitem, items.valid_shift hitems⟩

end

mutual

theorem Term.rule_shift (term : Term) : (term.shift n).rule = term.rule.shift n := by
  cases term with
  | leaf t kind => rw [Term.shift, Term.rule, Term.rule, Rule.shift_plain, Token.span_shift]
  | group opening items closing =>
    rw [Term.shift, Term.rule, Term.rule, Rule.shift_plain, RuleKind.shift, items.rules_shift,
      Rule.listShift_eq_map]
    rfl

theorem Item.rule_shift (item : Item) : (item.shift n).rule = item.rule.shift n := by
  cases item with
  | plain term => rw [Item.shift, Item.rule, Item.rule, term.rule_shift]
  | repeated term range =>
    rw [Item.shift, Item.rule, Item.rule, Rule.shift_repeated, term.rule_shift,
      Separator.optionShift]
    rfl
  | separated term range marker separator =>
    rw [Item.shift, Item.rule, Item.rule, Rule.shift_repeated, term.rule_shift,
      Separator.optionShift, separator.rule_shift, separator.stop_shift]
    rfl

theorem Items.rules_shift (items : Items) :
    (items.shift n).rules = items.rules.map (Rule.shift n) := by
  cases items with
  | nil => rw [Items.shift, Items.rules, List.map_nil]
  | cons item items =>
    rw [Items.shift, Items.rules, Items.rules, List.map_cons, item.rule_shift, items.rules_shift]

end

theorem Items.alternative_shift (items : Items) (anchor : Nat) :
    (items.shift n).alternative (anchor + n) = (items.alternative anchor).shift n := by
  rw [Items.alternative, Items.alternative, Rule.shift_plain, RuleKind.shift, items.rules_shift,
    Rule.listShift_eq_map, Parse.alternativeSpan_shift]

theorem Definition.tokens_shift (definition : Definition) :
    (definition.shift n).tokens = definition.tokens.map (Token.shift n) := by
  simp [Definition.tokens, Definition.shift, othersTokens, Items.tokens_shift, List.flatMap_map,
    List.map_flatMap]

theorem Definition.valid_shift {definition : Definition} (h : definition.Valid) :
    (definition.shift n).Valid where
  name_kind := h.name_kind
  name_plain := h.name_plain
  colon_kind := h.colon_kind
  first := definition.first.valid_shift n h.first
  others := by
    intro _ hmem
    obtain ⟨other, hother, rfl⟩ := List.mem_map.mp hmem
    obtain ⟨hpipe, hitems⟩ := h.others other hother
    exact ⟨hpipe, other.2.valid_shift n hitems⟩

theorem Definition.fits_shift {levels : Nat} {definition : Definition}
    (h : definition.Fits levels) : (definition.shift n).Fits levels where
  first := by
    rw [Definition.shift, Items.depth_shift]
    exact h.first
  others := by
    intro _ hmem
    obtain ⟨other, hother, rfl⟩ := List.mem_map.mp hmem
    rw [Items.depth_shift]
    exact h.others other hother

theorem Definition.ruleDef_shift (definition : Definition) :
    (definition.shift n).ruleDef = definition.ruleDef.shift n := by
  have hothers : othersAlternatives (definition.shift n).others =
      (othersAlternatives definition.others).map (Rule.shift n) := by
    simp [othersAlternatives, Definition.shift, ← Items.alternative_shift]
  have halternatives : (definition.shift n).first.alternative
      (definition.shift n).colon.span.stop :: othersAlternatives (definition.shift n).others =
        (definition.first.alternative definition.colon.span.stop ::
          othersAlternatives definition.others).map (Rule.shift n) := by
    rw [hothers, List.map_cons, ← Items.alternative_shift]
    rfl
  simp only [Definition.ruleDef, RuleDef.shift, halternatives]
  have hstop := Parse.definitionStop_shift n definition.colon.span.stop
    (definition.first.alternative definition.colon.span.stop ::
      othersAlternatives definition.others)
  rw [show (definition.shift n).colon.span.stop = definition.colon.span.stop + n from rfl, hstop]
  rfl

theorem definitionsTokens_shift (definitions : List Definition) :
    definitionsTokens (definitions.map (Definition.shift n)) =
      (definitionsTokens definitions).map (Token.shift n) := by
  simp [definitionsTokens, List.flatMap_map, List.map_flatMap, Definition.tokens_shift]

end Trees

end Derivation

/-! ## The length of a declaration -/

section Words

variable {cs : List Char} {t u : Token}

theorem Token.StandsIn.stop_eq (h : t.StandsIn cs) :
    t.span.stop = t.span.start + Text.byteCount t.text.toList := by
  obtain ⟨before, after, -, hbetween⟩ := h
  rw [hbetween.span_eq]

/-- A word that stands directly behind another begins with a modifier: otherwise the two would be
one. -/
theorem Token.StandsIn.isModifier_of_touches (ht : t.StandsIn cs) (hu : u.StandsIn cs)
    (hkind : t.kind = .word) (hkind' : u.kind = .word) (htouch : u.span.start = t.span.stop) :
    ∃ c ∈ u.text.toList.head?, Text.isModifier c := by
  have hword := hu.mem_ofKind
  rw [hkind'] at hword
  obtain ⟨before, after, rfl, hbetween⟩ := ht
  obtain ⟨before', after', hcut, hbetween'⟩ := hu
  have hends := hbetween.ends
  have hoffset : Text.byteCount before' = Text.byteCount (before ++ t.text.toList) := by
    rw [hbetween.span_eq, hbetween'.span_eq] at htouch
    rw [Text.byteCount_append]
    exact htouch
  -- so the second word begins what follows the first
  have hafter := congrArg (Text.dropBytes (Text.byteCount before')) hcut
  rw [List.append_assoc before', Text.dropBytes_byteCount_append, hoffset,
    Text.dropBytes_byteCount_append] at hafter
  cases htext : u.text.toList with
  | nil =>
    rw [htext] at hword
    exact absurd hword (Pattern.nil_notMem_ofKind .word)
  | cons c w =>
    rw [htext] at hword hafter
    rw [hkind, hafter] at hends
    rcases Pattern.isModifier_or_isIdentRest_of_mem hword List.mem_cons_self with hc | hc
    · exact ⟨c, rfl, hc⟩
    · exact absurd hc (hends c rfl)

/-- A word that begins with a modifier has another character. -/
theorem Pattern.two_le_length_of_modifier {c : Char} {w : List Char} (h : c :: w ∈ ofKind .word)
    (hc : Text.isModifier c) : 2 ≤ (c :: w).length := by
  obtain ⟨modifiers, d, name, -, hd, -, heq⟩ := mem_word.mp h
  cases modifiers with
  | nil =>
    cases heq
    exact absurd hc (not_isModifier_of_isIdentStart hd)
  | cons m modifiers =>
    rw [heq, List.length_append, List.length_cons, List.length_cons]
    omega

/-- A word that follows another ends at least two bytes later. -/
theorem Token.StandsIn.add_two_le (ht : t.StandsIn cs) (hu : u.StandsIn cs)
    (hkind : t.kind = .word) (hkind' : u.kind = .word) (hle : t.span.stop ≤ u.span.start) :
    t.span.stop + 2 ≤ u.span.stop := by
  have hstop := hu.stop_eq
  have hlength := Text.length_le_byteCount u.text.toList
  have hword := hu.mem_ofKind
  rw [hkind'] at hword
  rcases Nat.lt_or_eq_of_le hle with hlt | htouch
  · have hlt' := hu.start_lt_stop
    omega
  · obtain ⟨c, hc, hmodifier⟩ := ht.isModifier_of_touches hu hkind hkind' htouch.symm
    obtain ⟨w, htext⟩ := List.head?_eq_some_iff.mp hc
    rw [htext] at hword hlength
    have htwo := Pattern.two_le_length_of_modifier hword hmodifier
    rw [htext] at hstop
    omega

end Words

/-- **A declaration has at least fifteen bytes**: those of its two keywords, a blank between them, a
name that is parted from them, and a semicolon. -/
theorem Derivation.Document.fifteen_le {text : String} {document : Document}
    (hvalid : document.Valid) (hscan : Token.scan text = .ok document.tokens) :
    15 ≤ Text.byteCount text.toList := by
  have hstands := Token.standsIn_of_scan hscan
  obtain ⟨mid, ⟨-, -, hgrammar, -, hfirst, -, hsegments⟩, hsemicolon, hlt, hrest⟩ :=
    Token.InRow.append_iff.mp (Token.inRow_of_scan hscan)
  have hunit := hstands document.unitWord (by simp [Document.tokens])
  have hgrammar' := hstands document.grammarWord (by simp [Document.tokens])
  have hfirst' := hstands document.first (by simp [Document.tokens])
  have hunitStop := hunit.stop_eq
  have hgrammarStop := hgrammar'.stop_eq
  rw [hvalid.unitWord.2] at hunitStop
  rw [hvalid.grammarWord.2] at hgrammarStop
  have hunitBytes : Text.byteCount "unit".toList = 4 := by decide
  have hgrammarBytes : Text.byteCount "grammar".toList = 7 := by decide
  -- the keywords do not touch, since the second has no modifiers
  have hne : document.grammarWord.span.start ≠ document.unitWord.span.stop := by
    intro htouch
    obtain ⟨c, hc, hmodifier⟩ := hunit.isModifier_of_touches hgrammar' hvalid.unitWord.1
      hvalid.grammarWord.1 htouch
    rw [hvalid.grammarWord.2] at hc
    cases hc
    exact absurd hmodifier (by decide)
  have hname := hgrammar'.add_two_le hfirst' hvalid.grammarWord.1 hvalid.first hfirst
  have hmid := hsegments.le
  have hstop := hrest.le
  omega

/-! ## Definitions behind a text -/

/-- The name of a document is the same if the text goes on. -/
theorem Derivation.Document.name_append {text more : String} {document document' : Document}
    (hscan : Token.scan text = .ok document.tokens)
    (hscan' : Token.scan (text ++ more) = .ok document'.tokens)
    (hfirst : document'.first = document.first)
    (hsegments : document'.segments = document.segments) :
    (document'.grammar (text ++ more)).name = (document.grammar text).name := by
  have hname := Document.slice?_name hscan
  have hname' := Document.slice?_name hscan'
  obtain ⟨before, after, hcut, hspan⟩ := Text.slice?_eq_some_iff.mp hname
  have hlonger : Text.slice? (text ++ more).toList
      ⟨document.first.span.start, segmentsStop document.first.span.stop document.segments⟩ =
        some (document.grammar text).name.toList := by
    refine Text.slice?_eq_some_iff.mpr ⟨before, after ++ more.toList, ?_, hspan⟩
    rw [String.toList_append, hcut, List.append_assoc]
  rw [hfirst, hsegments, hlonger] at hname'
  exact (String.ext (Option.some.inj hname')).symm

/-- Behind a declaration on a line of its own, the tokens of a document are those of its
definitions. -/
theorem Derivation.Document.scanFrom_definitions {more : String} {document : Document}
    (hvalid : document.Valid)
    (hscan : Token.scan ("unit grammar G;" ++ "\n" ++ more) = .ok document.tokens) :
    scanFrom 16 more.toList = .ok (definitionsTokens document.definitions) := by
  have hdeclaration : Token.scan "unit grammar G;" =
      .ok [⟨.word, ⟨0, 4⟩, "unit"⟩, ⟨.word, ⟨5, 12⟩, "grammar"⟩, ⟨.word, ⟨13, 14⟩, "G"⟩,
        ⟨.semicolon, ⟨14, 15⟩, ";"⟩] := by
    decide +kernel
  obtain ⟨earlier, later, hearlier, hlater, htokens⟩ := Token.scan_lines_eq_ok_iff.mp hscan
  rw [hdeclaration] at hearlier
  obtain rfl := Except.ok.inj hearlier
  have hbody := Document.body_tokens hvalid
  rw [htokens] at hbody
  have hlater' : later = definitionsTokens document.definitions := hbody
  rw [← hlater']
  exact hlater

/-- Where definitions are read on further lines of a document, they are added to its grammar. -/
theorem Derivation.Document.parse_append {text more : String} {document : Document}
    {definitions : List Definition} (hvalid : document.Valid)
    (hfits : ∀ definition ∈ document.definitions, definition.Fits 64)
    (hscan : Token.scan text = .ok document.tokens)
    (hvalid' : ∀ definition ∈ definitions, definition.Valid)
    (hfits' : ∀ definition ∈ definitions, definition.Fits 64)
    (hlater : scanFrom (Text.byteCount text.toList + 1) more.toList =
      .ok (definitionsTokens definitions)) :
    ∃ joined, Grammar.parse (text ++ "\n" ++ more) = .ok joined ∧
      joined.name = (document.grammar text).name ∧
      joined.rules = (document.grammar text).rules ++ definitions.map Definition.ruleDef := by
  set whole : Document := { document with definitions := document.definitions ++ definitions }
  have hvalidWhole : whole.Valid :=
    { hvalid with definitions := List.forall_mem_append.mpr ⟨hvalid.definitions, hvalid'⟩ }
  have hfitsWhole : ∀ definition ∈ whole.definitions, definition.Fits 64 :=
    List.forall_mem_append.mpr ⟨hfits, hfits'⟩
  have htokens : whole.tokens = document.tokens ++ definitionsTokens definitions := by
    simp [whole, Document.tokens, definitionsTokens]
  have hscanWhole : Token.scan (text ++ "\n" ++ more) = .ok whole.tokens :=
    Token.scan_lines_eq_ok_iff.mpr ⟨_, _, hscan, hlater, htokens⟩
  refine ⟨whole.grammar (text ++ "\n" ++ more),
    Grammar.parse_eq_ok_iff.mpr ⟨whole, hvalidWhole, hfitsWhole, hscanWhole, rfl⟩, ?_, ?_⟩
  · rw [String.append_assoc] at hscanWhole ⊢
    exact Document.name_append hscan hscanWhole rfl rfl
  · simp [whole, Document.grammar]

/-- **Definitions are parsed independently of what comes before and after them.** Where the
definitions of a text can be parsed behind a declaration of their own, they can be parsed on further
lines of any grammar. The grammar then has the rules it had before, as they were, and after them
those of the other text, moved by the difference between the two places where that text stands. -/
theorem Grammar.parse_continued {text more : String} {first second : Grammar}
    (hfirst : Grammar.parse text = .ok first)
    (hsecond : Grammar.parse ("unit grammar G;\n" ++ more) = .ok second) :
    ∃ n joined,
      Text.byteCount (text ++ "\n").toList = Text.byteCount "unit grammar G;\n".toList + n ∧
      Grammar.parse (text ++ "\n" ++ more) = .ok joined ∧ joined.name = first.name ∧
      joined.rules = first.rules ++ second.rules.map (RuleDef.shift n) := by
  obtain ⟨document, hvalid, hfits, hscan, rfl⟩ := Grammar.parse_eq_ok_iff.mp hfirst
  obtain ⟨document', hvalid', hfits', hscan', rfl⟩ := Grammar.parse_eq_ok_iff.mp hsecond
  have hlength := Document.fifteen_le hvalid hscan
  have hdeclaration : Text.byteCount "unit grammar G;\n".toList = 16 := by decide
  have hcount : Text.byteCount (text ++ "\n").toList = Text.byteCount text.toList + 1 := by
    rw [String.toList_append, Text.byteCount_append]
    rfl
  obtain ⟨n, hn⟩ : ∃ n, Text.byteCount text.toList + 1 = 16 + n :=
    Nat.exists_eq_add_of_le (Nat.succ_le_succ hlength)
  -- the definitions of the second text, moved to where it stands behind the first
  set moved := document'.definitions.map (Definition.shift n) with hmoved
  have hvalidMoved : ∀ definition ∈ moved, definition.Valid := by
    rw [hmoved, List.forall_mem_map]
    exact fun definition hmem => Definition.valid_shift n (hvalid'.definitions definition hmem)
  have hfitsMoved : ∀ definition ∈ moved, definition.Fits 64 := by
    rw [hmoved, List.forall_mem_map]
    exact fun definition hmem => Definition.fits_shift n (hfits' definition hmem)
  have hlater : scanFrom (Text.byteCount text.toList + 1) more.toList =
      .ok (definitionsTokens moved) := by
    have hread := scanFrom_eq_ok_iff.mp (Document.scanFrom_definitions hvalid' hscan')
    rw [hn, hmoved, definitionsTokens_shift]
    exact (hread.shift n).scanFrom_eq
  obtain ⟨joined, hparse, hname, hrules⟩ :=
    Document.parse_append hvalid hfits hscan hvalidMoved hfitsMoved hlater
  refine ⟨n, joined, by rw [hcount, hdeclaration, hn], hparse, hname, ?_⟩
  rw [hrules, hmoved, List.map_map, Document.grammar, Document.grammar, List.map_map]
  congr 2
  exact funext fun definition => definition.ruleDef_shift n

/-- A text that ends in an empty alternative, and a definition with a group, a repetition and a
separator that comes to stand seven bytes further on. -/
theorem Grammar.parse_continued_after_alternative :
    ∃ first second joined,
      Grammar.parse "unit grammar A;\na: b |" = .ok first ∧
      Grammar.parse ("unit grammar G;\n" ++ "b: [c](s) % 'x'") = .ok second ∧
      Grammar.parse ("unit grammar A;\na: b |" ++ "\n" ++ "b: [c](s) % 'x'") = .ok joined ∧
      joined.name = "A" ∧ joined.rules = first.rules ++ second.rules.map (RuleDef.shift 7) := by
  have hfirst : (Grammar.parse "unit grammar A;\na: b |").map Grammar.name = .ok "A" := by
    decide +kernel
  have hsecond : (Grammar.parse ("unit grammar G;\n" ++ "b: [c](s) % 'x'")).map Grammar.name =
      .ok "G" := by decide +kernel
  obtain ⟨first, hfirst, hname⟩ := Parse.exists_of_map_eq_ok hfirst
  obtain ⟨second, hsecond, _⟩ := Parse.exists_of_map_eq_ok hsecond
  obtain ⟨n, joined, hn, hjoined, hname', hrules⟩ := Grammar.parse_continued hfirst hsecond
  have hn' : n = 7 := by
    have hlong : Text.byteCount ("unit grammar A;\na: b |" ++ "\n").toList = 23 := by decide +kernel
    have hshort : Text.byteCount "unit grammar G;\n".toList = 16 := by decide +kernel
    omega
  rw [hn'] at hrules
  exact ⟨first, second, joined, hfirst, hsecond, hjoined, hname'.trans hname, hrules⟩

end FanServer
