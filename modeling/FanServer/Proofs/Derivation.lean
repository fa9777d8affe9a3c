import FanServer.Grammar.Parse
import Mathlib.Data.List.Basic
import Mathlib.Tactic.MkIffOfInductiveProp

/-!
# Derivations of grammar documents

The grammar that documents are written in, as the trees of its derivations:

    document    := 'unit' 'grammar' word ('::' word)* ';' definition*
    definition  := word ':' items ('|' items)*
    items       := item*
    item        := term (range (('%%' | '%') term)?)?
    term        := '+' | '-' | word | string | regex | '[' items ']'

A tree has one constructor for each production and keeps the tokens it was derived from, so that
the rest can be read off it:

* `tokens` — the tokens that are derived, in order;
* `Valid` — each token is of the kind that stands in the production, the name of a rule has no
  modifiers, and a range begins where the term it repeats ends;
* `depth` — how many groups are inside each other, those in separators included;
* `Document.grammar` — the model of the document.

**A tree derives tokens** (`Document.Derives`) if it is valid, the tokens are its own, and at no
point more than 64 groups are open. How many are open can be told from the tokens alone
(`NestsWithin`), and it comes to the same as the depth of the tree (`Document.nestsWithin_tokens`).
-/

namespace FanServer.Derivation

/-! ## Trees -/

/-- A token that is a term by itself, and the element that it stands for. -/
inductive Leaf (t : Token) : RuleKind → Prop where
  /-- `+` -/
  | plus : t.kind = .plus → Leaf t (.marker .significant)
  /-- `-` -/
  | minus : t.kind = .minus → Leaf t (.marker .insignificant)
  /-- a word: the modifiers at its beginning, and the name after them -/
  | word : t.kind = .word →
      Leaf t (.reference (String.ofList (t.text.toList.dropWhile Text.isModifier))
        (String.ofList (t.text.toList.takeWhile Text.isModifier)))
  /-- a text in quotes -/
  | string : t.kind = .stringLiteral →
      Leaf t (.literal .string (String.ofList (Parse.inside t.text)))
  /-- a pattern between slashes -/
  | regex : t.kind = .regexLiteral →
      Leaf t (.literal .regex (String.ofList (Parse.inside t.text)))

mutual

/-- A derivation from `term`. -/
inductive Term where
  /-- a token that is a term by itself -/
  | leaf (t : Token) (kind : RuleKind)
  /-- `'[' items ']'` -/
  | group (opening : Token) (items : Items) (closing : Token)

/-- A derivation from `item`. -/
inductive Item where
  /-- `term` -/
  | plain (term : Term)
  /-- `term range` -/
  | repeated (term : Term) (range : Token)
  /-- `term range ('%%' | '%') term` -/
  | separated (term : Term) (range marker : Token) (separator : Term)

/-- A derivation from `items`. -/
inductive Items where
  /-- no item -/
  | nil
  /-- an item and those after it -/
  | cons (item : Item) (items : Items)

end

/-- A derivation from `definition`. -/
structure Definition where
  /-- the name of the rule -/
  name : Token
  /-- the `:` -/
  colon : Token
  /-- the first alternative -/
  first : Items
  /-- the other alternatives, each after its `|` -/
  others : List (Token × Items)

/-- A derivation from `document`. -/
structure Document where
  /-- the word `unit` -/
  unitWord : Token
  /-- the word `grammar` -/
  grammarWord : Token
  /-- the first word of the name -/
  first : Token
  /-- the other words of the name, each after its `::` -/
  segments : List (Token × Token)
  /-- the `;` -/
  semicolon : Token
  /-- the definitions -/
  definitions : List Definition

/-! ## The tokens that are derived -/

mutual

/-- The tokens of a term. -/
def Term.tokens : Term → List Token
  | .leaf t _ => [t]
  | .group opening items closing => opening :: items.tokens ++ [closing]

/-- The tokens of an item. -/
def Item.tokens : Item → List Token
  | .plain term => term.tokens
  | .repeated term range => term.tokens ++ [range]
  | .separated term range marker separator => term.tokens ++ range :: marker :: separator.tokens

/-- The tokens of items. -/
def Items.tokens : Items → List Token
  | .nil => []
  | .cons item items => item.tokens ++ items.tokens

end

theorem Term.length_tokens_pos (term : Term) : 0 < term.tokens.length := by
  cases term with
  | leaf t kind => exact Nat.one_pos
  | group opening items closing => exact Nat.succ_pos _

theorem Item.length_tokens_pos (item : Item) : 0 < item.tokens.length := by
  cases item with
  | plain term => exact term.length_tokens_pos
  | repeated term range =>
    rw [Item.tokens, List.length_append]
    exact Nat.add_pos_left term.length_tokens_pos _
  | separated term range marker separator =>
    rw [Item.tokens, List.length_append]
    exact Nat.add_pos_left term.length_tokens_pos _

/-- The tokens of alternatives, each after its `|`. -/
def othersTokens (others : List (Token × Items)) : List Token :=
  others.flatMap fun (pipe, items) => pipe :: items.tokens

@[simp]
theorem othersTokens_nil : othersTokens [] = [] := rfl

@[simp]
theorem othersTokens_cons (pipe : Token) (items : Items) (others : List (Token × Items)) :
    othersTokens ((pipe, items) :: others) = pipe :: (items.tokens ++ othersTokens others) := rfl

/-- The tokens of a definition. -/
def Definition.tokens (definition : Definition) : List Token :=
  definition.name :: definition.colon :: definition.first.tokens ++ othersTokens definition.others

theorem Definition.length_tokens_pos (definition : Definition) : 0 < definition.tokens.length :=
  Nat.succ_pos _

/-- The tokens of definitions. -/
def definitionsTokens (definitions : List Definition) : List Token :=
  definitions.flatMap Definition.tokens

@[simp]
theorem definitionsTokens_nil : definitionsTokens [] = [] := rfl

@[simp]
theorem definitionsTokens_cons (definition : Definition) (definitions : List Definition) :
    definitionsTokens (definition :: definitions) =
      definition.tokens ++ definitionsTokens definitions := rfl

/-- The tokens of the words of a name, each after its `::`. -/
def segmentsTokens (segments : List (Token × Token)) : List Token :=
  segments.flatMap fun (colons, word) => [colons, word]

@[simp]
theorem segmentsTokens_nil : segmentsTokens [] = [] := rfl

@[simp]
theorem segmentsTokens_cons (colons word : Token) (segments : List (Token × Token)) :
    segmentsTokens ((colons, word) :: segments) = colons :: word :: segmentsTokens segments := rfl

/-- The tokens of a document. -/
def Document.tokens (document : Document) : List Token :=
  document.unitWord :: document.grammarWord :: document.first ::
    segmentsTokens document.segments ++
      document.semicolon :: definitionsTokens document.definitions

/-! ## Valid trees -/

/-- Where a term ends: with its last token. -/
def Term.stop : Term → Nat
  | .leaf t _ => t.span.stop
  | .group _ _ closing => closing.span.stop

/-- The token repeats the term before it, which ends at `stop`: it is a range that begins there. -/
def IsRange (range : Token) (stop : Nat) : Prop :=
  range.kind = .quantifier ∧ range.span.start = stop

/-- The token introduces a separator. -/
def IsMarker (marker : Token) : Prop :=
  marker.kind = .percent ∨ marker.kind = .doublePercent

mutual

/-- The tokens of a term are of the right kinds. -/
def Term.Valid : Term → Prop
  | .leaf t kind => Leaf t kind
  | .group opening items closing =>
    opening.kind = .openBracket ∧ items.Valid ∧ closing.kind = .closeBracket

/-- The tokens of an item are of the right kinds, and its range begins where its term ends. -/
def Item.Valid : Item → Prop
  | .plain term => term.Valid
  | .repeated term range => term.Valid ∧ IsRange range term.stop
  | .separated term range marker separator =>
    term.Valid ∧ IsRange range term.stop ∧ IsMarker marker ∧ separator.Valid

/-- All items are valid. -/
def Items.Valid : Items → Prop
  | .nil => True
  | .cons item items => item.Valid ∧ items.Valid

end

mutual

/-- How many groups are inside each other in a term. -/
def Term.depth : Term → Nat
  | .leaf _ _ => 0
  | .group _ items _ => items.depth + 1

/-- How many groups are inside each other in an item, its separator included. -/
def Item.depth : Item → Nat
  | .plain term => term.depth
  | .repeated term _ => term.depth
  | .separated term _ _ separator => max term.depth separator.depth

/-- How many groups are inside each other in items. -/
def Items.depth : Items → Nat
  | .nil => 0
  | .cons item items => max item.depth items.depth

end

/-- The tokens of a definition are of the right kinds, and the name has no modifiers. -/
structure Definition.Valid (definition : Definition) : Prop where
  /-- the name is a word -/
  name_kind : definition.name.kind = .word
  /-- it does not begin with a modifier -/
  name_plain : ¬ definition.name.text.toList.head?.any Text.isModifier
  /-- a colon follows it -/
  colon_kind : definition.colon.kind = .colon
  /-- the first alternative is valid -/
  first : definition.first.Valid
  /-- each other alternative follows a `|` and is valid -/
  others : ∀ other ∈ definition.others, other.1.kind = .pipe ∧ other.2.Valid

/-- No more than `levels` groups are inside each other in a definition. -/
@[mk_iff]
structure Definition.Fits (levels : Nat) (definition : Definition) : Prop where
  /-- in the first alternative -/
  first : definition.first.depth ≤ levels
  /-- in the others -/
  others : ∀ other ∈ definition.others, other.2.depth ≤ levels

/-- The tokens of a document are of the right kinds. -/
structure Document.Valid (document : Document) : Prop where
  /-- it begins with the word `unit` -/
  unitWord : document.unitWord.kind = .word ∧ document.unitWord.text = "unit"
  /-- the word `grammar` follows -/
  grammarWord : document.grammarWord.kind = .word ∧ document.grammarWord.text = "grammar"
  /-- the name is made of words -/
  first : document.first.kind = .word
  /-- with `::` between them -/
  segments : ∀ segment ∈ document.segments,
    segment.1.kind = .doubleColon ∧ segment.2.kind = .word
  /-- a semicolon ends the declaration -/
  semicolon : document.semicolon.kind = .semicolon
  /-- all definitions are valid -/
  definitions : ∀ definition ∈ document.definitions, definition.Valid

/-! ## The model of a tree -/

mutual

/-- The element that a term stands for. -/
def Term.rule : Term → Rule
  | .leaf t kind => .plain kind t.span
  | .group opening items closing =>
    .plain (.sequence items.rules) ⟨opening.span.start, closing.span.stop⟩

/-- The element that an item stands for, with its repetition. -/
def Item.rule : Item → Rule
  | .plain term => term.rule
  | .repeated term range =>
    term.rule.repeated
      ⟨range.span, String.ofList (Text.trimBlank (Parse.inside range.text)), none⟩
  | .separated term range marker separator =>
    term.rule.repeated
      ⟨⟨range.span.start, separator.stop⟩,
        String.ofList (Text.trimBlank (Parse.inside range.text)),
        some ⟨⟨marker.span.start, separator.stop⟩, marker.text, separator.rule⟩⟩

/-- The elements that items stand for. -/
def Items.rules : Items → List Rule
  | .nil => []
  | .cons item items => item.rule :: items.rules

end

/-- The sequence that an alternative stands for, which is introduced by a sign ending at
`anchor`. -/
def Items.alternative (anchor : Nat) (items : Items) : Rule :=
  .plain (.sequence items.rules) (Parse.alternativeSpan anchor items.rules)

/-- The sequences that alternatives stand for, each after its `|`. -/
def othersAlternatives (others : List (Token × Items)) : List Rule :=
  others.map fun (pipe, items) => items.alternative pipe.span.stop

/-- The definition that a tree stands for. -/
def Definition.ruleDef (definition : Definition) : RuleDef :=
  let alternatives := definition.first.alternative definition.colon.span.stop ::
    othersAlternatives definition.others
  ⟨⟨definition.name.text, definition.name.span⟩,
    ⟨definition.name.span.start,
      Parse.definitionStop definition.colon.span.stop alternatives⟩,
    alternatives⟩

/-- Where the words of a name end, the first of which ends at `stop`. -/
def segmentsStop (stop : Nat) (segments : List (Token × Token)) : Nat :=
  (segments.getLast?.map fun segment => segment.2.span.stop).getD stop

theorem segmentsStop_cons (stop : Nat) (colons word : Token) (segments : List (Token × Token)) :
    segmentsStop stop ((colons, word) :: segments) = segmentsStop word.span.stop segments := by
  rw [segmentsStop, List.getLast?_cons, Option.map_some, Option.getD_some]
  exact (Option.getD_map (fun segment : Token × Token => segment.2.span.stop) _ _).symm

/-- The grammar that a tree stands for, in the text that its tokens come from. -/
def Document.grammar (text : String) (document : Document) : Grammar :=
  ⟨String.ofList (Text.slice text.toList
      ⟨document.first.span.start, segmentsStop document.first.span.stop document.segments⟩),
    ⟨0, Text.byteCount text.toList⟩, document.definitions.map Definition.ruleDef⟩

/-! ## Open groups -/

/-- How many groups the tokens open. -/
def opened (ts : List Token) : Nat :=
  ts.countP fun t => t.kind = .openBracket

/-- How many groups the tokens close. -/
def closed (ts : List Token) : Nat :=
  ts.countP fun t => t.kind = .closeBracket

/-- At no point of the tokens more than `levels` groups are open. -/
def NestsWithin (levels : Nat) (ts : List Token) : Prop :=
  ∀ before, before <+: ts → opened before ≤ closed before + levels

/-- **The tree derives the tokens**: they are its own and of the right kinds, and at no point more
than 64 groups are open. -/
structure Document.Derives (document : Document) (tokens : List Token) : Prop where
  /-- the tokens are those of the tree -/
  tokens_eq : document.tokens = tokens
  /-- they are of the right kinds -/
  valid : document.Valid
  /-- groups do not nest too deep -/
  nestsWithin : NestsWithin 64 tokens

section NestsWithin

variable {levels : Nat} {t : Token} {ts : List Token}

theorem nestsWithin_nil : NestsWithin levels [] := by
  intro before hbefore
  rw [List.prefix_nil.mp hbefore]
  exact Nat.zero_le _

/-- What holds at each point of the tokens holds at the beginning and at each point after the first
token. -/
theorem nestsWithin_cons :
    NestsWithin levels (t :: ts) ↔
      ∀ before, before <+: ts → opened (t :: before) ≤ closed (t :: before) + levels := by
  refine ⟨?_, ?_⟩
  · intro h before hbefore
    exact h _ (List.cons_prefix_cons.mpr ⟨rfl, hbefore⟩)
  · intro h before hbefore
    rcases List.prefix_cons_iff.mp hbefore with rfl | ⟨others, rfl, hothers⟩
    · exact Nat.zero_le _
    · exact h others hothers

/-- The token neither opens nor closes a group. -/
def NoBracket (t : Token) : Prop :=
  t.kind ≠ .openBracket ∧ t.kind ≠ .closeBracket

theorem nestsWithin_other (h : NoBracket t) :
    NestsWithin levels (t :: ts) ↔ NestsWithin levels ts := by
  have hopened : ∀ before, opened (t :: before) = opened before :=
    fun before => List.countP_cons_of_neg (by simpa using h.1)
  have hclosed : ∀ before, closed (t :: before) = closed before :=
    fun before => List.countP_cons_of_neg (by simpa using h.2)
  simp only [nestsWithin_cons, hopened, hclosed]
  rfl

/-- A group that opens takes one of the levels. -/
theorem nestsWithin_open (hopen : t.kind = .openBracket) :
    NestsWithin levels (t :: ts) ↔ ∃ inner, levels = inner + 1 ∧ NestsWithin inner ts := by
  have hopened : ∀ before, opened (t :: before) = opened before + 1 :=
    fun before => List.countP_cons_of_pos (by simpa using hopen)
  have hclosed : ∀ before, closed (t :: before) = closed before :=
    fun before => List.countP_cons_of_neg (by simp [hopen])
  simp only [nestsWithin_cons, hopened, hclosed]
  refine ⟨?_, ?_⟩
  · intro h
    -- the bracket alone is a beginning of the tokens
    have hfirst : 1 ≤ levels := by simpa [opened, closed] using h [] List.nil_prefix
    obtain ⟨inner, rfl⟩ := Nat.exists_eq_add_of_le' hfirst
    exact ⟨inner, rfl, fun before hbefore => Nat.le_of_succ_le_succ (h before hbefore)⟩
  · rintro ⟨inner, rfl, h⟩ before hbefore
    exact Nat.succ_le_succ (h before hbefore)

/-- A group that closes gives it back. -/
theorem nestsWithin_close (hclose : t.kind = .closeBracket) :
    NestsWithin levels (t :: ts) ↔ NestsWithin (levels + 1) ts := by
  have hopened : ∀ before, opened (t :: before) = opened before :=
    fun before => List.countP_cons_of_neg (by simp [hclose])
  have hclosed : ∀ before, closed (t :: before) = closed before + 1 :=
    fun before => List.countP_cons_of_pos (by simpa using hclose)
  simp only [nestsWithin_cons, hopened, hclosed, Nat.add_right_comm _ 1 levels]
  rfl

end NestsWithin

theorem Leaf.noBracket {t : Token} {kind : RuleKind} (h : Leaf t kind) : NoBracket t := by
  cases h <;> simp_all [NoBracket]

theorem IsRange.noBracket {range : Token} {stop : Nat} (h : IsRange range stop) :
    NoBracket range := by
  simp [NoBracket, h.1]

theorem IsMarker.noBracket {marker : Token} (h : IsMarker marker) : NoBracket marker := by
  rcases h with h | h <;> simp [NoBracket, h]

/-! A tree closes the groups that it opens, so that what comes after it has all levels again. -/

mutual

theorem Term.nestsWithin_tokens (term : Term) (h : term.Valid) {levels : Nat} {rest : List Token} :
    NestsWithin levels (term.tokens ++ rest) ↔
      term.depth ≤ levels ∧ NestsWithin levels rest := by
  cases term with
  | leaf t kind =>
    have hleaf : Leaf t kind := h
    rw [Term.tokens, List.singleton_append, nestsWithin_other hleaf.noBracket, Term.depth,
      and_iff_right (Nat.zero_le levels)]
  | group opening items closing =>
    obtain ⟨hopening, hitems, hclosing⟩ := h
    rw [Term.tokens, List.cons_append, List.cons_append, List.append_assoc,
      nestsWithin_open hopening, Term.depth]
    simp only [items.nestsWithin_tokens hitems, List.singleton_append, nestsWithin_close hclosing]
    refine ⟨?_, ?_⟩
    · rintro ⟨inner, rfl, hdepth, hrest⟩
      exact ⟨Nat.succ_le_succ hdepth, hrest⟩
    · rintro ⟨hdepth, hrest⟩
      obtain ⟨inner, rfl⟩ := Nat.exists_eq_add_of_le' (Nat.le_of_add_left_le hdepth)
      exact ⟨inner, rfl, Nat.le_of_succ_le_succ hdepth, hrest⟩

theorem Item.nestsWithin_tokens (item : Item) (h : item.Valid) {levels : Nat} {rest : List Token} :
    NestsWithin levels (item.tokens ++ rest) ↔
      item.depth ≤ levels ∧ NestsWithin levels rest := by
  cases item with
  | plain term => exact term.nestsWithin_tokens h
  | repeated term range =>
    obtain ⟨hterm, hrange⟩ := h
    rw [Item.tokens, List.append_assoc, term.nestsWithin_tokens hterm, List.singleton_append,
      nestsWithin_other hrange.noBracket, Item.depth]
  | separated term range marker separator =>
    obtain ⟨hterm, hrange, hmarker, hseparator⟩ := h
    rw [Item.tokens, List.append_assoc, term.nestsWithin_tokens hterm, List.cons_append,
      List.cons_append, nestsWithin_other hrange.noBracket, nestsWithin_other hmarker.noBracket,
      separator.nestsWithin_tokens hseparator, Item.depth, Nat.max_le, and_assoc]

theorem Items.nestsWithin_tokens (items : Items) (h : items.Valid) {levels : Nat}
    {rest : List Token} :
    NestsWithin levels (items.tokens ++ rest) ↔
      items.depth ≤ levels ∧ NestsWithin levels rest := by
  cases items with
  | nil => rw [Items.tokens, List.nil_append, Items.depth, and_iff_right (Nat.zero_le levels)]
  | cons item items =>
    obtain ⟨hitem, hitems⟩ := h
    rw [Items.tokens, List.append_assoc, item.nestsWithin_tokens hitem,
      items.nestsWithin_tokens hitems, Items.depth, Nat.max_le, and_assoc]

end

theorem nestsWithin_othersTokens {others : List (Token × Items)} {levels : Nat}
    {rest : List Token} (h : ∀ other ∈ others, other.1.kind = .pipe ∧ other.2.Valid) :
    NestsWithin levels (othersTokens others ++ rest) ↔
      (∀ other ∈ others, other.2.depth ≤ levels) ∧ NestsWithin levels rest := by
  induction others with
  | nil => simp
  | cons other others ih =>
    obtain ⟨pipe, items⟩ := other
    obtain ⟨⟨hpipe, hitems⟩, hothers⟩ := List.forall_mem_cons.mp h
    have hbracket : NoBracket pipe := by simp_all [NoBracket]
    rw [othersTokens_cons, List.cons_append, nestsWithin_other hbracket, List.append_assoc,
      items.nestsWithin_tokens hitems, ih hothers, List.forall_mem_cons, and_assoc]

theorem nestsWithin_definitionsTokens {definitions : List Definition} {levels : Nat}
    (h : ∀ definition ∈ definitions, definition.Valid) :
    NestsWithin levels (definitionsTokens definitions) ↔
      ∀ definition ∈ definitions, definition.Fits levels := by
  induction definitions with
  | nil => simp [nestsWithin_nil]
  | cons definition definitions ih =>
    obtain ⟨hfirst, hothers⟩ := List.forall_mem_cons.mp h
    have hname : NoBracket definition.name := by simp [NoBracket, hfirst.name_kind]
    have hcolon : NoBracket definition.colon := by simp [NoBracket, hfirst.colon_kind]
    simp only [definitionsTokens_cons, Definition.tokens, List.cons_append, List.append_assoc]
    rw [nestsWithin_other hname, nestsWithin_other hcolon,
      definition.first.nestsWithin_tokens hfirst.first, nestsWithin_othersTokens hfirst.others,
      ih hothers, List.forall_mem_cons, ← and_assoc, Definition.fits_iff]

theorem nestsWithin_segmentsTokens {segments : List (Token × Token)} {levels : Nat}
    {rest : List Token}
    (h : ∀ segment ∈ segments, segment.1.kind = .doubleColon ∧ segment.2.kind = .word) :
    NestsWithin levels (segmentsTokens segments ++ rest) ↔ NestsWithin levels rest := by
  induction segments with
  | nil => rw [segmentsTokens_nil, List.nil_append]
  | cons segment segments ih =>
    obtain ⟨colons, word⟩ := segment
    obtain ⟨⟨hcolons, hword⟩, hsegments⟩ := List.forall_mem_cons.mp h
    have hcolons : NoBracket colons := by simp_all [NoBracket]
    have hword : NoBracket word := by simp_all [NoBracket]
    rw [segmentsTokens_cons, List.cons_append, List.cons_append, nestsWithin_other hcolons,
      nestsWithin_other hword, ih hsegments]

/-- At no point of a document more than `levels` groups are open exactly if in none of its
definitions more than that are inside each other. -/
theorem Document.nestsWithin_tokens {document : Document} {levels : Nat} (h : document.Valid) :
    NestsWithin levels document.tokens ↔
      ∀ definition ∈ document.definitions, definition.Fits levels := by
  have hunit : NoBracket document.unitWord := by simp [NoBracket, h.unitWord]
  have hgrammar : NoBracket document.grammarWord := by simp [NoBracket, h.grammarWord]
  have hfirst : NoBracket document.first := by simp [NoBracket, h.first]
  have hsemicolon : NoBracket document.semicolon := by simp [NoBracket, h.semicolon]
  rw [Document.tokens, List.cons_append, List.cons_append, List.cons_append,
    nestsWithin_other hunit, nestsWithin_other hgrammar, nestsWithin_other hfirst,
    nestsWithin_segmentsTokens h.segments, nestsWithin_other hsemicolon,
    nestsWithin_definitionsTokens h.definitions]

end FanServer.Derivation
