import FanServer.Proofs.Definition
import FanServer.Proofs.DeclarationTokens
import FanServer.Proofs.References

/-!
# References and the words of a text

Which rules are referred to, and where, can be told from the tokens of a text alone. Behind the `;`
of the declaration a word is **the name of a rule that is defined** if a colon comes directly behind
it, and otherwise **a reference** to the name that follows its modifiers.

* `Token.mentions` — the words that refer to a name, read off the tokens;
* `Rule.mentions` — where the references to a name begin that a walk through elements meets.

The two are compared tree by tree. A tree is taken together with the tokens behind it, because these
decide whether its last word is followed by a colon.

Main result: `Grammar.referencesOf_eq_mentions`.
-/

open FanServer.Derivation

namespace FanServer

/-! ## Words that refer to a name -/

namespace Token

/-- The tokens behind the first `;`. -/
def body (tokens : List Token) : List Token :=
  (tokens.dropWhile fun t => t.kind ≠ .semicolon).tail

/-- The token is a word that reads `name` behind the modifiers at its beginning. -/
def Names (name : String) (t : Token) : Prop :=
  t.kind = .word ∧ t.text.toList.dropWhile Text.isModifier = name.toList

instance (name : String) (t : Token) : Decidable (t.Names name) :=
  inferInstanceAs (Decidable (_ ∧ _))

/-- The tokens do not begin with a colon. -/
def NoColonFirst (tokens : List Token) : Prop :=
  tokens.head?.map Token.kind ≠ some .colon

instance (tokens : List Token) : Decidable (NoColonFirst tokens) :=
  inferInstanceAs (Decidable (_ ≠ _))

/-- The words that read `name` behind their modifiers and have no colon directly behind them. -/
def mentions (name : String) : List Token → List Token
  | [] => []
  | t :: rest =>
    if t.Names name ∧ NoColonFirst rest then t :: mentions name rest else mentions name rest

section Mentions

variable {name : String} {t : Token} {rest : List Token}

theorem noColonFirst_nil : NoColonFirst [] := by
  simp [NoColonFirst]

theorem noColonFirst_cons : NoColonFirst (t :: rest) ↔ t.kind ≠ .colon := by
  simp [NoColonFirst]

theorem mentions_of_ne_word (h : t.kind ≠ .word) :
    mentions name (t :: rest) = mentions name rest := by
  rw [mentions, if_neg]
  exact fun hnames => h hnames.1.1

/-- The name of a rule that is defined is no reference. -/
theorem mentions_of_colon (h : ¬ NoColonFirst rest) :
    mentions name (t :: rest) = mentions name rest := by
  rw [mentions, if_neg]
  exact fun hnames => h hnames.2

theorem mentions_sublist (name : String) (tokens : List Token) :
    (mentions name tokens).Sublist tokens := by
  induction tokens with
  | nil => exact .slnil
  | cons t rest ih =>
    rw [mentions]
    split_ifs with hnames
    · exact ih.cons_cons t
    · exact ih.cons t

theorem body_sublist (tokens : List Token) : (body tokens).Sublist tokens :=
  (List.tail_sublist _).trans (List.dropWhile_sublist _)

end Mentions

/-- Tokens that stand in a row begin one behind the other. -/
theorem InRow.pairwise_start {lo hi : Nat} {ts : List Token} (h : InRow lo hi ts) :
    (∀ t ∈ ts, lo ≤ t.span.start) ∧ ts.Pairwise fun t next => t.span.start < next.span.start := by
  induction ts generalizing lo with
  | nil => exact ⟨List.forall_mem_nil _, List.Pairwise.nil⟩
  | cons t ts ih =>
    obtain ⟨hlo, hlt, hrest⟩ := h
    obtain ⟨hbehind, hrow⟩ := ih hrest
    refine ⟨List.forall_mem_cons.mpr ⟨hlo, ?_⟩, List.pairwise_cons.mpr ⟨?_, hrow⟩⟩
    · intro next hnext
      exact (hlo.trans hlt.le).trans (hbehind next hnext)
    · intro next hnext
      exact hlt.trans_le (hbehind next hnext)

end Token

/-! ## References that a walk meets -/

namespace Rule

/-- Where the references to a name begin, among elements. -/
def mentions (name : String) (rules : List Rule) : List Nat :=
  (rules.filter fun rule => rule.target? == some name).map fun rule => rule.span.start

section Mentions

variable {name : String} {rule : Rule}

theorem mentions_nil : mentions name [] = [] := rfl

theorem mentions_append (rules others : List Rule) :
    mentions name (rules ++ others) = mentions name rules ++ mentions name others := by
  simp [mentions]

theorem mentions_cons_of_ne {rules : List Rule} (h : rule.target? ≠ some name) :
    mentions name (rule :: rules) = mentions name rules := by
  simp [mentions, h]

/-- An element that is repeated is met where it begins, and so is what is in it. What is in its
separator is met behind that. -/
theorem mentions_repeated {quantifier : Quantifier} (hnone : rule.quantifier = none)
    (hstart : (rule.repeated quantifier).span.start = rule.span.start) :
    mentions name (rule.repeated quantifier).walk =
      mentions name rule.walk ++ mentions name (walkQuantifier (some quantifier)) := by
  obtain ⟨kind, span, _⟩ := rule
  subst hnone
  have hself : mentions name [Rule.repeated ⟨kind, span, none⟩ quantifier] =
      mentions name [⟨kind, span, none⟩] := by
    have htarget : (Rule.repeated ⟨kind, span, none⟩ quantifier).target? =
        Rule.target? ⟨kind, span, none⟩ := rfl
    simp only [mentions, List.filter_cons, htarget]
    split_ifs
    · exact congrArg (· :: []) hstart
    · rfl
  have hwalk : (Rule.repeated ⟨kind, span, none⟩ quantifier).walk =
      [Rule.repeated ⟨kind, span, none⟩ quantifier] ++
        (walkKind kind ++ walkQuantifier (some quantifier)) := rfl
  have hwalk' : Rule.walk ⟨kind, span, none⟩ = [⟨kind, span, none⟩] ++ (walkKind kind ++ []) := rfl
  rw [hwalk, hwalk', mentions_append, mentions_append, mentions_append, hself, List.append_nil,
    List.append_assoc]

/-- A sequence refers to nothing itself. -/
theorem mentions_sequence (parts : List Rule) (span : Span) :
    mentions name (Rule.plain (.sequence parts) span).walk = mentions name (walkAll parts) := by
  have hwalk : (Rule.plain (.sequence parts) span).walk =
      Rule.plain (.sequence parts) span :: (walkAll parts ++ []) := rfl
  rw [hwalk, List.append_nil, mentions_cons_of_ne]
  simp [target?, Rule.plain]

end Mentions

end Rule

/-! ## Trees -/

namespace Derivation

open Token (NoColonFirst noColonFirst_nil noColonFirst_cons mentions_of_ne_word)

/-- Where the words begin that refer to a name. -/
def mentionStarts (name : String) (tokens : List Token) : List Nat :=
  (Token.mentions name tokens).map fun t => t.span.start

section Starts

variable {name : String} {t : Token} {rest : List Token} {lo hi : Nat}

theorem mentionStarts_of_ne_word (h : t.kind ≠ .word) :
    mentionStarts name (t :: rest) = mentionStarts name rest := by
  rw [mentionStarts, mentions_of_ne_word h, mentionStarts]

/-- A token that is a term by itself is a reference to a name exactly if it is a word that reads it
behind its modifiers. -/
theorem Leaf.mentions_eq {kind : RuleKind} (h : Leaf t kind) (hrest : NoColonFirst rest) :
    mentionStarts name (t :: rest) =
      Rule.mentions name (Rule.plain kind t.span).walk ++ mentionStarts name rest := by
  have hwalk : (Rule.plain kind t.span).walk = [Rule.plain kind t.span] := by
    cases h <;> rfl
  have htarget : (Rule.plain kind t.span).target? = some name ↔ t.Names name := by
    cases h with
    | word hkind =>
      simp only [Rule.plain, Rule.target?, Token.Names, hkind, true_and, Option.some.injEq]
      rw [String.ext_iff, String.toList_ofList]
    | plus hkind => simp [Rule.plain, Rule.target?, Token.Names, hkind]
    | minus hkind => simp [Rule.plain, Rule.target?, Token.Names, hkind]
    | string hkind => simp [Rule.plain, Rule.target?, Token.Names, hkind]
    | regex hkind => simp [Rule.plain, Rule.target?, Token.Names, hkind]
  rw [hwalk, Rule.mentions, mentionStarts, Token.mentions]
  simp only [hrest, and_true, List.filter_cons, beq_iff_eq, htarget]
  split_ifs with hnames
  · rfl
  · rfl

theorem noColonFirst_of_follows (h : Follows rest) : NoColonFirst rest := by
  cases rest with
  | nil => exact noColonFirst_nil
  | cons t rest => exact noColonFirst_cons.mpr (h t rfl).2.2

/-- No item begins with a colon. -/
theorem Items.noColonFirst {items : Items} (hvalid : items.Valid) (hrest : NoColonFirst rest) :
    NoColonFirst (items.tokens ++ rest) := by
  cases items with
  | nil => exact hrest
  | cons item items =>
    rw [Items.tokens, List.append_assoc]
    exact noColonFirst_of_follows (Item.follows hvalid.1)

end Starts

mutual

/-- **The words of a term that refer to a name** stand where the walk through its element meets
references to the name. -/
theorem Term.mentions_eq {name : String} {lo hi : Nat} {rest : List Token} (term : Term)
    (hvalid : term.Valid) (hrow : Token.InRow lo hi term.tokens) (hrest : NoColonFirst rest) :
    mentionStarts name (term.tokens ++ rest) =
      Rule.mentions name term.rule.walk ++ mentionStarts name rest := by
  cases term with
  | leaf t kind => exact Leaf.mentions_eq hvalid hrest
  | group opening items closing =>
    obtain ⟨hopening, hitems, hclosing⟩ := hvalid
    obtain ⟨mid, ⟨-, -, hrow⟩, -⟩ := Token.InRow.append_iff.mp hrow
    have hnext : NoColonFirst (closing :: rest) := noColonFirst_cons.mpr (by simp [hclosing])
    rw [Term.rule, Rule.mentions_sequence, Term.tokens, List.append_assoc, List.cons_append,
      mentionStarts_of_ne_word (by simp [hopening]), List.singleton_append,
      items.mentions_eq hitems hrow hnext, mentionStarts_of_ne_word (by simp [hclosing])]

/-- So do those of an item. What is in a separator comes last, in the text and in the walk. -/
theorem Item.mentions_eq {name : String} {lo hi : Nat} {rest : List Token} (item : Item)
    (hvalid : item.Valid) (hrow : Token.InRow lo hi item.tokens) (hrest : NoColonFirst rest) :
    mentionStarts name (item.tokens ++ rest) =
      Rule.mentions name item.rule.walk ++ mentionStarts name rest := by
  cases item with
  | plain term => exact term.mentions_eq hvalid hrow hrest
  | repeated term range =>
    obtain ⟨hterm, hrange, hstart⟩ := hvalid
    obtain ⟨mid, hrow, -⟩ := Token.InRow.append_iff.mp hrow
    have hnext : NoColonFirst (range :: rest) := noColonFirst_cons.mpr (by simp [hrange])
    rw [Item.rule, Rule.mentions_repeated term.quantifier_rule
        (Term.start_repeated hrow hstart), Item.tokens,
      List.append_assoc, List.singleton_append, term.mentions_eq hterm hrow hnext,
      mentionStarts_of_ne_word (by simp [hrange])]
    simp only [Rule.walkQuantifier, Rule.mentions_nil, List.append_nil]
  | separated term range marker separator =>
    obtain ⟨hterm, ⟨hrange, hstart⟩, hmarker, hseparator⟩ := hvalid
    obtain ⟨mid, hrow, -, -, -, -, hrow'⟩ := Token.InRow.append_iff.mp hrow
    have hnext : NoColonFirst (range :: marker :: (separator.tokens ++ rest)) :=
      noColonFirst_cons.mpr (by simp [hrange])
    have hword : marker.kind ≠ .word := by
      rcases hmarker with hmarker | hmarker <;> simp [hmarker]
    rw [Item.rule, Rule.mentions_repeated term.quantifier_rule
        (Term.start_repeated hrow hstart), Item.tokens,
      List.append_assoc, List.cons_append, List.cons_append, term.mentions_eq hterm hrow hnext,
      mentionStarts_of_ne_word (by simp [hrange]), mentionStarts_of_ne_word hword,
      separator.mentions_eq hseparator hrow' hrest]
    simp only [Rule.walkQuantifier, List.append_assoc]

/-- So do those of items. -/
theorem Items.mentions_eq {name : String} {lo hi : Nat} {rest : List Token} (items : Items)
    (hvalid : items.Valid) (hrow : Token.InRow lo hi items.tokens) (hrest : NoColonFirst rest) :
    mentionStarts name (items.tokens ++ rest) =
      Rule.mentions name (Rule.walkAll items.rules) ++ mentionStarts name rest := by
  cases items with
  | nil => rfl
  | cons item items =>
    obtain ⟨hitem, hitems⟩ := hvalid
    obtain ⟨mid, hrow, hrow'⟩ := Token.InRow.append_iff.mp hrow
    rw [Items.rules, Rule.walkAll, Rule.mentions_append, Items.tokens, List.append_assoc,
      item.mentions_eq hitem hrow (Items.noColonFirst hitems hrest),
      items.mentions_eq hitems hrow' hrest, List.append_assoc]

end

/-! ## Definitions -/

section Definitions

variable {name : String} {lo hi : Nat} {rest : List Token}

theorem noColonFirst_othersTokens {others : List (Token × Items)}
    (hvalid : ∀ other ∈ others, other.1.kind = .pipe ∧ other.2.Valid) (hrest : NoColonFirst rest) :
    NoColonFirst (othersTokens others ++ rest) := by
  cases others with
  | nil => exact hrest
  | cons other others =>
    have hpipe : other.1.kind = .pipe := (hvalid other List.mem_cons_self).1
    exact noColonFirst_cons.mpr (by simp [hpipe])

theorem mentions_othersTokens {others : List (Token × Items)}
    (hvalid : ∀ other ∈ others, other.1.kind = .pipe ∧ other.2.Valid)
    (hrow : Token.InRow lo hi (othersTokens others)) (hrest : NoColonFirst rest) :
    mentionStarts name (othersTokens others ++ rest) =
      Rule.mentions name (Rule.walkAll (othersAlternatives others)) ++ mentionStarts name rest := by
  induction others generalizing lo with
  | nil => rfl
  | cons other others ih =>
    obtain ⟨pipe, items⟩ := other
    obtain ⟨⟨hpipe, hitems⟩, hothers⟩ := List.forall_mem_cons.mp hvalid
    obtain ⟨-, -, hrow⟩ := hrow
    obtain ⟨mid, hrow, hrow'⟩ := Token.InRow.append_iff.mp hrow
    have hword : pipe.kind ≠ .word := by simp_all
    have halternatives : othersAlternatives ((pipe, items) :: others) =
        items.alternative pipe.span.stop :: othersAlternatives others := rfl
    rw [halternatives, Rule.walkAll, Rule.mentions_append, Items.alternative,
      Rule.mentions_sequence, othersTokens_cons, List.cons_append, mentionStarts_of_ne_word hword,
      List.append_assoc,
      items.mentions_eq hitems hrow (noColonFirst_othersTokens hothers hrest), ih hothers hrow',
      List.append_assoc]

/-- **The words of a definition that refer to a name** stand where the walk through its alternatives
meets references to the name. The name of the definition itself is none of them. -/
theorem Definition.mentions_eq {definition : Definition} (hvalid : definition.Valid)
    (hrow : Token.InRow lo hi definition.tokens) (hrest : NoColonFirst rest) :
    mentionStarts name (definition.tokens ++ rest) =
      Rule.mentions name (Rule.walkAll definition.ruleDef.alternatives) ++
        mentionStarts name rest := by
  obtain ⟨mid, ⟨-, -, -, -, hfirst⟩, hothers⟩ := Token.InRow.append_iff.mp hrow
  have hcolon : ¬ NoColonFirst (definition.colon ::
      (definition.first.tokens ++ (othersTokens definition.others ++ rest))) := by
    simp [noColonFirst_cons, hvalid.colon_kind]
  have halternatives : definition.ruleDef.alternatives =
      definition.first.alternative definition.colon.span.stop ::
        othersAlternatives definition.others := rfl
  rw [halternatives, Rule.walkAll, Rule.mentions_append, Items.alternative, Rule.mentions_sequence,
    Definition.tokens, List.append_assoc, List.cons_append, List.cons_append, mentionStarts,
    Token.mentions_of_colon hcolon, ← mentionStarts,
    mentionStarts_of_ne_word (by simp [hvalid.colon_kind]),
    definition.first.mentions_eq hvalid.first hfirst
      (noColonFirst_othersTokens hvalid.others hrest),
    mentions_othersTokens hvalid.others hothers hrest, List.append_assoc]

theorem mentions_definitionsTokens {definitions : List Definition}
    (hvalid : ∀ definition ∈ definitions, definition.Valid)
    (hrow : Token.InRow lo hi (definitionsTokens definitions)) :
    mentionStarts name (definitionsTokens definitions) =
      Rule.mentions name ((definitions.map Definition.ruleDef).flatMap fun definition =>
        Rule.walkAll definition.alternatives) := by
  induction definitions generalizing lo with
  | nil => rfl
  | cons definition definitions ih =>
    obtain ⟨hdefinition, hdefinitions⟩ := List.forall_mem_cons.mp hvalid
    obtain ⟨mid, hrow, hrow'⟩ := Token.InRow.append_iff.mp hrow
    have hnext : NoColonFirst (definitionsTokens definitions) :=
      noColonFirst_of_follows
        (follows_of_endsItems (endsDefinition_definitionsTokens hdefinitions).endsItems)
    rw [definitionsTokens_cons, Definition.mentions_eq hdefinition hrow hnext,
      ih hdefinitions hrow', List.map_cons, List.flatMap_cons, Rule.mentions_append]

/-- Behind the first `;` of a document stand its definitions. -/
theorem Document.body_tokens {document : Document} (hvalid : document.Valid) :
    Token.body document.tokens = definitionsTokens document.definitions := by
  have hname := Document.noSemicolon_declaration hvalid
  rw [Token.body, Document.tokens, List.dropWhile_append_of_pos]
  · rw [List.dropWhile_cons_of_neg (by simp [hvalid.semicolon]), List.tail_cons]
  · intro t ht
    exact decide_eq_true (hname t ht)

/-- The words of a document that refer to a name stand where the walk through its model meets
references to the name. -/
theorem Document.mentions_eq {text : String} {document : Document} (hvalid : document.Valid)
    (hscan : Token.scan text = .ok document.tokens) :
    mentionStarts name (Token.body document.tokens) =
      Rule.mentions name (document.grammar text).walk := by
  obtain ⟨mid, -, -, -, hrow⟩ := Token.InRow.append_iff.mp (Token.inRow_of_scan hscan)
  rw [Document.body_tokens hvalid, mentions_definitionsTokens hvalid.definitions hrow]
  rfl

end Definitions

end Derivation

/-! ## Grammars -/

namespace Grammar

theorem referencesOf_of_not_mem {grammar : Grammar} {name : String}
    (h : name ∉ grammar.ruleNames) : grammar.referencesOf name = [] := by
  have hnone : grammar.rule? name = none := by
    rw [Option.eq_none_iff_forall_ne_some]
    intro definition hdefinition
    exact h (exists_rule?_iff.mp ⟨definition, hdefinition⟩)
  rw [referencesOf, definitionOf?, hnone]
  rfl

theorem referencesOf_of_isFirstDefinition {grammar : Grammar} {name : String}
    {definition : RuleDef} (h : grammar.IsFirstDefinition name definition) :
    grammar.referencesOf name = definition.name.span ::
      (grammar.walk.filter fun rule => rule.target? == some name).map fun rule => rule.span := by
  rw [referencesOf, definitionOf?, rule?_eq_some_iff.mpr h]
  rfl

/-- **References are the words that read the name.** The references to a name that is defined are
the name in its first definition, and then spans that begin, in the order of the text, exactly where
a word stands behind the declaration that reads the name behind its modifiers and has no colon
directly behind it. A name that is not defined has none. -/
theorem referencesOf_eq_mentions {text : String} {grammar : Grammar}
    (h : Grammar.parse text = .ok grammar) :
    ∃ tokens, Token.scan text = .ok tokens ∧ ∀ name,
      (name ∈ grammar.ruleNames → ∃ definition spans,
        grammar.IsFirstDefinition name definition ∧
        grammar.referencesOf name = definition.name.span :: spans ∧
        (spans.map Span.start).Pairwise (· < ·) ∧
        spans.map Span.start =
          (Token.mentions name (Token.body tokens)).map fun t => t.span.start) ∧
      (name ∉ grammar.ruleNames → grammar.referencesOf name = []) := by
  obtain ⟨document, hvalid, hscan, rfl⟩ := Grammar.exists_document_of_parse h
  refine ⟨document.tokens, hscan, fun name => ⟨?_, referencesOf_of_not_mem⟩⟩
  intro hname
  obtain ⟨definition, hdefinition⟩ := exists_rule?_iff.mpr hname
  have hfirst := rule?_eq_some_iff.mp hdefinition
  have hstarts : Rule.mentions name (document.grammar text).walk =
      mentionStarts name (Token.body document.tokens) := (Document.mentions_eq hvalid hscan).symm
  have hsublist : (Token.mentions name (Token.body document.tokens)).Sublist document.tokens :=
    (Token.mentions_sublist name _).trans (Token.body_sublist _)
  have hrow := (Token.inRow_of_scan hscan).pairwise_start.2.sublist hsublist
  refine ⟨definition, _, hfirst, referencesOf_of_isFirstDefinition hfirst, ?_, ?_⟩
  · rw [List.map_map]
    change (Rule.mentions name (document.grammar text).walk).Pairwise (· < ·)
    rw [hstarts, mentionStarts, List.pairwise_map]
    exact hrow
  · rw [List.map_map]
    exact hstarts

/-- A name that is defined twice and referred to with modifiers, in a group and in a group in a
separator; and one that is referred to and not defined. -/
theorem referencesOf_in_separators :
    ∃ grammar,
      Grammar.parse "unit grammar a;\na: [.a(s) %% [b !a]] c | 'a'\nb: a\na:" = .ok grammar ∧
      ("a" ∈ grammar.ruleNames ∧ ∃ definition spans, grammar.IsFirstDefinition "a" definition ∧
        grammar.referencesOf "a" = definition.name.span :: spans ∧
        spans.map Span.start = [20, 32, 48]) ∧
      "c" ∉ grammar.ruleNames ∧ grammar.referencesOf "c" = [] := by
  have hnames : (Grammar.parse "unit grammar a;\na: [.a(s) %% [b !a]] c | 'a'\nb: a\na:").map
      Grammar.ruleNames = .ok ["a", "b", "a"] := by decide +kernel
  have hwords : (Token.scan "unit grammar a;\na: [.a(s) %% [b !a]] c | 'a'\nb: a\na:").map
      (fun tokens => (Token.mentions "a" (Token.body tokens)).map fun t => t.span.start) =
      .ok [20, 32, 48] := by decide +kernel
  obtain ⟨grammar, hparse, hnames⟩ := Parse.exists_of_map_eq_ok hnames
  obtain ⟨tokens, hscan, href⟩ := referencesOf_eq_mentions hparse
  have ha : "a" ∈ grammar.ruleNames := by simp [hnames]
  have hc : "c" ∉ grammar.ruleNames := by simp [hnames]
  obtain ⟨definition, spans, hfirst, hspans, -, hstarts⟩ := (href "a").1 ha
  rw [hscan] at hwords
  exact ⟨grammar, hparse,
    ⟨ha, definition, spans, hfirst, hspans, hstarts.trans (Except.ok.inj hwords)⟩,
    hc, (href "c").2 hc⟩

end Grammar

end FanServer
