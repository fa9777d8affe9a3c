import FanServer.Proofs.DeclarationTokens
import FanServer.Proofs.References

/-!
# The texts of a model stand in the source

A model keeps names, modifiers, values and ranges as texts of their own. Each of them was cut out of
the source, and here it is said where it stands there:

* `Text.ReadsAt` — what the source reads at an offset;
* `RuleKind.Verbatim`, `Quantifier.Verbatim`, `Separator.Verbatim` — what is asked of the parts of
  an element. Each of them reads in the source **where its span begins**, also if the span was
  widened afterwards over a repetition;
* `Rule.Verbatim`, `Grammar.Verbatim` — what is asked of an element and of a grammar.

A token stands in the source with its text (`Token.StandsIn`), and that text matches the pattern of
its kind. So it is enough to take the patterns apart.

Main result: `Grammar.verbatim_of_parse`.
-/

open FanServer.Derivation

namespace FanServer

/-! ## What a text reads -/

namespace Text

/-- At the offset the text reads `w`. -/
def ReadsAt (cs : List Char) (offset : Nat) (w : List Char) : Prop :=
  ∃ before after, cs = before ++ w ++ after ∧ byteCount before = offset

/-- The characters are those of `w` without the blanks at both ends. -/
structure Trims (w trimmed : List Char) : Prop where
  /-- only blanks are left out, at the ends -/
  cut : ∃ leading trailing, w = leading ++ trimmed ++ trailing ∧
    (∀ c ∈ leading, isBlank c) ∧ ∀ c ∈ trailing, isBlank c
  /-- what is left does not begin with a blank -/
  head : ∀ c ∈ trimmed.head?, ¬ isBlank c
  /-- it does not end with one -/
  last : ∀ c ∈ trimmed.getLast?, ¬ isBlank c

theorem trims_trimBlank (w : List Char) : Trims w (trimBlank w) := by
  set rest := w.dropWhile isBlank with hrest
  have hcut : rest.reverse.takeWhile isBlank ++ rest.reverse.dropWhile isBlank = rest.reverse :=
    List.takeWhile_append_dropWhile
  have hcut' : rest = trimBlank w ++ (rest.reverse.takeWhile isBlank).reverse := by
    rw [trimBlank, ← hrest, ← List.reverse_append, hcut, List.reverse_reverse]
  refine ⟨⟨w.takeWhile isBlank, (rest.reverse.takeWhile isBlank).reverse, ?_, ?_, ?_⟩, ?_, ?_⟩
  · rw [List.append_assoc, ← hcut', hrest, List.takeWhile_append_dropWhile]
  · exact fun c hc => List.mem_takeWhile_imp hc
  · exact fun c hc => List.mem_takeWhile_imp (List.mem_reverse.mp hc)
  · -- what is left begins where the leading blanks end
    intro c hc
    refine Pattern.head?_dropWhile isBlank w c ?_
    rw [← hrest, hcut', List.head?_append, Option.mem_def.mp hc]
    rfl
  · intro c hc
    rw [trimBlank, List.getLast?_reverse] at hc
    exact Pattern.head?_dropWhile isBlank _ c hc

theorem takeBytes_byteCount_add (a b : List Char) (n : Nat) :
    takeBytes (byteCount a + n) (a ++ b) = a ++ takeBytes n b := by
  induction a with
  | nil => rw [byteCount, Nat.zero_add, List.nil_append, List.nil_append]
  | cons c cs ih =>
    have hle : c.utf8Size ≤ c.utf8Size + byteCount cs + n := by omega
    have hrest : c.utf8Size + byteCount cs + n - c.utf8Size = byteCount cs + n := by omega
    rw [byteCount, List.cons_append, takeBytes, if_pos hle, hrest, ih, List.cons_append]

/-- **The characters at a span** are those that the text reads between its ends. -/
theorem slice?_eq_some_iff {cs w : List Char} {span : Span} :
    slice? cs span = some w ↔ ∃ before after, cs = before ++ w ++ after ∧
      span = ⟨byteCount before, byteCount before + byteCount w⟩ := by
  refine ⟨?_, ?_⟩
  · intro h
    obtain ⟨start, stop⟩ := span
    rw [slice?] at h
    split_ifs at h with hspan
    obtain ⟨hle, hstart, hstop⟩ := hspan
    obtain rfl := Option.some.inj h
    rw [isBoundary, beq_iff_eq, floorBoundary] at hstart hstop
    dsimp only at hle hstart hstop
    set before := takeBytes start cs with hbefore
    set w := slice cs ⟨start, stop⟩ with hw
    have hcut : before ++ dropBytes start cs = cs := takeBytes_append_dropBytes start cs
    -- what fits up to the end is what fits up to the start, and the slice behind it
    have htake : takeBytes stop cs = before ++ w := by
      rw [hw, slice, ← takeBytes_byteCount_add, hcut, hstart, Nat.add_sub_cancel' hle]
    refine ⟨before, dropBytes stop cs, ?_, ?_⟩
    · rw [← htake, takeBytes_append_dropBytes]
    · rw [← byteCount_append, ← htake, hstop, hstart]
  · rintro ⟨before, after, rfl, rfl⟩
    exact slice?_append before w after

theorem ReadsAt.of_slice? {cs w : List Char} {span : Span} (h : slice? cs span = some w) :
    ReadsAt cs span.start w := by
  obtain ⟨before, after, hcut, rfl⟩ := slice?_eq_some_iff.mp h
  exact ⟨before, after, hcut, rfl⟩

end Text

theorem Token.StandsIn.readsAt {t : Token} {cs : List Char} (h : t.StandsIn cs) :
    Text.ReadsAt cs t.span.start t.text.toList :=
  .of_slice? h.slice?

theorem Token.StandsIn.mem_ofKind {t : Token} {cs : List Char} (h : t.StandsIn cs) :
    t.text.toList ∈ Pattern.ofKind t.kind := by
  obtain ⟨before, after, -, hbetween⟩ := h
  exact hbetween.mem_ofKind

/-! ## Patterns taken apart -/

namespace Pattern

variable {w : List Char}

/-- A word is modifiers and an identifier behind them. -/
theorem identifier_of_mem_word (h : w ∈ ofKind .word) :
    (∀ c ∈ w.takeWhile Text.isModifier, c ∈ ".!&?".toList) ∧
      w.dropWhile Text.isModifier ∈ identifier := by
  obtain ⟨modifiers, c, name, hmodifiers, hc, hname, rfl⟩ := mem_word.mp h
  have hstop : ∀ d ∈ (c :: name).head?, ¬ Text.isModifier d = true := by
    rintro d ⟨⟩
    exact not_isModifier_of_isIdentStart hc
  rw [takeWhile_run hmodifiers hstop, dropWhile_run hmodifiers hstop]
  refine ⟨?_, mem_identifier.mpr ⟨c, name, hc, hname, rfl⟩⟩
  intro d hd
  exact isModifier_iff.mp (hmodifiers d hd)

/-- A word that does not begin with a modifier is an identifier. -/
theorem mem_identifier_of_plain (h : w ∈ ofKind .word)
    (hplain : ¬ w.head?.any Text.isModifier = true) : w ∈ identifier := by
  obtain ⟨-, hidentifier⟩ := identifier_of_mem_word h
  cases w with
  | nil => exact absurd h (nil_notMem_ofKind .word)
  | cons c w =>
    have hc : ¬ Text.isModifier c = true := hplain
    rwa [List.dropWhile_cons_of_neg hc] at hidentifier

end Pattern

theorem Parse.inside_eq {text : String} {opening closing : Char} {body : List Char}
    (h : text.toList = opening :: body ++ [closing]) : inside text = body := by
  rw [inside, h, List.cons_append, List.drop_one, List.tail_cons, List.dropLast_concat]

/-! ## Elements -/

/-- **What the text reads where an element begins.** A sequence has no text of its own. -/
def RuleKind.Verbatim (cs : List Char) (offset : Nat) : RuleKind → Prop
  | .sequence _ => True
  | .marker sign => Text.ReadsAt cs offset sign.symbol.toList
  | .reference target modifiers =>
    (∀ c ∈ modifiers.toList, c ∈ ".!&?".toList) ∧ target.toList ∈ Pattern.identifier ∧
      Text.ReadsAt cs offset (modifiers.toList ++ target.toList)
  | .literal .string value =>
    ∃ quote, (quote = '\'' ∨ quote = '"') ∧
      Text.ReadsAt cs offset (quote :: value.toList ++ [quote])
  | .literal .regex value =>
    value.toList ≠ [] ∧ Text.ReadsAt cs offset ('/' :: value.toList ++ ['/'])

/-- **What the text reads where a repetition begins**: parentheses around its range, which may have
blanks around it. -/
def Quantifier.Verbatim (cs : List Char) (quantifier : Quantifier) : Prop :=
  ∃ w, (∀ c ∈ w, c ≠ '(' ∧ c ≠ ')' ∧ c ≠ '\n') ∧
    Text.ReadsAt cs quantifier.span.start ('(' :: w ++ [')']) ∧
    Text.Trims w quantifier.range.toList

/-- **What the text reads where a separator begins**: its sign, and `%` only if it does not stand
twice. -/
structure Separator.Verbatim (cs : List Char) (clause : Separator) : Prop where
  /-- there are two signs -/
  marker : clause.marker = "%" ∨ clause.marker = "%%"
  /-- the text reads the sign -/
  readsAt : Text.ReadsAt cs clause.span.start clause.marker.toList
  /-- a sign that stands twice is taken as one -/
  longest : Text.ReadsAt cs clause.span.start "%%".toList → clause.marker = "%%"

/-- The texts of an element stand in the text that it was read from. -/
structure Rule.Verbatim (cs : List Char) (rule : Rule) : Prop where
  /-- what the element is reads where it begins -/
  kind : rule.kind.Verbatim cs rule.span.start
  /-- its repetition reads where that begins -/
  quantifier : ∀ quantifier ∈ rule.quantifier, quantifier.Verbatim cs
  /-- its separator reads where that begins -/
  separator : ∀ clause ∈ rule.separator?, clause.Verbatim cs

namespace Derivation

variable {cs : List Char} {t : Token}

theorem Leaf.verbatim {kind : RuleKind} (h : Leaf t kind) (hstands : t.StandsIn cs) :
    kind.Verbatim cs t.span.start := by
  have hreads := hstands.readsAt
  have hmem := hstands.mem_ofKind
  cases h with
  | plus hkind =>
    rw [hkind] at hmem
    rwa [Pattern.mem_sign.mp hmem] at hreads
  | minus hkind =>
    rw [hkind] at hmem
    rwa [Pattern.mem_sign.mp hmem] at hreads
  | word hkind =>
    rw [hkind] at hmem
    obtain ⟨hmodifiers, hidentifier⟩ := Pattern.identifier_of_mem_word hmem
    simp only [RuleKind.Verbatim, String.toList_ofList]
    refine ⟨hmodifiers, hidentifier, ?_⟩
    rwa [List.takeWhile_append_dropWhile]
  | string hkind =>
    rw [hkind] at hmem
    obtain ⟨quote, hquote, body, -, htext⟩ := Pattern.mem_stringLiteral.mp hmem
    rw [RuleKind.Verbatim, Parse.inside_eq htext, String.toList_ofList]
    refine ⟨quote, hquote, ?_⟩
    rwa [htext] at hreads
  | regex hkind =>
    rw [hkind] at hmem
    obtain ⟨body, -, hbody, htext⟩ := Pattern.mem_regexLiteral.mp hmem
    rw [RuleKind.Verbatim, Parse.inside_eq htext, String.toList_ofList]
    refine ⟨hbody, ?_⟩
    rwa [htext] at hreads

/-- A range reads as its parentheses and what stands between them, whatever separator follows. -/
theorem verbatim_range (hkind : t.kind = .quantifier) (hstands : t.StandsIn cs)
    {quantifier : Quantifier} (hstart : quantifier.span.start = t.span.start)
    (hrange : quantifier.range = String.ofList (Text.trimBlank (Parse.inside t.text))) :
    quantifier.Verbatim cs := by
  have hreads := hstands.readsAt
  have hmem := hstands.mem_ofKind
  rw [hkind] at hmem
  obtain ⟨w, hw, htext⟩ := Pattern.mem_quantifier.mp hmem
  rw [htext] at hreads
  refine ⟨w, fun c hc => Pattern.isRangeChar_iff.mp (hw c hc), ?_, ?_⟩
  · rwa [hstart]
  · rw [hrange, String.toList_ofList, Parse.inside_eq htext]
    exact Text.trims_trimBlank w

theorem verbatim_marker (hmarker : IsMarker t) (hstands : t.StandsIn cs) {clause : Separator}
    (hstart : clause.span.start = t.span.start) (htext : clause.marker = t.text) :
    clause.Verbatim cs := by
  have hreads := hstands.readsAt
  obtain ⟨before, after, rfl, hbetween⟩ := hstands
  have hmem := hbetween.mem_ofKind
  rcases hmarker with hkind | hkind
  · rw [hkind] at hmem
    have hsign : t.text = "%" := String.ext (Pattern.mem_sign.mp hmem)
    refine ⟨.inl (htext.trans hsign), ?_, ?_⟩
    · rwa [hstart, htext]
    · -- the sign is not followed by another one, or it would have been made longer
      rintro ⟨before', after', hcut, hoffset⟩
      have hends := hbetween.ends
      have hoffset : Text.byteCount before' = Text.byteCount before := by
        rw [hoffset, hstart, hbetween.span_eq]
      have hdrop := congrArg (Text.dropBytes (Text.byteCount before)) hcut
      rw [List.append_assoc, List.append_assoc, Text.dropBytes_byteCount_append, ← hoffset,
        Text.dropBytes_byteCount_append, hsign] at hdrop
      obtain ⟨-, rfl⟩ := List.cons.inj hdrop
      rw [hkind] at hends
      exact absurd rfl hends
  · rw [hkind] at hmem
    have hsign : t.text = "%%" := String.ext (Pattern.mem_sign.mp hmem)
    refine ⟨.inr (htext.trans hsign), ?_, fun _ => htext.trans hsign⟩
    rwa [hstart, htext]

theorem Term.verbatim_kind {term : Term} (hvalid : term.Valid)
    (hstands : ∀ t ∈ term.tokens, t.StandsIn cs) :
    term.rule.kind.Verbatim cs term.rule.span.start := by
  cases term with
  | leaf t kind => exact Leaf.verbatim hvalid (hstands t List.mem_cons_self)
  | group opening items closing => trivial

theorem Item.verbatim_rule {lo hi : Nat} {item : Item} (hvalid : item.Valid)
    (hrow : Token.InRow lo hi item.tokens) (hstands : ∀ t ∈ item.tokens, t.StandsIn cs) :
    item.rule.Verbatim cs := by
  cases item with
  | plain term =>
    refine ⟨Term.verbatim_kind hvalid hstands, ?_, ?_⟩
    · simp [Item.rule]
    · simp [Item.rule, Rule.separator?]
  | repeated term range =>
    obtain ⟨hterm, hrange, hstart⟩ := hvalid
    obtain ⟨mid, hrow, -⟩ := Token.InRow.append_iff.mp hrow
    obtain ⟨hstands, hstands'⟩ := List.forall_mem_append.mp hstands
    refine ⟨?_, ?_, ?_⟩
    · rw [Item.rule, Term.start_repeated hrow hstart]
      exact Term.verbatim_kind hterm hstands
    · intro quantifier hquantifier
      obtain rfl := Option.some.inj hquantifier
      exact verbatim_range hrange (hstands' range List.mem_cons_self) rfl rfl
    · simp [Item.rule, Rule.repeated, Rule.separator?]
  | separated term range marker separator =>
    obtain ⟨hterm, ⟨hrange, hstart⟩, hmarker, -⟩ := hvalid
    obtain ⟨mid, hrow, -⟩ := Token.InRow.append_iff.mp hrow
    obtain ⟨hstands, hstands'⟩ := List.forall_mem_append.mp hstands
    obtain ⟨hstandsRange, hstands'⟩ := List.forall_mem_cons.mp hstands'
    refine ⟨?_, ?_, ?_⟩
    · rw [Item.rule, Term.start_repeated hrow hstart]
      exact Term.verbatim_kind hterm hstands
    · intro quantifier hquantifier
      obtain rfl := Option.some.inj hquantifier
      exact verbatim_range hrange hstandsRange rfl rfl
    · intro clause hclause
      obtain rfl := Option.some.inj hclause
      exact verbatim_marker hmarker (hstands' marker List.mem_cons_self) rfl rfl

/-- The texts of all elements of the model of a tree stand in the text. -/
theorem Document.throughout_verbatim {text : String} {document : Document} (hvalid : document.Valid)
    (hscan : Token.scan text = .ok document.tokens) :
    ∀ definition ∈ (document.grammar text).rules, ∀ alternative ∈ definition.alternatives,
      alternative.Throughout (Rule.Verbatim text.toList) := by
  have hrow := Token.inRow_of_scan hscan
  have hstands := Token.standsIn_of_scan hscan
  refine Document.throughout hvalid ?_ ?_
  · intro item hitem htokens
    obtain ⟨lo, hi, hrow'⟩ := hrow.of_isInfix htokens
    exact Item.verbatim_rule hitem hrow' fun t ht => hstands t (htokens.subset ht)
  · intro items anchor
    refine ⟨trivial, ?_, ?_⟩
    · simp [Items.alternative, Rule.plain]
    · simp [Items.alternative, Rule.plain, Rule.separator?]

/-! ## Names -/

/-- The last token of a name ends where the name does. -/
theorem exists_getLast?_name (first : Token) (segments : List (Token × Token)) :
    ∃ last, (first :: segmentsTokens segments).getLast? = some last ∧
      last.span.stop = segmentsStop first.span.stop segments := by
  induction segments generalizing first with
  | nil => exact ⟨first, rfl, rfl⟩
  | cons segment segments ih =>
    obtain ⟨colons, word⟩ := segment
    obtain ⟨last, hlast, hstop⟩ := ih word
    refine ⟨last, ?_, ?_⟩
    · rw [segmentsTokens_cons, List.getLast?_cons_cons, List.getLast?_cons_cons, hlast]
    · rw [hstop, segmentsStop_cons]

theorem start_le_segmentsStop {lo hi : Nat} {first : Token} {segments : List (Token × Token)}
    (hrow : Token.InRow lo hi (first :: segmentsTokens segments)) :
    first.span.start ≤ segmentsStop first.span.stop segments := by
  induction segments generalizing lo first with
  | nil => exact hrow.2.1.le
  | cons segment segments ih =>
    obtain ⟨colons, word⟩ := segment
    obtain ⟨-, hlt, hcolons, hlt', hword⟩ := hrow
    have hle := ih hword
    have hstart : colons.span.stop ≤ word.span.start := hword.1
    rw [segmentsStop_cons]
    omega

/-- The name of a document reads from its first word through its last one. -/
theorem Document.slice?_name {text : String} {document : Document}
    (hscan : Token.scan text = .ok document.tokens) :
    Text.slice? text.toList
        ⟨document.first.span.start, segmentsStop document.first.span.stop document.segments⟩ =
      some (document.grammar text).name.toList := by
  have hstands := Token.standsIn_of_scan hscan
  have hname : document.first :: segmentsTokens document.segments <:+: document.tokens :=
    ⟨[document.unitWord, document.grammarWord],
      document.semicolon :: definitionsTokens document.definitions, rfl⟩
  obtain ⟨lo, hi, hrow⟩ := (Token.inRow_of_scan hscan).of_isInfix hname
  obtain ⟨last, hlast, hstop⟩ := exists_getLast?_name document.first document.segments
  have hfirst := (hstands document.first (hname.subset List.mem_cons_self)).marks
  have hend := (hstands last (hname.subset (List.mem_of_getLast? hlast))).marks
  rw [Text.slice?, if_pos ⟨start_le_segmentsStop hrow, hfirst.start, hstop ▸ hend.stop⟩,
    Document.grammar, String.toList_ofList]

end Derivation

/-- The tokens before the first `;`. -/
def Token.declaration (tokens : List Token) : List Token :=
  tokens.takeWhile fun t => t.kind ≠ .semicolon

theorem Derivation.Document.declaration_tokens {document : Document} (hvalid : document.Valid) :
    Token.declaration document.tokens =
      document.unitWord :: document.grammarWord :: document.first ::
        segmentsTokens document.segments := by
  have hname := Document.noSemicolon_declaration hvalid
  rw [Token.declaration, Document.tokens, List.takeWhile_append_of_pos,
    List.takeWhile_cons_of_neg (by simp [hvalid.semicolon]), List.append_nil]
  intro t ht
  exact decide_eq_true (hname t ht)

/-- The texts of a grammar stand in the text that it was read from. -/
structure Grammar.Verbatim (text : String) (grammar : Grammar) : Prop where
  /-- the name reads from the third token through the last one before the first `;` -/
  name : ∃ tokens first last, Token.scan text = .ok tokens ∧
    (Token.declaration tokens)[2]? = some first ∧
    (Token.declaration tokens).getLast? = some last ∧
    Text.slice? text.toList ⟨first.span.start, last.span.stop⟩ = some grammar.name.toList
  /-- the name of a definition is an identifier -/
  identifier : ∀ definition ∈ grammar.rules, definition.name.text.toList ∈ Pattern.identifier
  /-- it reads at its span -/
  slice? : ∀ definition ∈ grammar.rules,
    Text.slice? text.toList definition.name.span = some definition.name.text.toList
  /-- the texts of all elements stand in the text -/
  throughout : ∀ definition ∈ grammar.rules, ∀ alternative ∈ definition.alternatives,
    alternative.Throughout (Rule.Verbatim text.toList)

/-- **The texts of a model stand in the source.** In a grammar that is parsed, every name, modifier,
value, range and sign is what the text reads where the node it belongs to begins. -/
theorem Grammar.verbatim_of_parse {text : String} {grammar : Grammar}
    (h : Grammar.parse text = .ok grammar) : grammar.Verbatim text := by
  obtain ⟨document, hvalid, hscan, rfl⟩ := Grammar.exists_document_of_parse h
  have hstands := Token.standsIn_of_scan hscan
  have hname : ∀ definition ∈ document.definitions, definition.name.StandsIn text.toList := by
    intro definition hdefinition
    exact hstands _ ((Document.tokens_definition hdefinition).subset List.mem_cons_self)
  obtain ⟨last, hlast, hstop⟩ := exists_getLast?_name document.first document.segments
  exact {
    name := by
      refine ⟨document.tokens, document.first, last, hscan, ?_, ?_, ?_⟩
      · rw [Document.declaration_tokens hvalid]
        rfl
      · rw [Document.declaration_tokens hvalid, List.getLast?_cons_cons, List.getLast?_cons_cons,
          hlast]
      · rw [hstop, Document.slice?_name hscan]
    identifier := by
      intro _ hmem
      obtain ⟨definition, hdefinition, rfl⟩ := List.mem_map.mp hmem
      have hvalid' := hvalid.definitions definition hdefinition
      have hword := (hname definition hdefinition).mem_ofKind
      rw [hvalid'.name_kind] at hword
      exact Pattern.mem_identifier_of_plain hword hvalid'.name_plain
    slice? := by
      intro _ hmem
      obtain ⟨definition, hdefinition, rfl⟩ := List.mem_map.mp hmem
      exact (hname definition hdefinition).slice?
    throughout := Document.throughout_verbatim hvalid hscan }

/-- A name with blanks in it, and an alternative with a literal that is longer in bytes than in
characters, modifiers, a range with blanks around it and a group in a separator. -/
theorem Grammar.verbatim_with_blanks :
    ∃ grammar,
      Grammar.parse "unit grammar A :: B;\nk: '𝄞' [a !.b( s? )](s) %% [/ä/] | +" =
        .ok grammar ∧
      grammar.name = "A :: B" ∧ grammar.ruleNames = ["k"] ∧
      grammar.Verbatim
        "unit grammar A :: B;\nk: '𝄞' [a !.b( s? )](s) %% [/ä/] | +" := by
  have hnames : (Grammar.parse
      "unit grammar A :: B;\nk: '𝄞' [a !.b( s? )](s) %% [/ä/] | +").map
      (fun grammar => (grammar.name, grammar.ruleNames)) = .ok ("A :: B", ["k"]) := by
    decide +kernel
  obtain ⟨grammar, hparse, hnames⟩ := Parse.exists_of_map_eq_ok hnames
  obtain ⟨hname, hrules⟩ := Prod.mk.inj hnames
  exact ⟨grammar, hparse, hname, hrules, Grammar.verbatim_of_parse hparse⟩

end FanServer
