import FanServer.Proofs.Declaration
import FanServer.Proofs.Parse
import FanServer.Proofs.Scan

/-!
# The declaration as the parser reads it

The kind of a document is found by looking at its lines, and its name is then read from its tokens.
The parser by itself would also take a name with blanks, comments or modifiers in it, and it takes
whatever declaration comes first. That the two agree all the same rests on the semicolon:

* `Reads.divide_newline`, `Reads.divide` — a text can be read from the beginning of any line,
  because neither a token nor a comment goes on to another line;
* `Reads.exists_semicolon` — so the semicolon of each declaration is a token, whatever stands before
  the line;
* `Document.eq_semicolon` — a document has **one** semicolon, that of its declaration;
* `Document.eq_of_declaration` — the tokens before it are those of the line that was detected.

Main result: `Model.followsDeclarations`.
-/

open FanServer.Derivation

namespace FanServer

/-! ## The semicolon of a declaration -/

/-- Where a plain character begins a token, the token holds no semicolon. -/
theorem Pattern.semicolon_notMem {kind : TokenKind} {c : Char} {w : List Char}
    (h : c :: w ∈ ofKind kind) (hc : Header.isPlain c) : ';' ∉ c :: w := by
  cases kind with
  | quantifier =>
    obtain ⟨body, -, heq⟩ := mem_quantifier.mp h
    cases heq
    exact absurd hc (by decide)
  | word =>
    intro hmem
    exact absurd (isModifier_or_isIdentRest_of_mem h hmem) (by decide)
  | stringLiteral =>
    obtain ⟨d, hd, body, -, heq⟩ := mem_stringLiteral.mp h
    cases heq
    rcases hd with rfl | rfl <;> exact absurd hc (by decide)
  | regexLiteral =>
    obtain ⟨body, -, -, heq⟩ := mem_regexLiteral.mp h
    cases heq
    exact absurd hc (by decide)
  | semicolon =>
    cases h
    exact absurd hc (by decide)
  | _ =>
    cases h
    decide

theorem Pattern.eq_semicolon {kind : TokenKind} {w : List Char} (h : ';' :: w ∈ ofKind kind) :
    kind = .semicolon := by
  rw [mem_ofKind_iff] at h
  cases h
  rfl

/-- Where an element that is missing from the first part stands in the whole, the first part comes
before it. -/
theorem exists_of_append_eq_append_cons {α : Type} {a cs before after : List α} {x : α}
    (hx : x ∉ a) (h : a ++ cs = before ++ x :: after) :
    ∃ between, before = a ++ between ∧ cs = between ++ x :: after := by
  rcases List.append_eq_append_iff.mp h with ⟨between, hbefore, hcs⟩ | ⟨between, rfl, hrest⟩
  · exact ⟨between, hbefore, hcs⟩
  · cases between with
    | nil => exact ⟨[], by simp, by simpa using hrest.symm⟩
    | cons y between =>
      obtain ⟨rfl, -⟩ := List.cons.inj hrest
      simp at hx

section Reads

variable {rest cs : List Char} {offset : Nat} {tokens : List Token}

/-- What is read one after the other is read together. -/
theorem Reads.append {a b : List Char} {ts us : List Token} (h : Reads (b ++ rest) offset a ts)
    (h' : Reads rest (offset + Text.byteCount a) b us) : Reads rest offset (a ++ b) (ts ++ us) := by
  induction h with
  | nil => exact h'
  | blank hc _ ih =>
    rw [Text.byteCount, ← Nat.add_assoc] at h'
    exact .blank hc (ih h')
  | comment hbody hstop _ ih =>
    rw [Text.byteCount_append, ← Nat.add_assoc] at h'
    rw [← List.append_assoc] at hstop
    rw [List.append_assoc]
    exact .comment hbody hstop (ih h')
  | token htext hends _ ih =>
    rw [Text.byteCount_append, ← Nat.add_assoc] at h'
    rw [← List.append_assoc] at hends
    rw [List.append_assoc]
    exact .token htext hends (ih h')

/-- **Reading can be divided at a line feed.** -/
theorem Reads.divide_newline (h : Reads rest offset cs tokens) {before after : List Char}
    (hcut : cs = before ++ '\n' :: after) :
    ∃ earlier later, tokens = earlier ++ later ∧
      Reads ('\n' :: (after ++ rest)) offset before earlier ∧
      Reads rest (offset + Text.byteCount before + 1) after later := by
  induction h generalizing before with
  | nil => simp at hcut
  | @blank offset c cs tokens hc hread ih =>
    cases before with
    | nil =>
      obtain ⟨rfl, rfl⟩ := List.cons.inj hcut
      exact ⟨[], tokens, rfl, .nil, hread⟩
    | cons b before =>
      obtain ⟨rfl, rfl⟩ := List.cons.inj hcut
      obtain ⟨earlier, later, rfl, hearlier, hlater⟩ := ih rfl
      refine ⟨earlier, later, rfl, .blank hc hearlier, ?_⟩
      rwa [Text.byteCount, ← Nat.add_assoc]
  | @comment offset body cs tokens hbody hstop _ ih =>
    have hline : '\n' ∉ '#' :: body := by
      intro hmem
      rcases List.mem_cons.mp hmem with hmem | hmem
      · exact absurd hmem (by decide)
      · exact absurd (hbody _ hmem) (by decide)
    obtain ⟨between, rfl, rfl⟩ := exists_of_append_eq_append_cons hline hcut
    obtain ⟨earlier, later, rfl, hearlier, hlater⟩ := ih rfl
    rw [List.append_assoc] at hstop
    refine ⟨earlier, later, rfl, .comment hbody hstop hearlier, ?_⟩
    rwa [Text.byteCount_append, ← Nat.add_assoc]
  | @token offset kind text cs tokens htext hends _ ih =>
    obtain ⟨between, rfl, rfl⟩ :=
      exists_of_append_eq_append_cons (Pattern.newline_notMem htext) hcut
    obtain ⟨earlier, later, rfl, hearlier, hlater⟩ := ih rfl
    rw [List.append_assoc] at hends
    refine ⟨_, later, rfl, .token htext hends hearlier, ?_⟩
    rwa [Text.byteCount_append, ← Nat.add_assoc]

/-- **Reading can be divided at the beginning of a line**: neither a token nor a comment goes on to
another line. -/
theorem Reads.divide (h : Reads rest offset cs tokens) {before after : List Char}
    (hcut : cs = before ++ after) (hbefore : Text.EndsLine before) :
    ∃ earlier later, tokens = earlier ++ later ∧ Reads (after ++ rest) offset before earlier ∧
      Reads rest (offset + Text.byteCount before) after later := by
  rcases hbefore with rfl | ⟨line, rfl⟩
  · subst hcut
    exact ⟨[], tokens, rfl, .nil, h⟩
  · obtain ⟨earlier, later, rfl, hearlier, hlater⟩ := h.divide_newline (by simpa using hcut)
    have hnewline : Reads (after ++ rest) (offset + Text.byteCount line) ['\n'] [] :=
      .blank (by decide) .nil
    refine ⟨earlier, later, rfl, ?_, ?_⟩
    · simpa using hearlier.append hnewline
    · rw [Text.byteCount_append, ← Nat.add_assoc]
      exact hlater

/-- Behind plain characters a semicolon is read as a token: no token that begins before it takes it
in. -/
theorem Reads.exists_semicolon (h : Reads rest offset cs tokens) {plain after : List Char}
    (hcut : cs = plain ++ ';' :: after) (hplain : ∀ c ∈ plain, Header.isPlain c) :
    ∃ t ∈ tokens, t.kind = .semicolon ∧ t.span.start = offset + Text.byteCount plain := by
  induction h generalizing plain with
  | nil => simp at hcut
  | @blank offset c cs tokens hc _ ih =>
    cases plain with
    | nil =>
      cases hcut
      exact absurd hc (by decide)
    | cons d plain =>
      obtain ⟨rfl, rfl⟩ := List.cons.inj hcut
      obtain ⟨t, ht, hkind, hstart⟩ := ih rfl (List.forall_mem_cons.mp hplain).2
      exact ⟨t, ht, hkind, by rw [hstart, Text.byteCount, Nat.add_assoc]⟩
  | comment _ _ _ _ =>
    cases plain with
    | nil => cases hcut
    | cons d plain =>
      obtain ⟨rfl, -⟩ := List.cons.inj hcut
      exact absurd (hplain '#' List.mem_cons_self) (by decide)
  | @token offset kind text cs tokens htext _ _ ih =>
    by_cases hmem : ';' ∈ text
    · -- the token holds the semicolon, so it is the semicolon
      cases text with
      | nil => simp at hmem
      | cons c text =>
        cases plain with
        | nil =>
          obtain ⟨rfl, -⟩ := List.cons.inj hcut
          exact ⟨_, List.mem_cons_self, Pattern.eq_semicolon htext, rfl⟩
        | cons d plain =>
          obtain ⟨rfl, -⟩ := List.cons.inj hcut
          exact absurd hmem (Pattern.semicolon_notMem htext (hplain c List.mem_cons_self))
    · obtain ⟨between, rfl, rfl⟩ := exists_of_append_eq_append_cons hmem hcut
      obtain ⟨t, ht, hkind, hstart⟩ := ih rfl fun c hc => hplain c (List.mem_append_right _ hc)
      exact ⟨t, List.mem_cons_of_mem _ ht, hkind,
        by rw [hstart, Text.byteCount_append, Nat.add_assoc]⟩

end Reads

/-- The semicolon of a declaration is a token, if the text has tokens at all. -/
theorem Header.Form.Declares.exists_semicolon {form : Form} {text : String}
    {before name : List Char} (h : form.Declares text.toList before name) {tokens : List Token}
    (hscan : Token.scan text = .ok tokens) :
    ∃ t ∈ tokens, t.kind = .semicolon ∧
      t.span.start = Text.byteCount (before ++ form.written name) := by
  obtain ⟨hbefore, hname, after, hcut⟩ := h
  obtain ⟨earlier, later, rfl, -, hlater⟩ := (scanFrom_eq_ok_iff.mp hscan).divide hcut hbefore
  obtain ⟨t, ht, hkind, hstart⟩ := hlater.exists_semicolon rfl (form.plain name hname)
  refine ⟨t, List.mem_append_right _ ht, hkind, ?_⟩
  rw [hstart, Text.byteCount_append, Nat.zero_add, Form.written]

/-! ## A document has one semicolon -/

namespace Derivation

/-- No token is a semicolon. -/
def NoSemicolon (ts : List Token) : Prop :=
  ∀ t ∈ ts, t.kind ≠ .semicolon

theorem noSemicolon_append {ts us : List Token} :
    NoSemicolon (ts ++ us) ↔ NoSemicolon ts ∧ NoSemicolon us :=
  List.forall_mem_append

theorem noSemicolon_cons {t : Token} {ts : List Token} :
    NoSemicolon (t :: ts) ↔ t.kind ≠ .semicolon ∧ NoSemicolon ts :=
  List.forall_mem_cons

theorem noSemicolon_nil : NoSemicolon [] :=
  List.forall_mem_nil _

theorem Leaf.kind_ne_semicolon {t : Token} {kind : RuleKind} (h : Leaf t kind) :
    t.kind ≠ .semicolon := by
  cases h <;> simp_all

theorem IsMarker.kind_ne_semicolon {t : Token} (h : IsMarker t) : t.kind ≠ .semicolon := by
  rcases h with h | h <;> simp [h]

mutual

theorem Term.noSemicolon (term : Term) (h : term.Valid) : NoSemicolon term.tokens := by
  cases term with
  | leaf t kind =>
    have hleaf : Leaf t kind := h
    exact noSemicolon_cons.mpr ⟨hleaf.kind_ne_semicolon, noSemicolon_nil⟩
  | group opening items closing =>
    obtain ⟨hopening, hitems, hclosing⟩ := h
    simp only [Term.tokens, noSemicolon_append, noSemicolon_cons]
    exact ⟨⟨by simp [hopening], items.noSemicolon hitems⟩, by simp [hclosing], noSemicolon_nil⟩

theorem Item.noSemicolon (item : Item) (h : item.Valid) : NoSemicolon item.tokens := by
  cases item with
  | plain term => exact term.noSemicolon h
  | repeated term range =>
    obtain ⟨hterm, hrange⟩ := h
    simp only [Item.tokens, noSemicolon_append, noSemicolon_cons]
    exact ⟨term.noSemicolon hterm, by simp [hrange.1], noSemicolon_nil⟩
  | separated term range marker separator =>
    obtain ⟨hterm, hrange, hmarker, hseparator⟩ := h
    simp only [Item.tokens, noSemicolon_append, noSemicolon_cons]
    exact ⟨term.noSemicolon hterm, by simp [hrange.1], hmarker.kind_ne_semicolon,
      separator.noSemicolon hseparator⟩

theorem Items.noSemicolon (items : Items) (h : items.Valid) : NoSemicolon items.tokens := by
  cases items with
  | nil => exact noSemicolon_nil
  | cons item items =>
    obtain ⟨hitem, hitems⟩ := h
    exact noSemicolon_append.mpr ⟨item.noSemicolon hitem, items.noSemicolon hitems⟩

end

theorem noSemicolon_othersTokens {others : List (Token × Items)}
    (h : ∀ other ∈ others, other.1.kind = .pipe ∧ other.2.Valid) :
    NoSemicolon (othersTokens others) := by
  induction others with
  | nil => exact noSemicolon_nil
  | cons other others ih =>
    obtain ⟨pipe, items⟩ := other
    obtain ⟨⟨hpipe, hitems⟩, hothers⟩ := List.forall_mem_cons.mp h
    rw [othersTokens_cons, noSemicolon_cons, noSemicolon_append]
    exact ⟨by simp_all, items.noSemicolon hitems, ih hothers⟩

theorem Definition.noSemicolon {definition : Definition} (h : definition.Valid) :
    NoSemicolon definition.tokens := by
  simp only [Definition.tokens, noSemicolon_append, noSemicolon_cons]
  exact ⟨⟨by simp [h.name_kind], by simp [h.colon_kind], definition.first.noSemicolon h.first⟩,
    noSemicolon_othersTokens h.others⟩

theorem noSemicolon_definitionsTokens {definitions : List Definition}
    (h : ∀ definition ∈ definitions, definition.Valid) :
    NoSemicolon (definitionsTokens definitions) := by
  intro t ht
  obtain ⟨definition, hdefinition, ht⟩ := List.mem_flatMap.mp ht
  exact Definition.noSemicolon (h definition hdefinition) t ht

theorem noSemicolon_segmentsTokens {segments : List (Token × Token)}
    (h : ∀ segment ∈ segments, segment.1.kind = .doubleColon ∧ segment.2.kind = .word) :
    NoSemicolon (segmentsTokens segments) := by
  intro t ht
  obtain ⟨segment, hsegment, ht⟩ := List.mem_flatMap.mp ht
  obtain ⟨hcolons, hword⟩ := h segment hsegment
  simp only [List.mem_cons, List.not_mem_nil, or_false] at ht
  rcases ht with rfl | rfl <;> simp [*]

/-- No semicolon comes before the one that ends the declaration. -/
theorem Document.noSemicolon_declaration {document : Document} (h : document.Valid) :
    NoSemicolon (document.unitWord :: document.grammarWord :: document.first ::
      segmentsTokens document.segments) := by
  simp only [noSemicolon_cons, h.unitWord.1, h.grammarWord.1, h.first]
  exact ⟨by decide, by decide, by decide, noSemicolon_segmentsTokens h.segments⟩

/-- In a name no word follows another. -/
theorem segmentsTokens_ne {first x y : Token} {segments : List (Token × Token)}
    {before after : List Token}
    (h : ∀ segment ∈ segments, segment.1.kind = .doubleColon ∧ segment.2.kind = .word)
    (hx : x.kind = .word) (hy : y.kind = .word) :
    first :: segmentsTokens segments ≠ before ++ x :: y :: after := by
  induction segments generalizing first before with
  | nil => cases before <;> simp
  | cons segment segments ih =>
    obtain ⟨colons, word⟩ := segment
    obtain ⟨⟨hcolons, -⟩, hsegments⟩ := List.forall_mem_cons.mp h
    rw [segmentsTokens_cons]
    intro heq
    rcases before with _ | ⟨_, _ | ⟨_, before⟩⟩
    · simp_all
    · simp_all
    · simp only [List.cons_append, List.cons.injEq] at heq
      exact ih hsegments heq.2.2

/-- **The declaration comes first.** Where the tokens of a document hold three words in a row, the
segments of a name and a semicolon, these are the document's own. -/
theorem Document.eq_of_declaration {document : Document} (h : document.Valid)
    {earlier later : List Token} {unitWord grammarWord first semicolon : Token}
    {segments : List (Token × Token)} (hunit : unitWord.kind = .word)
    (hgrammar : grammarWord.kind = .word) (hfirst : first.kind = .word)
    (hsegments : ∀ segment ∈ segments, segment.1.kind = .doubleColon ∧ segment.2.kind = .word)
    (hsemicolon : semicolon.kind = .semicolon)
    (heq : document.tokens = earlier ++ unitWord :: grammarWord :: first ::
      (segmentsTokens segments ++ semicolon :: later)) :
    document.first = first ∧ document.segments = segments := by
  have hname := Document.noSemicolon_declaration h
  have hdefinitions := noSemicolon_definitionsTokens h.definitions
  have hregroup : earlier ++ unitWord :: grammarWord :: first ::
      (segmentsTokens segments ++ semicolon :: later) =
        earlier ++ unitWord :: grammarWord :: first :: segmentsTokens segments ++
          semicolon :: later := by simp
  rw [Document.tokens, hregroup, List.append_cons_inj_of_notMem
    (fun hmem => hname _ hmem hsemicolon) (fun hmem => hdefinitions _ hmem hsemicolon)] at heq
  obtain ⟨hwords, -⟩ := heq
  -- were there tokens before these, two of the words would be side by side in the name
  rcases earlier with _ | ⟨_, _ | ⟨_, earlier⟩⟩
  · simp only [List.nil_append, List.cons.injEq] at hwords
    obtain ⟨-, -, rfl, htokens⟩ := hwords
    have hclosed : segmentsTokens document.segments ++ [semicolon] =
        segmentsTokens segments ++ [semicolon] := by rw [htokens]
    obtain ⟨rfl, -⟩ := segments_unique (fun segment hmem => (h.segments segment hmem).1)
      (fun segment hmem => (hsegments segment hmem).1) hsemicolon hsemicolon hclosed
    exact ⟨rfl, rfl⟩
  · simp only [List.cons_append, List.nil_append, List.cons.injEq] at hwords
    have hrow : document.first :: segmentsTokens document.segments =
        [] ++ grammarWord :: first :: segmentsTokens segments := List.cons_eq_cons.mpr hwords.2.2
    exact absurd hrow (segmentsTokens_ne h.segments hgrammar hfirst)
  · simp only [List.cons_append, List.cons.injEq] at hwords
    exact absurd hwords.2.2 (segmentsTokens_ne h.segments hunit hgrammar)

end Derivation

/-! ## The tokens of a declaration -/

section Reads

variable {rest : List Char} {offset : Nat}

/-- What is read first are the first tokens of the whole. -/
theorem Reads.exists_later {a b : List Char} {ts tokens : List Token} (h : Reads b offset a ts)
    (hwhole : Reads [] offset (a ++ b) tokens) : ∃ later, tokens = ts ++ later := by
  have hscan := hwhole.scanFrom_eq
  rw [h.scanFrom_append] at hscan
  cases hlater : scanFrom (offset + Text.byteCount a) b with
  | error e =>
    rw [hlater] at hscan
    cases hscan
  | ok later =>
    rw [hlater] at hscan
    cases hscan
    exact ⟨later, rfl⟩

/-- A text that matches a pattern, and cannot be made longer, is read as one token. -/
theorem Reads.exists_token {kind : TokenKind} {text : List Char} (h : text ∈ Pattern.ofKind kind)
    (hends : Pattern.Ends kind rest) (offset : Nat) :
    ∃ t : Token, Reads rest offset text [t] ∧ t.kind = kind ∧
      t.span = ⟨offset, offset + Text.byteCount text⟩ ∧ t.text.toList = text := by
  have hread : Reads rest offset (text ++ []) [_] := .token h hends .nil
  rw [List.append_nil] at hread
  exact ⟨_, hread, rfl, rfl, String.toList_ofList⟩

/-- A keyword and the blank after it are read as a word. -/
theorem Reads.exists_keyword {word : List Char} (h : word ∈ Pattern.ofKind .word)
    (rest : List Char) (offset : Nat) :
    ∃ t : Token, Reads rest offset (word ++ [' ']) [t] ∧ t.kind = .word := by
  have hends : Pattern.Ends .word ([' '] ++ rest) := by
    rintro c ⟨⟩
    decide
  obtain ⟨t, hread, hkind, -⟩ := Reads.exists_token h hends offset
  exact ⟨t, hread.append (.blank (by decide) .nil), hkind⟩

theorem Pattern.identifier_mem_ofKind {name : List Char} (h : name ∈ identifier) :
    name ∈ ofKind .word := by
  obtain ⟨c, others, hc, hothers, rfl⟩ := mem_identifier.mp h
  exact mem_word.mpr ⟨[], c, others, List.forall_mem_nil _, hc, hothers, rfl⟩

/-- **The tokens of a name** that stands at an offset: words with `::` between them, which make up
the name without anything between them. -/
structure NameTokens (offset : Nat) (name : List Char) (first : Token)
    (segments : List (Token × Token)) : Prop where
  /-- the name begins with a word -/
  first_kind : first.kind = .word
  /-- each other word follows a `::` -/
  segment_kinds : ∀ segment ∈ segments, segment.1.kind = .doubleColon ∧ segment.2.kind = .word
  /-- the first word stands where the name does -/
  start_eq : first.span.start = offset
  /-- the last word ends where the name does -/
  stop_eq : segmentsStop first.span.stop segments = offset + Text.byteCount name
  /-- the texts of the tokens make up the name -/
  texts_eq : (first :: segmentsTokens segments).flatMap (fun t => t.text.toList) = name

/-- The name of a grammar is read as the tokens of a name. -/
theorem exists_nameTokens {name : List Char} (h : name ∈ Pattern.grammarName)
    (hrest : ∀ c ∈ rest.head?, ¬ Text.isIdentRest c) (offset : Nat) :
    ∃ first segments, Reads rest offset name (first :: segmentsTokens segments) ∧
      NameTokens offset name first segments := by
  induction h using Pattern.grammarName_induction generalizing offset with
  | identifier w hw =>
    obtain ⟨t, hread, hkind, hspan, htext⟩ :=
      Reads.exists_token (Pattern.identifier_mem_ofKind hw) hrest offset
    exact ⟨t, [], hread, hkind, List.forall_mem_nil _, by rw [hspan], by rw [hspan]; rfl,
      by simp [htext]⟩
  | join first others hfirst _ ih =>
    have hends : Pattern.Ends .word ("::".toList ++ others ++ rest) := by
      rintro c ⟨⟩
      decide
    obtain ⟨word, hword, hkind, hspan, htext⟩ :=
      Reads.exists_token (Pattern.identifier_mem_ofKind hfirst) hends offset
    have hpattern : "::".toList ∈ Pattern.ofKind .doubleColon := rfl
    have hends' : Pattern.Ends .doubleColon (others ++ rest) := trivial
    obtain ⟨colons, hcolons, hkind', -, htext'⟩ :=
      Reads.exists_token hpattern hends' (offset + Text.byteCount first)
    obtain ⟨second, segments, hread, hsecond, hsegments, hstart, hstop, htexts⟩ :=
      ih (offset + Text.byteCount first + Text.byteCount "::".toList)
    refine ⟨word, (colons, second) :: segments, ?_, hkind,
      List.forall_mem_cons.mpr ⟨⟨hkind', hsecond⟩, hsegments⟩, by rw [hspan], ?_, ?_⟩
    · have hall := hword.append (hcolons.append hread)
      rw [← List.append_assoc] at hall
      exact hall
    · rw [segmentsStop_cons, hstop]
      simp only [Text.byteCount_append, Nat.add_assoc]
    · rw [segmentsTokens_cons, List.flatMap_cons, List.flatMap_cons, htexts, htext, htext',
        List.append_assoc]

end Reads

namespace Header.Form

variable {form form' : Form} {text : String} {before before' name name' : List Char}
  {tokens : List Token}

/-- **The tokens of the declaration of a grammar**, among those of the text: two keywords, the name
and a semicolon. -/
theorem Declares.exists_tokens (h : grammar.Declares text.toList before name)
    (hscan : Token.scan text = .ok tokens) :
    ∃ (earlier later : List Token) (unitWord grammarWord first semicolon : Token)
      (segments : List (Token × Token)),
      tokens = earlier ++ unitWord :: grammarWord :: first ::
        (segmentsTokens segments ++ semicolon :: later) ∧
      unitWord.kind = .word ∧ grammarWord.kind = .word ∧ semicolon.kind = .semicolon ∧
      NameTokens (Text.byteCount (before ++ "unit grammar ".toList)) name first segments := by
  obtain ⟨hbefore, hname, after, hcut⟩ := h
  obtain ⟨earlier, later, rfl, -, hline⟩ := (scanFrom_eq_ok_iff.mp hscan).divide hcut hbefore
  rw [Nat.zero_add] at hline
  have hunitWord : "unit".toList ∈ Pattern.ofKind .word := Pattern.mem_ofKind_iff.mpr (by decide)
  have hgrammarWord : "grammar".toList ∈ Pattern.ofKind .word :=
    Pattern.mem_ofKind_iff.mpr (by decide)
  have hsign : [';'] ∈ Pattern.ofKind .semicolon := rfl
  have hends : Pattern.Ends .semicolon after := trivial
  have hstop : ∀ c ∈ ([';'] ++ after).head?, ¬ Text.isIdentRest c = true := by
    rintro c ⟨⟩
    decide
  -- the line is read piece by piece
  obtain ⟨unitWord, hunit, hunitKind⟩ := Reads.exists_keyword hunitWord
    ("grammar".toList ++ [' '] ++ (name ++ [';']) ++ after) (Text.byteCount before)
  obtain ⟨grammarWord, hgrammar, hgrammarKind⟩ := Reads.exists_keyword hgrammarWord
    (name ++ [';'] ++ after) (Text.byteCount before + Text.byteCount ("unit".toList ++ [' ']))
  obtain ⟨first, segments, hread, htokens⟩ := exists_nameTokens hname hstop
    (Text.byteCount before + Text.byteCount ("unit".toList ++ [' ']) +
      Text.byteCount ("grammar".toList ++ [' ']))
  obtain ⟨semicolon, hsemicolon, hsemicolonKind, -⟩ := Reads.exists_token hsign hends _
  have hdeclaration := hunit.append (hgrammar.append (hread.append hsemicolon))
  obtain ⟨later, rfl⟩ := hdeclaration.exists_later (by simpa [written, grammar] using hline)
  rw [Nat.add_assoc, ← Text.byteCount_append, ← Text.byteCount_append] at htokens
  exact ⟨earlier, later, unitWord, grammarWord, first, semicolon, segments, by simp, hunitKind,
    hgrammarKind, hsemicolonKind, htokens⟩

/-- Two declarations whose semicolons stand at the same place stand on the same line. -/
theorem Declares.eq_of_byteCount_eq (h : form.Declares text.toList before name)
    (h' : form'.Declares text.toList before' name')
    (heq : Text.byteCount (before ++ form.written name) =
      Text.byteCount (before' ++ form'.written name')) :
    before = before' ∧ form.written name = form'.written name' := by
  obtain ⟨hbefore, hname, after, hcut⟩ := h
  obtain ⟨hbefore', hname', after', hcut'⟩ := h'
  refine hbefore.eq_of_append_eq hbefore' (newline_notMem_written hname)
    (newline_notMem_written hname') ?_
  -- both are the part of the text before the semicolon
  calc before ++ form.written name
      = Text.takeBytes (Text.byteCount (before ++ form.written name)) text.toList := by
        rw [hcut, ← List.append_assoc, Text.takeBytes_byteCount_append]
    _ = Text.takeBytes (Text.byteCount (before' ++ form'.written name')) text.toList := by rw [heq]
    _ = before' ++ form'.written name' := by
        rw [hcut', ← List.append_assoc, Text.takeBytes_byteCount_append]

theorem written_grammar_inj (h : grammar.written name = grammar.written name') : name = name' := by
  simpa [written, grammar] using h

theorem written_grammar_ne (name name' : List Char) :
    grammar.written name ≠ actions.written name' := by
  simp [written, grammar, actions]

/-- **The text declares one grammar**, on one line, and no action class. -/
structure DeclaresOnce (cs name : List Char) : Prop where
  /-- one line declares a grammar, and it is `name` -/
  line : ∃ before, grammar.Declares cs before name ∧
    ∀ before' name', grammar.Declares cs before' name' → before' = before ∧ name' = name
  /-- no line declares an action class -/
  no_actions : ∀ before name', ¬ actions.Declares cs before name'

/-- Where there is one semicolon, there is one declaration. -/
theorem Declares.declaresOnce (h : grammar.Declares text.toList before name)
    (hscan : Token.scan text = .ok tokens)
    (hone : ∀ t ∈ tokens, ∀ t' ∈ tokens, t.kind = .semicolon → t'.kind = .semicolon → t = t') :
    DeclaresOnce text.toList name := by
  have hsame : ∀ {form : Form} {before' name'}, form.Declares text.toList before' name' →
      before' = before ∧ form.written name' = grammar.written name := by
    intro form before' name' h'
    obtain ⟨t, ht, hkind, hstart⟩ := h.exists_semicolon hscan
    obtain ⟨t', ht', hkind', hstart'⟩ := h'.exists_semicolon hscan
    obtain rfl := hone t ht t' ht' hkind hkind'
    exact h'.eq_of_byteCount_eq h (hstart'.symm.trans hstart)
  refine ⟨⟨before, h, fun before' name' h' => ?_⟩, fun before' name' h' => ?_⟩
  · obtain ⟨hbefore, hwritten⟩ := hsame h'
    exact ⟨hbefore, written_grammar_inj hwritten⟩
  · exact written_grammar_ne name name' (hsame h').2.symm

end Header.Form

/-! ## The declaration and the parser -/

/-- All semicolons among the tokens of a document are one. -/
theorem Derivation.Document.eq_semicolon {document : Document} (h : document.Valid) {t : Token}
    (ht : t ∈ document.tokens) (hkind : t.kind = .semicolon) : t = document.semicolon := by
  have hsegments := noSemicolon_segmentsTokens h.segments
  have hdefinitions := noSemicolon_definitionsTokens h.definitions
  simp only [Document.tokens, List.cons_append, List.mem_cons, List.mem_append] at ht
  rcases ht with rfl | rfl | rfl | ht | rfl | ht
  · simp [h.unitWord] at hkind
  · simp [h.grammarWord] at hkind
  · simp [h.first] at hkind
  · exact absurd hkind (hsegments t ht)
  · rfl
  · exact absurd hkind (hdefinitions t ht)

section Parse

open Header

variable {text : String} {document : Document} {before name : List Char}

/-- **The name of a grammar is the declared one.** -/
theorem Header.Form.Declares.nameTokens (h : Form.grammar.Declares text.toList before name)
    (hvalid : document.Valid) (hscan : Token.scan text = .ok document.tokens) :
    NameTokens (Text.byteCount (before ++ "unit grammar ".toList)) name document.first
      document.segments := by
  obtain ⟨earlier, later, unitWord, grammarWord, first, semicolon, segments, htokens, hunit,
    hgrammar, hsemicolon, hname⟩ := h.exists_tokens hscan
  obtain ⟨rfl, rfl⟩ := Document.eq_of_declaration hvalid hunit hgrammar hname.first_kind
    hname.segment_kinds hsemicolon htokens
  exact hname

theorem Header.Form.Declares.name_grammar (h : Form.grammar.Declares text.toList before name)
    (hvalid : document.Valid) (hscan : Token.scan text = .ok document.tokens) :
    (document.grammar text).name = String.ofList name := by
  have hname := h.nameTokens hvalid hscan
  obtain ⟨-, -, after, hcut⟩ := h
  have htext : text.toList = before ++ "unit grammar ".toList ++ name ++ ';' :: after := by
    simpa [Form.written, Form.grammar] using hcut
  rw [Document.grammar, hname.start_eq, hname.stop_eq, htext, Text.slice_append]

/-- Where a grammar is declared and parsed, it is declared once and has the declared name. -/
theorem declaresOnce_of_parse {grammar : Grammar} (hkind : kind? text = some .grammar)
    (hparse : Grammar.parse text = .ok grammar) :
    Form.DeclaresOnce text.toList grammar.name.toList := by
  obtain ⟨before, name, h⟩ := kind?_eq_grammar_iff.mp hkind
  obtain ⟨document, hvalid, hscan, rfl⟩ := Grammar.exists_document_of_parse hparse
  rw [h.name_grammar hvalid hscan, String.toList_ofList]
  refine h.declaresOnce hscan ?_
  intro t ht t' ht' hkind hkind'
  rw [Document.eq_semicolon hvalid ht hkind, Document.eq_semicolon hvalid ht' hkind']

end Parse

namespace Model

open Header

variable {text : String}

theorem parse_of_grammar (h : kind? text = some .grammar) :
    Model.parse text = (Grammar.parse text).map fun grammar => some (.grammar grammar) := by
  rw [Model.parse, h]

/-- A text that declares an action class, and no grammar, always has a model. -/
theorem exists_parse_of_action (h : kind? text = some .action) :
    ∃ actions, Model.parse text = .ok (some (.action actions)) := by
  obtain ⟨-, before, name, hdeclares⟩ := kind?_eq_action_iff.mp h
  have hline : ((Text.lines text).any fun line => (actions? line.chars).isSome) = true :=
    any_actions?_iff.mpr ⟨before, name, hdeclares⟩
  obtain ⟨line, hmem, hsome⟩ := List.any_eq_true.mp hline
  obtain ⟨found, hfound⟩ := Option.isSome_iff_exists.mp hsome
  have hname : (actionsName? text).isSome := by
    rw [actionsName?, List.findSome?_isSome_iff]
    exact ⟨line, hmem, by simp [hfound]⟩
  obtain ⟨name, hname⟩ := Option.isSome_iff_exists.mp hname
  refine ⟨⟨name, ⟨0, Text.byteCount text.toList⟩, Method.ofText text⟩, ?_⟩
  rw [Model.parse, h]
  simp [Actions.ofText?, hname]

/-- What becomes of a text of each kind. -/
theorem parse_cases_kind (text : String) :
    (kind? text = none ∧ Model.parse text = .ok none) ∨
    (kind? text = some .action ∧ ∃ actions, Model.parse text = .ok (some (.action actions))) ∨
    (kind? text = some .grammar ∧
      ((∃ e, Model.parse text = .error e) ∨
        ∃ grammar, Grammar.parse text = .ok grammar ∧
          Model.parse text = .ok (some (.grammar grammar)))) := by
  rcases hkind : kind? text with _ | _ | _
  · exact .inl ⟨rfl, by rw [Model.parse, hkind]⟩
  · refine .inr (.inr ⟨rfl, ?_⟩)
    rw [parse_of_grammar hkind]
    cases hparse : Grammar.parse text with
    | error e => exact .inl ⟨e, rfl⟩
    | ok grammar => exact .inr ⟨grammar, rfl, rfl⟩
  · exact .inr (.inl ⟨rfl, exists_parse_of_action hkind⟩)

/-- **What the declarations of a text have to do with its model.** -/
structure FollowsDeclarations (text : String) : Prop where
  /-- the text is a grammar exactly if a line declares one -/
  grammar_iff : kind? text = some .grammar ↔
    ∃ before name, Form.grammar.Declares text.toList before name
  /-- it is an action class exactly if a line declares one and none declares a grammar -/
  action_iff : kind? text = some .action ↔
    (¬ ∃ before name, Form.grammar.Declares text.toList before name) ∧
      ∃ before name, Form.actions.Declares text.toList before name
  /-- a text that is neither has no model, which is not an error; any other text has one or fails -/
  none_iff : Model.parse text = .ok none ↔ kind? text = none
  /-- only a grammar fails to parse -/
  of_error : ∀ e, Model.parse text = .error e → kind? text = some .grammar
  /-- the model is of the kind of the text -/
  of_model : ∀ model, Model.parse text = .ok (some model) → kind? text = some model.kind
  /-- a grammar that is parsed is declared on one line, which gives its name, and no line declares
  an action class -/
  of_grammar : ∀ grammar, Model.parse text = .ok (some (.grammar grammar)) →
    Form.DeclaresOnce text.toList grammar.name.toList
  /-- a text that declares a grammar and an action class fails to parse -/
  both : ∀ before name before' name', Form.grammar.Declares text.toList before name →
    Form.actions.Declares text.toList before' name' → ∃ e, Model.parse text = .error e
  /-- a text that declares a grammar on two lines fails to parse -/
  twice : ∀ before name before' name', Form.grammar.Declares text.toList before name →
    Form.grammar.Declares text.toList before' name' → before ≠ before' →
    ∃ e, Model.parse text = .error e

/-- A text that declares a grammar fails to parse unless that is all it declares. -/
theorem exists_error_of_declares {before name : List Char}
    (h : Form.grammar.Declares text.toList before name)
    (hmore : ∀ name, ¬ Form.DeclaresOnce text.toList name) : ∃ e, Model.parse text = .error e := by
  have hkind := kind?_eq_grammar_iff.mpr ⟨before, name, h⟩
  rw [parse_of_grammar hkind]
  cases hparse : Grammar.parse text with
  | error e => exact ⟨e, rfl⟩
  | ok grammar => exact absurd (declaresOnce_of_parse hkind hparse) (hmore _)

/-- **Detection and parsing agree** on the declarations of every text. -/
theorem followsDeclarations (text : String) : FollowsDeclarations text where
  grammar_iff := kind?_eq_grammar_iff
  action_iff := kind?_eq_action_iff
  none_iff := by
    obtain ⟨hkind, hparse⟩ | ⟨hkind, actions, hparse⟩ | ⟨hkind, ⟨e, hparse⟩ | ⟨_, -, hparse⟩⟩ :=
      parse_cases_kind text <;> simp [hkind, hparse]
  of_error := by
    intro e h
    obtain ⟨hkind, hparse⟩ | ⟨hkind, actions, hparse⟩ | ⟨hkind, -⟩ := parse_cases_kind text
    · simp [hparse] at h
    · simp [hparse] at h
    · exact hkind
  of_model := by
    intro model h
    obtain ⟨hkind, hparse⟩ | ⟨hkind, actions, hparse⟩ | ⟨hkind, ⟨e, hparse⟩ | ⟨_, -, hparse⟩⟩ :=
      parse_cases_kind text <;> rw [hparse] at h <;> cases h
    · exact hkind
    · exact hkind
  of_grammar := by
    intro grammar h
    obtain ⟨-, hparse⟩ | ⟨-, _, hparse⟩ | ⟨hkind, ⟨_, hparse⟩ | ⟨_, hgrammar, hparse⟩⟩ :=
      parse_cases_kind text <;> rw [hparse] at h <;> cases h
    exact declaresOnce_of_parse hkind hgrammar
  both := by
    intro before name before' name' h h'
    refine exists_error_of_declares h fun _ honce => ?_
    exact honce.no_actions before' name' h'
  twice := by
    intro before name before' name' h h' hne
    refine exists_error_of_declares h fun _ honce => ?_
    obtain ⟨line, -, hline⟩ := honce.line
    exact hne ((hline before name h).1.trans (hline before' name' h').1.symm)

/-- A grammar that is declared behind a comment, with a name of two segments; and a text that fails
to parse because it declares an action class too. -/
theorem followsDeclarations_of_late_declaration :
    (∃ grammar, Model.parse "# first\nunit grammar A::B; a: 'x'" = .ok (some (.grammar grammar)) ∧
      grammar.name = "A::B" ∧
      Form.DeclaresOnce "# first\nunit grammar A::B; a: 'x'".toList "A::B".toList) ∧
    ∃ e, Model.parse "unit grammar G;\nunit class A is Actions;\n" = .error e := by
  have hparse : (Model.parse "# first\nunit grammar A::B; a: 'x'").map
      (Option.map fun model => (model.kind, model.name)) = .ok (some (.grammar, "A::B")) := by
    decide +kernel
  refine ⟨?_, ?_⟩
  · cases hresult : Model.parse "# first\nunit grammar A::B; a: 'x'" with
    | error e => simp [hresult, Except.map] at hparse
    | ok model =>
      match model with
      | none => simp [hresult, Except.map] at hparse
      | some (.action _) => simp [hresult, Except.map, Model.kind] at hparse
      | some (.grammar found) =>
        have hname : found.name = "A::B" := by
          simpa [hresult, Except.map, Model.kind, Model.name] using hparse
        have honce := (followsDeclarations _).of_grammar found hresult
        rw [hname] at honce
        exact ⟨found, rfl, hname, honce⟩
  · refine (followsDeclarations _).both [] "G".toList "unit grammar G;\n".toList "A".toList
      ⟨.inl rfl, ?_, "\nunit class A is Actions;\n".toList, by decide +kernel⟩
      ⟨.inr ⟨"unit grammar G;".toList, rfl⟩, ?_, "\n".toList, by decide +kernel⟩
    · exact Pattern.identifier_mem_grammarName
        (Pattern.mem_identifier.mpr ⟨'G', [], by decide, List.forall_mem_nil _, rfl⟩)
    · exact Pattern.mem_className.mpr ⟨by decide, List.forall_mem_singleton.mpr (by decide)⟩

end Model

end FanServer
