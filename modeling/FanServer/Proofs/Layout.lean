import FanServer.Proofs.DeclarationTokens
import Mathlib.Tactic.IntervalCases

/-!
# Layout carries no meaning

Blanks, line breaks and comments lie between the tokens of a text. They move the tokens, and all
they can do besides is to part a repetition range from the element before it. Two texts whose tokens
are the same but for that are **parsed alike**: into grammars that differ in their spans only, or
with errors that differ in the place they blame only.

* `withoutSpans` — a model, or an error, with its places erased;
* `SameUpToLayout` — the tokens of the two texts;
* `AlikeFrom` — the same, for the tokens that two readers still have before them. It keeps in hand
  where the tokens already read end, for the sake of a range that may follow;
* `Agree` — what two readers give. It is shown reader by reader, each from those it calls.

The name of a grammar is the one thing that is cut out of the text and not read off the tokens. It
is free of layout because it is the name on the line of the declaration.
-/

open FanServer.Derivation

namespace FanServer

/-! ## Models without their spans -/

mutual

/-- The element, with every span in it erased. -/
def Rule.withoutSpans : Rule → Rule
  | ⟨kind, _, quantifier⟩ => ⟨kind.withoutSpans, default, Quantifier.optionWithoutSpans quantifier⟩

/-- What an element is, with every span in it erased. -/
def RuleKind.withoutSpans : RuleKind → RuleKind
  | .sequence parts => .sequence (Rule.listWithoutSpans parts)
  | .marker marker => .marker marker
  | .reference target modifiers => .reference target modifiers
  | .literal form value => .literal form value

/-- The elements of a sequence, with every span in them erased. -/
def Rule.listWithoutSpans : List Rule → List Rule
  | [] => []
  | rule :: rules => rule.withoutSpans :: Rule.listWithoutSpans rules

/-- A repetition, with every span in it erased. -/
def Quantifier.optionWithoutSpans : Option Quantifier → Option Quantifier
  | none => none
  | some ⟨_, range, separator⟩ => some ⟨default, range, Separator.optionWithoutSpans separator⟩

/-- A separator, with every span in it erased. -/
def Separator.optionWithoutSpans : Option Separator → Option Separator
  | none => none
  | some ⟨_, marker, rule⟩ => some ⟨default, marker, rule.withoutSpans⟩

end

/-- The definition, with every span in it erased. -/
def RuleDef.withoutSpans (definition : RuleDef) : RuleDef :=
  ⟨⟨definition.name.text, default⟩, default, Rule.listWithoutSpans definition.alternatives⟩

/-- The grammar, with every span in it erased. -/
def Grammar.withoutSpans (grammar : Grammar) : Grammar :=
  ⟨grammar.name, default, grammar.rules.map RuleDef.withoutSpans⟩

/-- The error, with the place it blames erased. What was expected and what was found there stays. -/
def SyntaxError.withoutSpans : SyntaxError → SyntaxError
  | unexpectedCharacter text _ => unexpectedCharacter text default
  | unexpectedToken expected found _ => unexpectedToken expected found default
  | unexpectedEnd expected _ => unexpectedEnd expected 0
  | missingHeader => missingHeader
  | detachedQuantifier _ => detachedQuantifier default
  | nestingTooDeep limit _ => nestingTooDeep limit default

/-! ## Tokens that differ in their layout -/

/-- What a token is, wherever it stands. -/
def Token.content (t : Token) : TokenKind × String :=
  (t.kind, t.text)

/-- The token after the one at the index stands directly behind it. -/
def Token.Touches (tokens : List Token) (i : Nat) : Prop :=
  ∃ before after, tokens[i]? = some before ∧ tokens[i + 1]? = some after ∧
    after.span.start = before.span.stop

/-- **The tokens are the same up to layout**: one by one of the same kind and text, and the ranges
that touch the token before them are the same. -/
structure Token.SameUpToLayout (ts us : List Token) : Prop where
  /-- the tokens are of the same kinds and texts -/
  contents : ts.map content = us.map content
  /-- a range touches the token before it among the first tokens if it does among the others -/
  touches : ∀ i t, ts[i + 1]? = some t → t.kind = .quantifier → (Touches ts i ↔ Touches us i)

theorem Token.SameUpToLayout.tail {t u : Token} {ts us : List Token}
    (h : SameUpToLayout (t :: ts) (u :: us)) : SameUpToLayout ts us where
  contents := (List.cons.inj h.contents).2
  touches i next hnext hkind := h.touches (i + 1) next hnext hkind

theorem Token.touches_zero_iff {t u : Token} {ts : List Token} :
    Touches (t :: u :: ts) 0 ↔ u.span.start = t.span.stop := by
  refine ⟨?_, ?_⟩
  · rintro ⟨_, _, ⟨⟩, ⟨⟩, h⟩
    exact h
  · intro h
    exact ⟨t, u, rfl, rfl, h⟩

namespace Parse

/-- The tokens are the same up to layout, behind tokens that end at `a` and at `b`. -/
inductive AlikeFrom : Nat → Nat → List Token → List Token → Prop where
  /-- no tokens are left -/
  | nil (a b : Nat) : AlikeFrom a b [] []
  /-- the next two tokens are the same, and either both or none of them is a range that touches what
  was before -/
  | cons {a b : Nat} {t u : Token} {ts us : List Token} (content : t.content = u.content)
      (touches : t.kind = .quantifier → (t.span.start = a ↔ u.span.start = b))
      (rest : AlikeFrom t.span.stop u.span.stop ts us) : AlikeFrom a b (t :: ts) (u :: us)

/-- The tokens are the same up to layout, whatever was before them. -/
def Alike (ts us : List Token) : Prop :=
  ∃ a b, AlikeFrom a b ts us

section Tokens

variable {a b : Nat} {t u : Token} {ts us : List Token}

theorem kind_eq (h : t.content = u.content) : t.kind = u.kind :=
  congrArg Prod.fst h

theorem text_eq (h : t.content = u.content) : t.text = u.text :=
  congrArg Prod.snd h

theorem AlikeFrom.alike (h : AlikeFrom a b ts us) : Alike ts us :=
  ⟨a, b, h⟩

theorem AlikeFrom.length_eq (h : AlikeFrom a b ts us) : ts.length = us.length := by
  induction h with
  | nil => rfl
  | cons _ _ _ ih => rw [List.length_cons, List.length_cons, ih]

theorem Alike.length_eq (h : Alike ts us) : ts.length = us.length := by
  obtain ⟨a, b, h⟩ := h
  exact h.length_eq

theorem Alike.isEmpty_eq (h : Alike ts us) : ts.isEmpty = us.isEmpty := by
  rw [Bool.eq_iff_iff, List.isEmpty_iff_length_eq_zero, List.isEmpty_iff_length_eq_zero,
    h.length_eq]

theorem leafKind?_eq (h : t.content = u.content) : leafKind? t = leafKind? u := by
  rw [leafKind?, leafKind?, kind_eq h, text_eq h]

theorem isSeparatorMarker_eq (h : t.content = u.content) :
    isSeparatorMarker t = isSeparatorMarker u := by
  rw [isSeparatorMarker, isSeparatorMarker, kind_eq h]

/-- Whether items end depends on the kinds of two tokens. -/
theorem Alike.endsItems_eq (h : Alike ts us) : endsItems ts = endsItems us := by
  obtain ⟨a, b, h⟩ := h
  cases h with
  | nil => rfl
  | cons hfirst _ hrest =>
    cases hrest with
    | nil => rw [endsItems, endsItems, kind_eq hfirst]
    | cons hsecond _ _ => rw [endsItems, endsItems, kind_eq hfirst, kind_eq hsecond]

end Tokens

/-- Tokens that are the same up to layout are alike behind any place that treats the first of them
alike. -/
theorem AlikeFrom.of_sameUpToLayout {a b : Nat} {ts us : List Token}
    (h : Token.SameUpToLayout ts us)
    (hfirst : ∀ t ∈ ts.head?, ∀ u ∈ us.head?, t.kind = .quantifier →
      (t.span.start = a ↔ u.span.start = b)) : AlikeFrom a b ts us := by
  induction ts generalizing a b us with
  | nil =>
    have hnil : us = [] := List.map_eq_nil_iff.mp h.contents.symm
    rw [hnil]
    exact .nil a b
  | cons t ts ih =>
    obtain ⟨u, us, rfl⟩ : ∃ u rest, us = u :: rest := by
      cases us with
      | nil => cases h.contents
      | cons u us => exact ⟨u, us, rfl⟩
    refine .cons (List.cons.inj h.contents).1 (hfirst t rfl u rfl) (ih h.tail ?_)
    intro next hnext next' hnext' hkind
    obtain ⟨ts, rfl⟩ : ∃ rest, ts = next :: rest := List.head?_eq_some_iff.mp hnext
    obtain ⟨us, rfl⟩ : ∃ rest, us = next' :: rest := List.head?_eq_some_iff.mp hnext'
    have htouches := h.touches 0 next rfl hkind
    rwa [Token.touches_zero_iff, Token.touches_zero_iff] at htouches

/-- A range that comes first touches nothing. -/
theorem Alike.of_sameUpToLayout {ts us : List Token} (h : Token.SameUpToLayout ts us) :
    Alike ts us := by
  refine ⟨(ts.head?.elim 0 fun t => t.span.start) + 1, (us.head?.elim 0 fun u => u.span.start) + 1,
    .of_sameUpToLayout h ?_⟩
  intro t ht u hu _
  rw [Option.mem_def] at ht hu
  simp [ht, hu]

/-! ## Readings that agree -/

/-- **The outcomes agree**: both are errors, for one reason, or both are results, related by `R`. -/
def Agree {α β : Type} (R : α → β → Prop) (x : Except SyntaxError α) (y : Except SyntaxError β) :
    Prop :=
  (∃ e e', x = .error e ∧ y = .error e' ∧ e.withoutSpans = e'.withoutSpans) ∨
    ∃ r r', x = .ok r ∧ y = .ok r' ∧ R r r'

/-- What is read is the same as far as the view of it goes, and so is what is left. -/
def Same {α β : Type} (view : α → β) : α × List Token → α × List Token → Prop
  | (a, ts), (b, us) => view a = view b ∧ Alike ts us

/-- What is read is the same as far as the view of it goes, and what is left is alike behind where
it ends. -/
def SameUpTo {α β : Type} (view : α → β) (span : α → Span) :
    α × List Token → α × List Token → Prop
  | (a, ts), (b, us) => view a = view b ∧ AlikeFrom (span a).stop (span b).stop ts us

section Outcomes

variable {α β γ δ : Type} {R : α → β → Prop} {S : γ → δ → Prop} {x : Except SyntaxError α}
  {y : Except SyntaxError β}

theorem Agree.of_ok {r : α} {r' : β} (h : R r r') : Agree R (.ok r) (.ok r') :=
  .inr ⟨r, r', rfl, rfl, h⟩

theorem Agree.of_error {e e' : SyntaxError} (h : e.withoutSpans = e'.withoutSpans) :
    Agree R (.error e) (.error e') :=
  .inl ⟨e, e', rfl, rfl, h⟩

/-- What is to be shown of outcomes that agree is shown of errors and of results. -/
@[elab_as_elim]
theorem Agree.elim {motive : Except SyntaxError α → Except SyntaxError β → Prop} (h : Agree R x y)
    (error : ∀ e e', e.withoutSpans = e'.withoutSpans → motive (.error e) (.error e'))
    (ok : ∀ r r', R r r' → motive (.ok r) (.ok r')) : motive x y := by
  obtain ⟨e, e', rfl, rfl, he⟩ | ⟨r, r', rfl, rfl, hr⟩ := h
  · exact error e e' he
  · exact ok r r' hr

/-- What goes on alike from results that are alike is alike. -/
theorem Agree.bind {f : α → Except SyntaxError γ} {g : β → Except SyntaxError δ} (h : Agree R x y)
    (hnext : ∀ r r', R r r' → Agree S (f r) (g r')) : Agree S (x >>= f) (y >>= g) :=
  h.elim (fun _ _ he => .of_error he) hnext

end Outcomes

section Elements

/-- The token that is called for, where it is found, is the same. -/
theorem expect_agree {ts us : List Token} (stop stop' : Nat) (kind : TokenKind)
    (expected : Expectation) (h : Alike ts us) :
    Agree (SameUpTo Token.content Token.span)
      (expect stop kind expected ts) (expect stop' kind expected us) := by
  obtain ⟨a, b, h⟩ := h
  cases h with
  | nil => exact .of_error rfl
  | cons hcontent _ hrest =>
    simp only [expect, kind_eq hcontent]
    split_ifs with hkind
    · exact .of_ok ⟨hcontent, hrest⟩
    · refine .of_error ?_
      rw [SyntaxError.withoutSpans, SyntaxError.withoutSpans, text_eq hcontent]

/-- Two readers of terms agree. The tokens they leave are alike behind the ends of the terms, which
is where a range would have to stand. -/
def AgreeOnTerms (term term' : Reader Rule) : Prop :=
  ∀ ts us, Alike ts us →
    Agree (SameUpTo Rule.withoutSpans Rule.span) (term ts) (term' us)

variable {term term' : Reader Rule}

theorem separator_agree {ts us : List Token} (hterm : AgreeOnTerms term term')
    (h : Alike ts us) :
    Agree (Same Separator.optionWithoutSpans) (separator term ts) (separator term' us) := by
  have halike := h
  obtain ⟨a, b, h⟩ := h
  cases h with
  | nil => exact .of_ok ⟨rfl, halike⟩
  | cons hcontent _ hrest =>
    simp only [separator, isSeparatorMarker_eq hcontent]
    split_ifs with hmarker
    · refine (hterm _ _ hrest.alike).elim (fun _ _ he => .of_error he) ?_
      rintro ⟨rule, left⟩ ⟨rule', left'⟩ ⟨hrule, hleft⟩
      refine .of_ok ⟨?_, hleft.alike⟩
      simp only [Separator.optionWithoutSpans, text_eq hcontent, hrule]
    · exact .of_ok ⟨rfl, halike⟩

theorem withoutSpans_repeated (rule : Rule) (range : Token) (clause : Option Separator) :
    (rule.repeated (quantifierOf range clause)).withoutSpans =
      ⟨rule.withoutSpans.kind, default, some ⟨default,
        String.ofList (Text.trimBlank (inside range.text)),
        Separator.optionWithoutSpans clause⟩⟩ := by
  obtain ⟨kind, span, quantifier⟩ := rule
  simp only [Rule.repeated, quantifierOf, Rule.withoutSpans, Quantifier.optionWithoutSpans]

/-- Here the touching matters: a range that stands apart is an error in both readings. -/
theorem item_agree {ts us : List Token} (hterm : AgreeOnTerms term term')
    (h : Alike ts us) :
    Agree (Same Rule.withoutSpans) (item term ts) (item term' us) := by
  rw [item, item]
  refine (hterm _ _ h).elim (fun _ _ he => .of_error he) ?_
  rintro ⟨rule, left⟩ ⟨rule', left'⟩ ⟨hrule, hleft⟩
  have halike := hleft.alike
  cases hleft with
  | nil => exact .of_ok ⟨hrule, halike⟩
  | @cons _ _ t u _ _ hcontent htouches hrest =>
    by_cases hkind : t.kind = .quantifier
    · have hkind' : u.kind = .quantifier := (kind_eq hcontent).symm.trans hkind
      simp only [hkind, hkind', htouches hkind, if_true]
      split_ifs with hstart
      · refine (separator_agree hterm hrest.alike).elim (fun _ _ he => .of_error he) ?_
        rintro ⟨clause, left⟩ ⟨clause', left'⟩ ⟨hclause, hleft⟩
        refine .of_ok ⟨?_, hleft⟩
        rw [withoutSpans_repeated, withoutSpans_repeated, hrule, hclause, text_eq hcontent]
      · exact .of_error rfl
    · have hkind' : ¬ u.kind = .quantifier := (kind_eq hcontent) ▸ hkind
      simp only [hkind, hkind', if_false]
      exact .of_ok ⟨hrule, halike⟩

/-- A loop goes on in both readings or in none, because as many tokens are left. -/
theorem items_agree {ts us : List Token} (hterm : AgreeOnTerms term term')
    (h : Alike ts us) :
    Agree (Same Rule.listWithoutSpans) (items term ts) (items term' us) := by
  rw [items.eq_def term ts, items.eq_def term' us, h.endsItems_eq]
  split_ifs with hends
  · exact .of_ok ⟨rfl, h⟩
  · refine (item_agree hterm h).elim (fun _ _ he => .of_error he) ?_
    rintro ⟨rule, left⟩ ⟨rule', left'⟩ ⟨hrule, hleft⟩
    simp only [h.length_eq, hleft.length_eq]
    split_ifs with hlength
    · have hshorter : left.length < ts.length := by
        rw [h.length_eq, hleft.length_eq]
        exact hlength
      refine (items_agree hterm hleft).elim (fun _ _ he => .of_error he) ?_
      rintro ⟨rules, left⟩ ⟨rules', left'⟩ ⟨hrules, hleft⟩
      refine .of_ok ⟨?_, hleft⟩
      simp only [Rule.listWithoutSpans, hrule, hrules]
    · refine .of_ok ⟨?_, hleft⟩
      simp only [Rule.listWithoutSpans, hrule]
termination_by ts.length

theorem withoutSpans_plain (kind : RuleKind) (span : Span) :
    (Rule.plain kind span).withoutSpans = ⟨kind.withoutSpans, default, none⟩ := by
  rw [Rule.plain, Rule.withoutSpans, Quantifier.optionWithoutSpans]

/-- **Terms are read alike.** The induction is on the levels: the items of a group are read by terms
one level further in. -/
theorem term_agree (stop stop' levels : Nat) :
    AgreeOnTerms (Parse.term stop levels) (Parse.term stop' levels) := by
  intro ts us h
  obtain ⟨a, b, h⟩ := h
  unfold Parse.term
  cases h with
  | nil => exact .of_error rfl
  | @cons _ _ t u _ _ hcontent _ hrest =>
    simp only [leafKind?_eq hcontent, kind_eq hcontent]
    cases leafKind? u with
    | some kind =>
      refine .of_ok ⟨?_, hrest⟩
      rw [withoutSpans_plain, withoutSpans_plain]
    | none =>
      simp only
      split_ifs with hkind
      · cases levels with
        | zero => exact .of_error rfl
        | succ inner =>
          dsimp only
          refine (items_agree (term_agree stop stop' inner) hrest.alike).elim
            (fun _ _ he => .of_error he) ?_
          rintro ⟨parts, left⟩ ⟨parts', left'⟩ ⟨hparts, hleft⟩
          dsimp only
          refine (expect_agree stop stop' .closeBracket .closeBracket hleft).elim
            (fun _ _ he => .of_error he) ?_
          rintro ⟨closing, left⟩ ⟨closing', left'⟩ ⟨-, hleft⟩
          refine .of_ok ⟨?_, hleft⟩
          simp only [withoutSpans_plain, RuleKind.withoutSpans, hparts]
      · refine .of_error ?_
        rw [SyntaxError.withoutSpans, SyntaxError.withoutSpans, text_eq hcontent]

end Elements

section Definitions

theorem alternative_agree {ts us : List Token} (stop stop' anchor anchor' : Nat) (h : Alike ts us) :
    Agree (Same Rule.withoutSpans) (alternative stop anchor ts) (alternative stop' anchor' us) := by
  refine (items_agree (term_agree stop stop' maxNesting) h).bind ?_
  rintro ⟨parts, left⟩ ⟨parts', left'⟩ ⟨hparts, hleft⟩
  refine .of_ok ⟨?_, hleft⟩
  simp only [withoutSpans_plain, RuleKind.withoutSpans, hparts]

theorem alternatives_agree {ts us : List Token} (stop stop' anchor anchor' : Nat)
    (h : Alike ts us) :
    Agree (Same Rule.listWithoutSpans) (alternatives stop anchor ts)
      (alternatives stop' anchor' us) := by
  rw [alternatives.eq_def stop, alternatives.eq_def stop']
  refine (alternative_agree stop stop' anchor anchor' h).elim (fun _ _ he => .of_error he) ?_
  rintro ⟨first, left⟩ ⟨first', left'⟩ ⟨hfirst, hleft⟩
  have halike := hleft
  obtain ⟨a, b, hleft⟩ := hleft
  cases hleft with
  | nil =>
    refine .of_ok ⟨?_, halike⟩
    simp only [Rule.listWithoutSpans, hfirst]
  | @cons _ _ t u rest rest' hcontent _ hrest =>
    simp only [kind_eq hcontent, hrest.length_eq, h.length_eq]
    split_ifs with hgoes
    · have hshorter : rest.length < ts.length := by
        rw [h.length_eq, hrest.length_eq]
        exact hgoes.2
      refine (alternatives_agree stop stop' t.span.stop u.span.stop hrest.alike).elim
        (fun _ _ he => .of_error he) ?_
      rintro ⟨others, left⟩ ⟨others', left'⟩ ⟨hothers, hleft⟩
      refine .of_ok ⟨?_, hleft⟩
      simp only [Rule.listWithoutSpans, hfirst, hothers]
    · refine .of_ok ⟨?_, halike⟩
      simp only [Rule.listWithoutSpans, hfirst]
termination_by ts.length

variable {ts us : List Token}

theorem ruleName_agree (stop stop' : Nat) (h : Alike ts us) :
    Agree (Same Identifier.text) (ruleName stop ts) (ruleName stop' us) := by
  refine (expect_agree stop stop' .word .ruleName h).bind ?_
  rintro ⟨t, left⟩ ⟨u, left'⟩ ⟨hcontent, hleft⟩
  simp only [text_eq hcontent]
  split_ifs with hmodifier
  · refine .of_error ?_
    rw [SyntaxError.withoutSpans, SyntaxError.withoutSpans]
  · exact .of_ok ⟨rfl, hleft.alike⟩

theorem ruleDef_agree (stop stop' : Nat) (h : Alike ts us) :
    Agree (Same RuleDef.withoutSpans) (ruleDef stop ts) (ruleDef stop' us) := by
  refine (ruleName_agree stop stop' h).bind ?_
  rintro ⟨name, left⟩ ⟨name', left'⟩ ⟨hname, hleft⟩
  refine (expect_agree stop stop' .colon .colon hleft).bind ?_
  rintro ⟨colon, left⟩ ⟨colon', left'⟩ ⟨-, hleft⟩
  refine (alternatives_agree stop stop' colon.span.stop colon'.span.stop hleft.alike).bind ?_
  rintro ⟨rules, left⟩ ⟨rules', left'⟩ ⟨hrules, hleft⟩
  refine .of_ok ⟨?_, hleft⟩
  simp only [RuleDef.withoutSpans, hname, hrules]

theorem ruleDefs_agree {ts us : List Token} (stop stop' : Nat) (h : Alike ts us) :
    Agree (fun rules rules' => rules.map RuleDef.withoutSpans = rules'.map RuleDef.withoutSpans)
      (ruleDefs stop ts) (ruleDefs stop' us) := by
  rw [ruleDefs.eq_def stop, ruleDefs.eq_def stop', h.isEmpty_eq]
  split_ifs with hempty
  · exact .of_ok rfl
  · refine (ruleDef_agree stop stop' h).elim (fun _ _ he => .of_error he) ?_
    rintro ⟨definition, left⟩ ⟨definition', left'⟩ ⟨hdefinition, hleft⟩
    simp only [h.length_eq, hleft.length_eq]
    split_ifs with hlength
    · have hshorter : left.length < ts.length := by
        rw [h.length_eq, hleft.length_eq]
        exact hlength
      refine (ruleDefs_agree stop stop' hleft).elim (fun _ _ he => .of_error he) ?_
      intro rules rules' hrules
      refine .of_ok ?_
      simp only [List.map_cons, hdefinition, hrules]
    · refine .of_ok ?_
      simp only [List.map_cons, hdefinition]
termination_by ts.length

end Definitions

section Declaration

variable {ts us : List Token}

theorem keyword_agree (text : String) (h : Alike ts us) :
    Agree Alike (keyword text ts) (keyword text us) := by
  obtain ⟨a, b, h⟩ := h
  cases h with
  | nil => exact .of_error rfl
  | cons hcontent _ hrest =>
    simp only [keyword, kind_eq hcontent, text_eq hcontent]
    split_ifs with hword
    · exact .of_ok hrest.alike
    · exact .of_error rfl

/-- Where the name ends differs; that it does, and what is left, is the same. -/
theorem nameSegments_agree {ts us : List Token} (stop stop' nameStop nameStop' : Nat)
    (h : Alike ts us) :
    Agree (Same fun _ => ()) (nameSegments stop nameStop ts)
      (nameSegments stop' nameStop' us) := by
  rw [nameSegments.eq_def stop, nameSegments.eq_def stop']
  have halike := h
  obtain ⟨a, b, h⟩ := h
  cases h with
  | nil => exact .of_ok ⟨rfl, halike⟩
  | @cons _ _ t u rest rest' hcontent _ hrest =>
    simp only [kind_eq hcontent]
    split_ifs with hcolons
    · -- the segments that are read are needed by name, for what is left behind them
      obtain ⟨e, e', hx, hy, he⟩ | ⟨⟨segment, left⟩, ⟨segment', left'⟩, hx, hy, -, hleft⟩ :=
        expect_agree stop stop' .word .nameSegment hrest.alike
      · simp only [hx, hy]
        exact .of_error he
      · simp only [hx, hy]
        obtain ⟨-, rfl⟩ := expect_eq_ok_iff.mp hx
        obtain ⟨-, rfl⟩ := expect_eq_ok_iff.mp hy
        exact nameSegments_agree stop stop' segment.span.stop segment'.span.stop hleft.alike
    · exact .of_ok ⟨rfl, halike⟩
termination_by ts.length

theorem header_agree (stop stop' : Nat) (h : Alike ts us) :
    Agree (Same fun _ => ()) (header stop ts) (header stop' us) := by
  refine (keyword_agree "unit" h).bind fun _ _ hunit => ?_
  refine (keyword_agree "grammar" hunit).bind fun _ _ hgrammar => ?_
  refine (expect_agree stop stop' .word .grammarName hgrammar).bind ?_
  rintro ⟨first, left⟩ ⟨first', left'⟩ ⟨-, hleft⟩
  refine (nameSegments_agree stop stop' first.span.stop first'.span.stop hleft.alike).bind ?_
  rintro ⟨nameStop, left⟩ ⟨nameStop', left'⟩ ⟨-, hleft⟩
  refine (expect_agree stop stop' .semicolon .semicolon hleft).bind ?_
  rintro ⟨semicolon, left⟩ ⟨semicolon', left'⟩ ⟨-, hleft⟩
  exact .of_ok ⟨rfl, hleft.alike⟩

/-- The name that the tokens of a grammar document spell: what stands between `unit grammar` and the
first `;`. -/
def spelledName (tokens : List (TokenKind × String)) : List Char :=
  ((tokens.drop 2).takeWhile fun content => content.1 ≠ .semicolon).flatMap fun content =>
    content.2.toList

theorem spelledName_tokens {document : Document} (h : document.Valid) :
    spelledName (document.tokens.map Token.content) =
      (document.first :: segmentsTokens document.segments).flatMap fun t => t.text.toList := by
  have hname : NoSemicolon (document.first :: segmentsTokens document.segments) :=
    noSemicolon_cons.mpr ⟨by simp [h.first], noSemicolon_segmentsTokens h.segments⟩
  have hdrop : (document.tokens.map Token.content).drop 2 =
      (document.first :: segmentsTokens document.segments).map Token.content ++
        (document.semicolon :: definitionsTokens document.definitions).map Token.content := by
    rw [← List.map_append]
    rfl
  have hkeep : ∀ content ∈ (document.first :: segmentsTokens document.segments).map Token.content,
      decide (content.1 ≠ .semicolon) = true := by
    intro content hmem
    obtain ⟨t, ht, rfl⟩ := List.mem_map.mp hmem
    exact decide_eq_true (hname t ht)
  have hend : ((document.semicolon :: definitionsTokens document.definitions).map
      Token.content).takeWhile (fun content => content.1 ≠ .semicolon) = [] := by
    simp [Token.content, h.semicolon]
  rw [spelledName, hdrop, List.takeWhile_append_of_pos hkeep, hend, List.append_nil,
    List.flatMap_map]
  rfl

end Declaration

/-! ## Whole texts -/

section Texts

variable {text text' : String} {ts us : List Token}

/-- Two texts whose tokens are alike have the same definitions. -/
theorem parse_agree (hscan : Token.scan text = .ok ts) (hscan' : Token.scan text' = .ok us)
    (h : Alike ts us) :
    Agree (fun grammar grammar' =>
        grammar.rules.map RuleDef.withoutSpans = grammar'.rules.map RuleDef.withoutSpans)
      (Grammar.parse text) (Grammar.parse text') := by
  simp only [Grammar.parse, hscan, hscan']
  refine (header_agree _ _ h).bind ?_
  rintro ⟨name, left⟩ ⟨name', left'⟩ ⟨-, hleft⟩
  refine (ruleDefs_agree _ _ hleft).bind ?_
  intro rules rules' hrules
  exact .of_ok hrules

/-- The name of a grammar is what its tokens spell, because the line of the declaration has nothing
between them. -/
theorem name_eq_spelledName {grammar : Grammar} (hkind : Header.kind? text = some .grammar)
    (hscan : Token.scan text = .ok ts) (hparse : Grammar.parse text = .ok grammar) :
    grammar.name = String.ofList (spelledName (ts.map Token.content)) := by
  obtain ⟨before, name, hdeclares⟩ := Header.kind?_eq_grammar_iff.mp hkind
  obtain ⟨document, hvalid, hscan', rfl⟩ := Grammar.exists_document_of_parse hparse
  obtain rfl : document.tokens = ts := Except.ok.inj (hscan'.symm.trans hscan)
  have hname := hdeclares.nameTokens hvalid hscan
  rw [hdeclares.name_grammar hvalid hscan, spelledName_tokens hvalid, hname.texts_eq]

end Texts

end Parse

namespace Model

open Parse

/-- **Layout carries no meaning.** Two texts that declare grammars, with tokens that are the same up
to layout, are both parsed, into grammars that are the same without their spans, or they both fail,
with errors that are the same without theirs. -/
theorem parse_of_sameUpToLayout {text text' : String} {ts us : List Token}
    (hkind : Header.kind? text = some .grammar) (hkind' : Header.kind? text' = some .grammar)
    (hscan : Token.scan text = .ok ts) (hscan' : Token.scan text' = .ok us)
    (h : Token.SameUpToLayout ts us) :
    (∃ grammar grammar', Model.parse text = .ok (some (.grammar grammar)) ∧
        Model.parse text' = .ok (some (.grammar grammar')) ∧
        grammar.withoutSpans = grammar'.withoutSpans) ∨
      ∃ e e', Model.parse text = .error e ∧ Model.parse text' = .error e' ∧
        e.withoutSpans = e'.withoutSpans := by
  rw [parse_of_grammar hkind, parse_of_grammar hkind']
  obtain ⟨e, e', hparse, hparse', he⟩ | ⟨first, second, hparse, hparse', hrules⟩ :=
    parse_agree hscan hscan' (.of_sameUpToLayout h)
  · rw [hparse, hparse']
    exact .inr ⟨e, e', rfl, rfl, he⟩
  · rw [hparse, hparse']
    refine .inl ⟨first, second, rfl, rfl, ?_⟩
    rw [Grammar.withoutSpans, Grammar.withoutSpans, hrules,
      name_eq_spelledName hkind hscan hparse, name_eq_spelledName hkind' hscan' hparse', h.contents]

/-- Two ways to lay out a grammar: with a comment before it and one inside the group, and with
neither of them. -/
theorem parse_of_commented_grammar :
    ∃ grammar grammar', Model.parse "unit grammar G;\na: [b(s)]" = .ok (some (.grammar grammar)) ∧
      Model.parse "# c\nunit grammar G; a :\n[ b(s) # d\n]" = .ok (some (.grammar grammar')) ∧
      grammar.withoutSpans = grammar'.withoutSpans := by
  have hscan : Token.scan "unit grammar G;\na: [b(s)]" = .ok
      [⟨.word, ⟨0, 4⟩, "unit"⟩, ⟨.word, ⟨5, 12⟩, "grammar"⟩, ⟨.word, ⟨13, 14⟩, "G"⟩,
        ⟨.semicolon, ⟨14, 15⟩, ";"⟩, ⟨.word, ⟨16, 17⟩, "a"⟩, ⟨.colon, ⟨17, 18⟩, ":"⟩,
        ⟨.openBracket, ⟨19, 20⟩, "["⟩, ⟨.word, ⟨20, 21⟩, "b"⟩, ⟨.quantifier, ⟨21, 24⟩, "(s)"⟩,
        ⟨.closeBracket, ⟨24, 25⟩, "]"⟩] := by decide +kernel
  have hscan' : Token.scan "# c\nunit grammar G; a :\n[ b(s) # d\n]" = .ok
      [⟨.word, ⟨4, 8⟩, "unit"⟩, ⟨.word, ⟨9, 16⟩, "grammar"⟩, ⟨.word, ⟨17, 18⟩, "G"⟩,
        ⟨.semicolon, ⟨18, 19⟩, ";"⟩, ⟨.word, ⟨20, 21⟩, "a"⟩, ⟨.colon, ⟨22, 23⟩, ":"⟩,
        ⟨.openBracket, ⟨24, 25⟩, "["⟩, ⟨.word, ⟨26, 27⟩, "b"⟩, ⟨.quantifier, ⟨27, 30⟩, "(s)"⟩,
        ⟨.closeBracket, ⟨35, 36⟩, "]"⟩] := by decide +kernel
  have hparse : ((Model.parse "unit grammar G;\na: [b(s)]").map fun _ => ()) = .ok () := by
    decide +kernel
  have hsame := parse_of_sameUpToLayout (by decide +kernel) (by decide +kernel) hscan hscan' ?_
  · obtain hok | ⟨e, -, herror, -⟩ := hsame
    · exact hok
    · simp [herror, Except.map] at hparse
  · refine ⟨by decide, ?_⟩
    intro i t ht hkind
    have hi : i < 9 := Nat.lt_of_succ_lt_succ (List.getElem?_eq_some_iff.mp ht).1
    -- the range is the ninth token
    obtain rfl : i = 7 := by
      interval_cases i <;> cases ht <;> first | rfl | cases hkind
    exact iff_of_true ⟨_, _, rfl, rfl, rfl⟩ ⟨_, _, rfl, rfl, rfl⟩

end Model

end FanServer
