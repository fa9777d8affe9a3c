import FanServer.Proofs.Derivation

/-!
# The grammar is unambiguous

A list of tokens is derived by one tree at most. What follows an item decides where it ends:

* `Follows` — neither a range nor a separator begins there, and no colon, which would make the item
  before it the name of a rule;
* `Parse.endsItems` — what ends items: a `|`, a `]`, the name of the next definition, or nothing;
* `EndsDefinition` — what ends a definition.

Main result: trees with the same tokens are the same (`Document.eq_of_tokens_eq`).
-/

namespace FanServer.Derivation

/-! ## What follows an item -/

/-- What may follow an item: it does not begin with a range, a separator or a colon. -/
def Follows (rest : List Token) : Prop :=
  ∀ t ∈ rest.head?, t.kind ≠ .quantifier ∧ ¬ IsMarker t ∧ t.kind ≠ .colon

section Follow

variable {rest : List Token}

/-- Where items end, no item goes on. -/
theorem follows_of_endsItems (h : Parse.endsItems rest = true) : Follows rest := by
  intro t ht
  cases rest with
  | nil => cases ht
  | cons first others =>
    cases ht
    unfold Parse.endsItems at h
    unfold IsMarker
    rcases hkind : t.kind <;> simp_all

theorem Leaf.follows {t : Token} {kind : RuleKind} (h : Leaf t kind) : Follows (t :: rest) := by
  intro t' ht
  cases ht
  unfold IsMarker
  cases h <;> simp_all

theorem Leaf.kind_ne_openBracket {t : Token} {kind : RuleKind} (h : Leaf t kind) :
    t.kind ≠ .openBracket := by
  cases h <;> simp_all

/-- A term can follow an item. -/
theorem Term.follows {term : Term} (h : term.Valid) : Follows (term.tokens ++ rest) := by
  cases term with
  | leaf t kind => exact Leaf.follows h
  | group opening items closing =>
    intro t ht
    cases ht
    have hopening := h.1
    unfold IsMarker
    simp_all

theorem Item.follows {item : Item} (h : item.Valid) : Follows (item.tokens ++ rest) := by
  cases item with
  | plain term => exact Term.follows h
  | repeated term range =>
    rw [Item.tokens, List.append_assoc]
    exact Term.follows h.1
  | separated term range marker separator =>
    rw [Item.tokens, List.append_assoc]
    exact Term.follows h.1

/-- Items can follow an item, and so can what follows them. -/
theorem Items.follows {items : Items} (h : items.Valid) (hrest : Parse.endsItems rest = true) :
    Follows (items.tokens ++ rest) := by
  cases items with
  | nil => exact follows_of_endsItems hrest
  | cons item items =>
    rw [Items.tokens, List.append_assoc]
    exact Item.follows h.1

/-- Items do not end where a term begins that is not followed by a colon. -/
theorem Term.endsItems_eq_false {term : Term} (h : term.Valid)
    (hrest : ∀ t ∈ rest.head?, t.kind ≠ .colon) :
    Parse.endsItems (term.tokens ++ rest) = false := by
  cases term with
  | leaf t kind =>
    cases rest with
    | nil => cases h <;> simp_all [Term.tokens, Parse.endsItems]
    | cons next others =>
      have hnext : next.kind ≠ .colon := hrest next rfl
      cases h <;> simp_all [Term.tokens, Parse.endsItems]
  | group opening items closing =>
    have hopening := h.1
    simp only [Term.tokens, List.cons_append, Parse.endsItems, hopening]

/-- Items do not end where an item begins. -/
theorem Item.endsItems_eq_false {item : Item} (h : item.Valid) (hrest : Follows rest) :
    Parse.endsItems (item.tokens ++ rest) = false := by
  have hrange : ∀ {range : Token} {stop : Nat} {others : List Token}, IsRange range stop →
      ∀ t ∈ (range :: others).head?, t.kind ≠ .colon := by
    intro range stop others hrange t ht hcolon
    cases ht
    rw [hrange.1] at hcolon
    cases hcolon
  cases item with
  | plain term => exact Term.endsItems_eq_false h fun t ht => (hrest t ht).2.2
  | repeated term range =>
    rw [Item.tokens, List.append_assoc]
    exact Term.endsItems_eq_false h.1 (hrange h.2)
  | separated term range marker separator =>
    rw [Item.tokens, List.append_assoc]
    exact Term.endsItems_eq_false h.1 (hrange h.2.1)

end Follow

/-! ## Trees of the same tokens

Two trees whose tokens begin the same list are the same tree, if what follows them cannot belong to
either. The induction is on the first tree; the second is taken apart as far as its tokens go. -/

theorem Leaf.unique {t : Token} {kind kind' : RuleKind} (h : Leaf t kind) (h' : Leaf t kind') :
    kind = kind' := by
  cases h <;> cases h' <;> simp_all

theorem endsItems_closeBracket {t : Token} (h : t.kind = .closeBracket) (rest : List Token) :
    Parse.endsItems (t :: rest) = true := by
  simp only [Parse.endsItems, h]

mutual

theorem Term.unique (term : Term) {term' : Term} {rest rest' : List Token} (h : term.Valid)
    (h' : term'.Valid) (heq : term.tokens ++ rest = term'.tokens ++ rest') :
    term = term' ∧ rest = rest' := by
  cases term with
  | leaf t kind =>
    cases term' with
    | leaf t' kind' =>
      obtain ⟨rfl, rfl⟩ := List.cons.inj heq
      obtain rfl := Leaf.unique h h'
      exact ⟨rfl, rfl⟩
    | group opening' items' closing' =>
      obtain ⟨rfl, -⟩ := List.cons.inj heq
      exact absurd h'.1 (Leaf.kind_ne_openBracket h)
  | group opening items closing =>
    cases term' with
    | leaf t' kind' =>
      obtain ⟨rfl, -⟩ := List.cons.inj heq
      exact absurd h.1 (Leaf.kind_ne_openBracket h')
    | group opening' items' closing' =>
      -- both groups end at the first bracket that their items do not close
      obtain ⟨-, hitems, hclosing⟩ := h
      obtain ⟨-, hitems', hclosing'⟩ := h'
      obtain ⟨rfl, hinside⟩ := List.cons.inj heq
      simp only [List.append_eq, List.append_assoc] at hinside
      obtain ⟨rfl, hrest⟩ := items.unique hitems hitems' (endsItems_closeBracket hclosing _)
        (endsItems_closeBracket hclosing' _) hinside
      obtain ⟨rfl, rfl⟩ := List.cons.inj hrest
      exact ⟨rfl, rfl⟩

theorem Item.unique (item : Item) {item' : Item} {rest rest' : List Token} (h : item.Valid)
    (h' : item'.Valid) (hrest : Follows rest) (hrest' : Follows rest')
    (heq : item.tokens ++ rest = item'.tokens ++ rest') : item = item' ∧ rest = rest' := by
  cases item with
  | plain term =>
    cases item' with
    | plain term' =>
      obtain ⟨rfl, rfl⟩ := term.unique h h' heq
      exact ⟨rfl, rfl⟩
    | repeated term' range' =>
      -- the range of the one would have to follow the other
      rw [Item.tokens, Item.tokens, List.append_assoc] at heq
      obtain ⟨-, rfl⟩ := term.unique h h'.1 heq
      exact absurd h'.2.1 (hrest range' rfl).1
    | separated term' range' marker' separator' =>
      rw [Item.tokens, Item.tokens, List.append_assoc] at heq
      obtain ⟨-, rfl⟩ := term.unique h h'.1 heq
      exact absurd h'.2.1.1 (hrest range' rfl).1
  | repeated term range =>
    rw [Item.tokens, List.append_assoc] at heq
    cases item' with
    | plain term' =>
      obtain ⟨-, rfl⟩ := term.unique h.1 h' heq
      exact absurd h.2.1 (hrest' range rfl).1
    | repeated term' range' =>
      rw [Item.tokens, List.append_assoc] at heq
      obtain ⟨rfl, hrange⟩ := term.unique h.1 h'.1 heq
      obtain ⟨rfl, rfl⟩ := List.cons.inj hrange
      exact ⟨rfl, rfl⟩
    | separated term' range' marker' separator' =>
      rw [Item.tokens, List.append_assoc] at heq
      obtain ⟨-, hrange⟩ := term.unique h.1 h'.1 heq
      obtain ⟨-, rfl⟩ := List.cons.inj hrange
      exact absurd h'.2.2.1 (hrest marker' rfl).2.1
  | separated term range marker separator =>
    rw [Item.tokens, List.append_assoc] at heq
    cases item' with
    | plain term' =>
      obtain ⟨-, rfl⟩ := term.unique h.1 h' heq
      exact absurd h.2.1.1 (hrest' range rfl).1
    | repeated term' range' =>
      rw [Item.tokens, List.append_assoc] at heq
      obtain ⟨-, hrange⟩ := term.unique h.1 h'.1 heq
      obtain ⟨-, rfl⟩ := List.cons.inj hrange
      exact absurd h.2.2.1 (hrest' marker rfl).2.1
    | separated term' range' marker' separator' =>
      rw [Item.tokens, List.append_assoc] at heq
      obtain ⟨rfl, hrange⟩ := term.unique h.1 h'.1 heq
      obtain ⟨rfl, hmarker⟩ := List.cons.inj hrange
      obtain ⟨rfl, hseparator⟩ := List.cons.inj hmarker
      obtain ⟨rfl, rfl⟩ := separator.unique h.2.2.2 h'.2.2.2 hseparator
      exact ⟨rfl, rfl⟩

theorem Items.unique (items : Items) {items' : Items} {rest rest' : List Token} (h : items.Valid)
    (h' : items'.Valid) (hrest : Parse.endsItems rest = true)
    (hrest' : Parse.endsItems rest' = true)
    (heq : items.tokens ++ rest = items'.tokens ++ rest') : items = items' ∧ rest = rest' := by
  cases items with
  | nil =>
    cases items' with
    | nil => exact ⟨rfl, heq⟩
    | cons item' items' =>
      -- the same tokens would both end items and begin one
      rw [Items.tokens, Items.tokens, List.nil_append, List.append_assoc] at heq
      have hgoes := Item.endsItems_eq_false h'.1 (Items.follows h'.2 hrest')
      rw [← heq, hrest] at hgoes
      cases hgoes
  | cons item items =>
    rw [Items.tokens, List.append_assoc] at heq
    cases items' with
    | nil =>
      have hgoes := Item.endsItems_eq_false h.1 (Items.follows h.2 hrest)
      rw [heq, Items.tokens, List.nil_append, hrest'] at hgoes
      cases hgoes
    | cons item' items' =>
      rw [Items.tokens, List.append_assoc] at heq
      obtain ⟨rfl, hothers⟩ := item.unique h.1 h'.1 (Items.follows h.2 hrest)
        (Items.follows h'.2 hrest') heq
      obtain ⟨rfl, rfl⟩ := items.unique h.2 h'.2 hrest hrest' hothers
      exact ⟨rfl, rfl⟩

end

/-! ### Definitions -/

/-- What may follow a definition: its items end there, and no other alternative begins. -/
structure EndsDefinition (rest : List Token) : Prop where
  /-- items end -/
  endsItems : Parse.endsItems rest = true
  /-- no alternative begins -/
  ne_pipe : ∀ t ∈ rest.head?, t.kind ≠ .pipe

/-- Definitions can follow a definition. -/
theorem endsDefinition_definitionsTokens {definitions : List Definition}
    (h : ∀ definition ∈ definitions, definition.Valid) :
    EndsDefinition (definitionsTokens definitions) := by
  cases definitions with
  | nil => exact ⟨rfl, by simp⟩
  | cons definition definitions =>
    have hname := (h definition List.mem_cons_self).name_kind
    have hcolon := (h definition List.mem_cons_self).colon_kind
    refine ⟨?_, fun t ht hpipe => ?_⟩
    · simp [Definition.tokens, Parse.endsItems, hname, hcolon]
    · cases ht
      rw [hname] at hpipe
      cases hpipe

/-- Items end where another alternative begins, and where the definition ends. -/
theorem endsItems_othersTokens {others : List (Token × Items)} {rest : List Token}
    (h : ∀ other ∈ others, other.1.kind = .pipe ∧ other.2.Valid) (hrest : EndsDefinition rest) :
    Parse.endsItems (othersTokens others ++ rest) = true := by
  cases others with
  | nil => exact hrest.endsItems
  | cons other others =>
    obtain ⟨pipe, items⟩ := other
    have hpipe : pipe.kind = .pipe := (h _ List.mem_cons_self).1
    simp [Parse.endsItems, hpipe]

theorem others_unique {others others' : List (Token × Items)} {rest rest' : List Token}
    (h : ∀ other ∈ others, other.1.kind = .pipe ∧ other.2.Valid)
    (h' : ∀ other ∈ others', other.1.kind = .pipe ∧ other.2.Valid)
    (hrest : EndsDefinition rest) (hrest' : EndsDefinition rest')
    (heq : othersTokens others ++ rest = othersTokens others' ++ rest') :
    others = others' ∧ rest = rest' := by
  induction others generalizing others' with
  | nil =>
    cases others' with
    | nil => exact ⟨rfl, heq⟩
    | cons other' others' =>
      rw [othersTokens_nil, List.nil_append] at heq
      subst heq
      exact absurd (h' other' List.mem_cons_self).1 (hrest.ne_pipe _ rfl)
  | cons other others ih =>
    cases others' with
    | nil =>
      rw [othersTokens_nil, List.nil_append] at heq
      subst heq
      exact absurd (h other List.mem_cons_self).1 (hrest'.ne_pipe _ rfl)
    | cons other' others' =>
      obtain ⟨pipe, items⟩ := other
      obtain ⟨pipe', items'⟩ := other'
      have hothers := fun other hmem => h other (List.mem_cons_of_mem _ hmem)
      have hothers' := fun other hmem => h' other (List.mem_cons_of_mem _ hmem)
      simp only [othersTokens_cons, List.cons_append, List.append_assoc] at heq
      obtain ⟨rfl, hitems⟩ := List.cons.inj heq
      obtain ⟨rfl, htail⟩ := items.unique (h _ List.mem_cons_self).2 (h' _ List.mem_cons_self).2
        (endsItems_othersTokens hothers hrest) (endsItems_othersTokens hothers' hrest') hitems
      obtain ⟨rfl, rfl⟩ := ih hothers hothers' htail
      exact ⟨rfl, rfl⟩

theorem Definition.unique {definition definition' : Definition} {rest rest' : List Token}
    (h : definition.Valid) (h' : definition'.Valid) (hrest : EndsDefinition rest)
    (hrest' : EndsDefinition rest')
    (heq : definition.tokens ++ rest = definition'.tokens ++ rest') :
    definition = definition' ∧ rest = rest' := by
  obtain ⟨name, colon, first, others⟩ := definition
  obtain ⟨name', colon', first', others'⟩ := definition'
  simp only [Definition.tokens, List.cons_append, List.append_assoc, List.cons.injEq] at heq
  obtain ⟨rfl, rfl, hbody⟩ := heq
  obtain ⟨rfl, hothers⟩ := first.unique h.first h'.first (endsItems_othersTokens h.others hrest)
    (endsItems_othersTokens h'.others hrest') hbody
  obtain ⟨rfl, rfl⟩ := others_unique h.others h'.others hrest hrest' hothers
  exact ⟨rfl, rfl⟩

theorem definitions_unique {definitions definitions' : List Definition}
    (h : ∀ definition ∈ definitions, definition.Valid)
    (h' : ∀ definition ∈ definitions', definition.Valid)
    (heq : definitionsTokens definitions = definitionsTokens definitions') :
    definitions = definitions' := by
  induction definitions generalizing definitions' with
  | nil =>
    cases definitions' with
    | nil => rfl
    | cons definition' definitions' => cases heq
  | cons definition definitions ih =>
    cases definitions' with
    | nil => cases heq
    | cons definition' definitions' =>
      have hothers := fun other hmem => h other (List.mem_cons_of_mem _ hmem)
      have hothers' := fun other hmem => h' other (List.mem_cons_of_mem _ hmem)
      obtain ⟨rfl, htail⟩ := Definition.unique (h definition List.mem_cons_self)
        (h' definition' List.mem_cons_self) (endsDefinition_definitionsTokens hothers)
        (endsDefinition_definitionsTokens hothers') heq
      rw [ih hothers hothers' htail]

/-! ### Documents -/

theorem segments_unique {segments segments' : List (Token × Token)} {semicolon semicolon' : Token}
    {rest rest' : List Token} (h : ∀ segment ∈ segments, segment.1.kind = .doubleColon)
    (h' : ∀ segment ∈ segments', segment.1.kind = .doubleColon)
    (hsemicolon : semicolon.kind = .semicolon) (hsemicolon' : semicolon'.kind = .semicolon)
    (heq : segmentsTokens segments ++ semicolon :: rest =
      segmentsTokens segments' ++ semicolon' :: rest') :
    segments = segments' ∧ semicolon = semicolon' ∧ rest = rest' := by
  induction segments generalizing segments' with
  | nil =>
    cases segments' with
    | nil => exact ⟨rfl, List.cons.inj heq⟩
    | cons segment' segments' =>
      obtain ⟨rfl, -⟩ := List.cons.inj heq
      rw [h' segment' List.mem_cons_self] at hsemicolon
      cases hsemicolon
  | cons segment segments ih =>
    cases segments' with
    | nil =>
      obtain ⟨rfl, -⟩ := List.cons.inj heq
      rw [h segment List.mem_cons_self] at hsemicolon'
      cases hsemicolon'
    | cons segment' segments' =>
      obtain ⟨colons, word⟩ := segment
      obtain ⟨colons', word'⟩ := segment'
      simp only [segmentsTokens_cons, List.cons_append, List.cons.injEq] at heq
      obtain ⟨rfl, rfl, htail⟩ := heq
      obtain ⟨rfl, hrest⟩ := ih (fun other hmem => h other (List.mem_cons_of_mem _ hmem))
        (fun other hmem => h' other (List.mem_cons_of_mem _ hmem)) htail
      exact ⟨rfl, hrest⟩

/-- **The grammar is unambiguous**: valid trees with the same tokens are the same. -/
theorem Document.eq_of_tokens_eq {document document' : Document} (h : document.Valid)
    (h' : document'.Valid) (heq : document.tokens = document'.tokens) : document = document' := by
  obtain ⟨unitWord, grammarWord, first, segments, semicolon, definitions⟩ := document
  obtain ⟨unitWord', grammarWord', first', segments', semicolon', definitions'⟩ := document'
  simp only [Document.tokens, List.cons_append, List.cons.injEq] at heq
  obtain ⟨rfl, rfl, rfl, htail⟩ := heq
  obtain ⟨rfl, rfl, hdefinitions⟩ := segments_unique
    (fun segment hmem => (h.segments segment hmem).1)
    (fun segment hmem => (h'.segments segment hmem).1) h.semicolon h'.semicolon htail
  obtain rfl := definitions_unique h.definitions h'.definitions hdefinitions
  rfl

end FanServer.Derivation
