import FanServer.Proofs.Unambiguous

/-!
# The parser reads exactly the documents of the grammar

Each reader is compared with the trees of its production (`Derivation`). What a reader gives is
**the element of a tree whose tokens it has used up**, and it reads every tree that is followed by
tokens which cannot belong to it:

* `ReadsTerms` — what is asked of a reader of terms. Items are read by means of such a reader, and
  terms by means of items one level further in, so the induction is on the levels;
* `items_eq_ok_iff`, `alternatives_eq_ok_iff`, `ruleDefs_eq_ok_iff`, `header_eq_ok_iff` — what the
  readers of the other productions give.

The loops of the readers go on only while tokens are used up. That never stops them early, because
a tree that they have just read has at least one token.
-/

open FanServer.Derivation

namespace FanServer.Parse

/-! ## Tokens -/

theorem bind_eq_ok_iff {ε α β : Type} {x : Except ε α} {f : α → Except ε β} {b : β} :
    x >>= f = .ok b ↔ ∃ a, x = .ok a ∧ f a = .ok b := by
  cases x with
  | error e =>
    refine ⟨?_, ?_⟩
    · rintro ⟨⟩
    · rintro ⟨_, ⟨⟩, -⟩
  | ok a =>
    refine ⟨?_, ?_⟩
    · intro h
      exact ⟨a, rfl, h⟩
    · rintro ⟨_, ⟨⟩, h⟩
      exact h

theorem exists_of_map_eq_ok {ε α β : Type} {x : Except ε α} {f : α → β} {b : β}
    (h : x.map f = .ok b) : ∃ a, x = .ok a ∧ f a = b := by
  cases x with
  | error e => cases h
  | ok a => exact ⟨a, rfl, Except.ok.inj h⟩

theorem eq_error_of_map_eq_error {ε α β : Type} {x : Except ε α} {f : α → β} {e : ε}
    (h : x.map f = .error e) : x = .error e := by
  cases x with
  | error e' =>
    cases h
    rfl
  | ok a => cases h

theorem expect_eq_ok_iff {stop : Nat} {kind : TokenKind} {expected : Expectation}
    {ts rest : List Token} {t : Token} :
    expect stop kind expected ts = .ok (t, rest) ↔ t.kind = kind ∧ ts = t :: rest := by
  cases ts with
  | nil => simp [expect]
  | cons first others =>
    rw [expect]
    split_ifs with hkind
    · simp only [Except.ok.injEq, Prod.mk.injEq, List.cons.injEq]
      refine ⟨?_, ?_⟩
      · rintro ⟨rfl, rfl⟩
        exact ⟨hkind, rfl, rfl⟩
      · rintro ⟨-, rfl, rfl⟩
        exact ⟨rfl, rfl⟩
    · simp only [List.cons.injEq, false_iff]
      rintro ⟨hfirst, rfl, -⟩
      exact hkind hfirst

theorem leafKind?_eq_some_iff {t : Token} {kind : RuleKind} :
    leafKind? t = some kind ↔ Leaf t kind := by
  refine ⟨?_, ?_⟩
  · intro h
    unfold leafKind? at h
    split at h <;> cases h
    case h_1 hkind => exact .plus hkind
    case h_2 hkind => exact .minus hkind
    case h_3 hkind => exact .word hkind
    case h_4 hkind => exact .string hkind
    case h_5 hkind => exact .regex hkind
  · intro h
    cases h with
    | plus hkind => rw [leafKind?, hkind]
    | minus hkind => rw [leafKind?, hkind]
    | word hkind => rw [leafKind?, hkind]
    | string hkind => rw [leafKind?, hkind]
    | regex hkind => rw [leafKind?, hkind]

theorem isSeparatorMarker_iff {t : Token} : isSeparatorMarker t = true ↔ IsMarker t := by
  simp [isSeparatorMarker, IsMarker]

/-! ## Items

Terms are read by any reader that reads the trees of no more than `levels` levels. -/

/-- The reader reads terms in which no more than `levels` groups are open at once, and nothing
else. -/
def ReadsTerms (term : Reader Rule) (levels : Nat) : Prop :=
  ∀ ts rule rest, term ts = .ok (rule, rest) ↔
    ∃ tree : Term, tree.Valid ∧ tree.depth ≤ levels ∧ tree.rule = rule ∧ ts = tree.tokens ++ rest

section Items

variable {term : Reader Rule} {levels : Nat} {ts rest : List Token}

/-- The element of a term ends where the term ends. -/
theorem stop_rule (tree : Term) : tree.rule.span.stop = tree.stop := by
  cases tree with
  | leaf t kind => rw [Term.rule, Term.stop, Rule.plain]
  | group opening items closing => rw [Term.rule, Term.stop, Rule.plain]

/-- There is a separator exactly if there is a sign that introduces one. -/
theorem separator_eq_ok_iff (hterm : ReadsTerms term levels) {clause : Option Separator} :
    separator term ts = .ok (clause, rest) ↔
      (clause = none ∧ ts = rest ∧ ∀ t ∈ rest.head?, ¬ IsMarker t) ∨
      ∃ (marker : Token) (tree : Term), IsMarker marker ∧ tree.Valid ∧ tree.depth ≤ levels ∧
        clause = some ⟨⟨marker.span.start, tree.stop⟩, marker.text, tree.rule⟩ ∧
        ts = marker :: (tree.tokens ++ rest) := by
  cases ts with
  | nil =>
    simp only [separator, Except.ok.injEq, Prod.mk.injEq]
    refine ⟨?_, ?_⟩
    · rintro ⟨rfl, rfl⟩
      exact .inl ⟨rfl, rfl, by simp⟩
    · rintro (⟨rfl, rfl, -⟩ | ⟨_, _, -, -, -, -, h⟩)
      · exact ⟨rfl, rfl⟩
      · cases h
  | cons first others =>
    rw [separator]
    split_ifs with hmarker
    · rw [isSeparatorMarker_iff] at hmarker
      refine ⟨?_, ?_⟩
      · intro h
        split at h
        · cases h
        · next rule left hread =>
          cases h
          obtain ⟨tree, hvalid, hdepth, rfl, rfl⟩ := (hterm _ _ _).mp hread
          rw [stop_rule]
          exact .inr ⟨first, tree, hmarker, hvalid, hdepth, rfl, rfl⟩
      · rintro (⟨-, rfl, hnone⟩ | ⟨marker, tree, -, hvalid, hdepth, rfl, heq⟩)
        · exact absurd hmarker (hnone first rfl)
        · obtain ⟨rfl, rfl⟩ := List.cons.inj heq
          have hread := (hterm (tree.tokens ++ rest) _ _).mpr ⟨tree, hvalid, hdepth, rfl, rfl⟩
          simp only [hread, stop_rule]
    · rw [isSeparatorMarker_iff] at hmarker
      refine ⟨?_, ?_⟩
      · intro h
        cases h
        refine .inl ⟨rfl, rfl, fun t ht => ?_⟩
        cases ht
        exact hmarker
      · rintro (⟨rfl, rfl, -⟩ | ⟨marker, tree, hfirst, -, -, -, heq⟩)
        · rfl
        · obtain ⟨rfl, -⟩ := List.cons.inj heq
          exact absurd hfirst hmarker

/-- What is read as an item is one. -/
theorem exists_of_item_eq_ok (hterm : ReadsTerms term levels) {rule : Rule}
    (h : item term ts = .ok (rule, rest)) :
    ∃ tree : Item, tree.Valid ∧ tree.depth ≤ levels ∧ tree.rule = rule ∧
      ts = tree.tokens ++ rest := by
  rw [item] at h
  split at h
  · cases h
  · next hread =>
    cases h
    obtain ⟨tree, hvalid, hdepth, rfl, rfl⟩ := (hterm _ _ _).mp hread
    exact ⟨.plain tree, hvalid, hdepth, rfl, rfl⟩
  · next range left hread =>
    obtain ⟨tree, hvalid, hdepth, rfl, rfl⟩ := (hterm _ _ _).mp hread
    split_ifs at h with hkind hstart
    · rw [stop_rule] at hstart
      split at h
      · cases h
      · next clause left' hclause =>
        cases h
        rcases (separator_eq_ok_iff hterm).mp hclause with
          ⟨rfl, rfl, -⟩ | ⟨marker, separator, hmarker, hvalid', hdepth', rfl, rfl⟩
        · refine ⟨.repeated tree range, ⟨hvalid, hkind, hstart⟩, hdepth, rfl, ?_⟩
          rw [Item.tokens, List.append_assoc, List.singleton_append]
        · refine ⟨.separated tree range marker separator,
            ⟨hvalid, ⟨hkind, hstart⟩, hmarker, hvalid'⟩, Nat.max_le.mpr ⟨hdepth, hdepth'⟩, rfl, ?_⟩
          simp only [Item.tokens, List.append_assoc, List.cons_append]
    · cases h
      exact ⟨.plain tree, hvalid, hdepth, rfl, rfl⟩

/-- An item is read if what follows it cannot belong to it. -/
theorem item_tokens (hterm : ReadsTerms term levels) {tree : Item} (hvalid : tree.Valid)
    (hdepth : tree.depth ≤ levels) (hrest : Follows rest) :
    item term (tree.tokens ++ rest) = .ok (tree.rule, rest) := by
  cases tree with
  | plain tree =>
    have hread := (hterm (tree.tokens ++ rest) _ _).mpr ⟨tree, hvalid, hdepth, rfl, rfl⟩
    rw [item, Item.tokens, hread]
    cases rest with
    | nil => rfl
    | cons t others => exact if_neg (hrest t rfl).1
  | repeated tree range =>
    obtain ⟨hvalid, hkind, hstart⟩ := hvalid
    have hread := (hterm (tree.tokens ++ range :: rest) _ _).mpr ⟨tree, hvalid, hdepth, rfl, rfl⟩
    have hclause := (separator_eq_ok_iff hterm).mpr
      (.inl ⟨rfl, rfl, fun t ht => (hrest t ht).2.1⟩)
    rw [item, Item.tokens, List.append_assoc, List.singleton_append, hread]
    simp only [hkind, hstart, stop_rule, hclause, if_true]
    rfl
  | separated tree range marker separator =>
    obtain ⟨hvalid, ⟨hkind, hstart⟩, hmarker, hvalid'⟩ := hvalid
    obtain ⟨hdepth, hdepth'⟩ := Nat.max_le.mp hdepth
    have hread := (hterm (tree.tokens ++ range :: marker :: (separator.tokens ++ rest)) _ _).mpr
      ⟨tree, hvalid, hdepth, rfl, rfl⟩
    have hclause : Parse.separator term (marker :: (separator.tokens ++ rest)) = .ok (_, rest) :=
      (separator_eq_ok_iff hterm).mpr
        (.inr ⟨marker, separator, hmarker, hvalid', hdepth', rfl, rfl⟩)
    rw [item, Item.tokens, List.append_assoc, List.cons_append, List.cons_append, hread]
    simp only [hkind, hstart, stop_rule, hclause, if_true]
    rfl

/-- Items are read up to where they end. -/
theorem items_tokens (hterm : ReadsTerms term levels) (tree : Items) (hvalid : tree.Valid)
    (hdepth : tree.depth ≤ levels) (hrest : endsItems rest = true) :
    items term (tree.tokens ++ rest) = .ok (tree.rules, rest) := by
  cases tree with
  | nil =>
    rw [items, Items.tokens, List.nil_append, if_pos hrest]
    rfl
  | cons item tree =>
    obtain ⟨hitem, htree⟩ := hvalid
    obtain ⟨hdepth, hdepth'⟩ := Nat.max_le.mp hdepth
    have hfollows := Items.follows htree hrest
    have hlength :
        (tree.tokens ++ rest).length < (item.tokens ++ (tree.tokens ++ rest)).length := by
      have hpos := item.length_tokens_pos
      simp only [List.length_append]
      omega
    -- the items do not end here, and the first of them has a token, so the loop goes on
    have hgoes := Item.endsItems_eq_false hitem hfollows
    rw [items, Items.tokens, List.append_assoc, hgoes, if_neg Bool.false_ne_true,
      item_tokens hterm hitem hdepth hfollows]
    simp only [hlength, if_true, items_tokens hterm tree htree hdepth' hrest]
    rfl

/-- **What is read as items** are the elements of items that end where the reader stops. -/
theorem items_eq_ok_iff (hterm : ReadsTerms term levels) {rules : List Rule} :
    items term ts = .ok (rules, rest) ↔
      ∃ tree : Items, tree.Valid ∧ tree.depth ≤ levels ∧ tree.rules = rules ∧
        ts = tree.tokens ++ rest ∧ endsItems rest = true := by
  refine ⟨?_, ?_⟩
  · intro h
    fun_induction items term ts generalizing rules with
    | case1 ts hends =>
      cases h
      exact ⟨.nil, trivial, Nat.zero_le _, rfl, rfl, hends⟩
    | case2 ts hends e hitem => cases h
    | case3 ts hends rule left hitem hlength e hitems ih => cases h
    | case4 ts hends rule left hitem hlength rules left' hitems ih =>
      cases h
      obtain ⟨first, hvalid, hdepth, rfl, rfl⟩ := exists_of_item_eq_ok hterm hitem
      obtain ⟨tree, hvalid', hdepth', rfl, rfl, hrest⟩ := ih hitems
      refine ⟨.cons first tree, ⟨hvalid, hvalid'⟩, Nat.max_le.mpr ⟨hdepth, hdepth'⟩, rfl, ?_, hrest⟩
      rw [Items.tokens, List.append_assoc]
    | case5 ts hends rule left hitem hlength =>
      -- an item has a token, so the reader has used one
      obtain ⟨first, -, -, -, rfl⟩ := exists_of_item_eq_ok hterm hitem
      have hpos := first.length_tokens_pos
      rw [List.length_append] at hlength
      omega
  · rintro ⟨tree, hvalid, hdepth, rfl, rfl, hrest⟩
    exact items_tokens hterm tree hvalid hdepth hrest

end Items

/-! ## Terms -/

/-- A term begins with a token that is one by itself, or it is a group. -/
theorem exists_term_iff {t : Token} {ts rest : List Token} {rule : Rule} {levels : Nat} :
    (∃ tree : Term, tree.Valid ∧ tree.depth ≤ levels ∧ tree.rule = rule ∧
        t :: ts = tree.tokens ++ rest) ↔
      (∃ kind, Leaf t kind ∧ .plain kind t.span = rule ∧ ts = rest) ∨
      (t.kind = .openBracket ∧ ∃ (items : Items) (closing : Token), items.Valid ∧
        items.depth < levels ∧ closing.kind = .closeBracket ∧
        (Term.group t items closing).rule = rule ∧ ts = items.tokens ++ closing :: rest) := by
  refine ⟨?_, ?_⟩
  · rintro ⟨⟨t', kind⟩ | ⟨opening, items, closing⟩, hvalid, hdepth, rfl, heq⟩
    · obtain ⟨rfl, rfl⟩ := List.cons.inj heq
      exact .inl ⟨kind, hvalid, rfl, rfl⟩
    · obtain ⟨hopening, hitems, hclosing⟩ := hvalid
      simp only [Term.tokens, List.cons_append, List.append_assoc, List.nil_append,
        List.cons.injEq] at heq
      obtain ⟨rfl, rfl⟩ := heq
      exact .inr ⟨hopening, items, closing, hitems, hdepth, hclosing, rfl, rfl⟩
  · rintro (⟨kind, hleaf, rfl, rfl⟩ |
      ⟨hopening, items, closing, hitems, hdepth, hclosing, rfl, rfl⟩)
    · exact ⟨.leaf t kind, hleaf, Nat.zero_le _, rfl, rfl⟩
    · refine ⟨.group t items closing, ⟨hopening, hitems, hclosing⟩, hdepth, rfl, ?_⟩
      simp only [Term.tokens, List.cons_append, List.append_assoc, List.nil_append]

/-- A group is read by reading items one level further in. -/
theorem group_eq_ok_iff {stop levels : Nat} (hterm : ReadsTerms (term stop levels) levels)
    {t : Token} (hopening : t.kind = .openBracket) {ts rest : List Token} {rule : Rule} :
    term stop (levels + 1) (t :: ts) = .ok (rule, rest) ↔
      ∃ (items : Items) (closing : Token), items.Valid ∧ items.depth ≤ levels ∧
        closing.kind = .closeBracket ∧ (Term.group t items closing).rule = rule ∧
        ts = items.tokens ++ closing :: rest := by
  have hleaf : leafKind? t = none := by rw [leafKind?, hopening]
  unfold term
  simp only [hleaf, hopening, if_true]
  refine ⟨?_, ?_⟩
  · intro h
    split at h
    · cases h
    · next parts left hitems =>
      split at h
      · cases h
      · next closing left' hclosing =>
        cases h
        obtain ⟨hkind, rfl⟩ := expect_eq_ok_iff.mp hclosing
        obtain ⟨items, hvalid, hdepth, rfl, rfl, -⟩ := (items_eq_ok_iff hterm).mp hitems
        exact ⟨items, closing, hvalid, hdepth, hkind, rfl, rfl⟩
  · rintro ⟨items, closing, hvalid, hdepth, hkind, rfl, rfl⟩
    have hends := endsItems_closeBracket hkind rest
    have hclosing : expect stop .closeBracket .closeBracket (closing :: rest) =
        .ok (closing, rest) :=
      expect_eq_ok_iff.mpr ⟨hkind, rfl⟩
    simp only [items_tokens hterm items hvalid hdepth hends, hclosing]
    rfl

/-- Terms are read as the grammar has them, if groups are. -/
theorem readsTerms_of_groups {stop levels : Nat}
    (hgroup : ∀ t ts rule rest, t.kind = .openBracket →
      (term stop levels (t :: ts) = .ok (rule, rest) ↔
        ∃ (items : Items) (closing : Token), items.Valid ∧ items.depth < levels ∧
          closing.kind = .closeBracket ∧ (Term.group t items closing).rule = rule ∧
          ts = items.tokens ++ closing :: rest)) :
    ReadsTerms (term stop levels) levels := by
  rintro (_ | ⟨t, ts⟩) rule rest
  · -- no token is left, and a term has one
    unfold term
    refine ⟨?_, ?_⟩
    · rintro ⟨⟩
    · rintro ⟨tree, -, -, -, heq⟩
      have hpos := tree.length_tokens_pos
      rw [(List.append_eq_nil_iff.mp heq.symm).1] at hpos
      cases hpos
  · rw [exists_term_iff]
    rcases hleaf : leafKind? t with _ | kind
    · -- the token opens a group, or no term begins with it
      have hnot : ¬ ∃ kind, Leaf t kind ∧ .plain kind t.span = rule ∧ ts = rest := by
        rintro ⟨kind, hkind, -⟩
        rw [leafKind?_eq_some_iff.mpr hkind] at hleaf
        cases hleaf
      rw [or_iff_right hnot]
      by_cases hopening : t.kind = .openBracket
      · rw [hgroup t ts rule rest hopening, and_iff_right hopening]
      · unfold term
        simp [hleaf, hopening]
    · have hkind := leafKind?_eq_some_iff.mp hleaf
      rw [or_iff_left fun h => hkind.kind_ne_openBracket h.1]
      unfold term
      simp only [hleaf, Except.ok.injEq, Prod.mk.injEq]
      refine ⟨?_, ?_⟩
      · rintro ⟨rfl, rfl⟩
        exact ⟨kind, hkind, rfl, rfl⟩
      · rintro ⟨kind', hkind', rfl, rfl⟩
        rw [hkind.unique hkind']
        exact ⟨rfl, rfl⟩

/-- **Terms are read as the grammar has them**, `levels` groups deep. -/
theorem readsTerms_term (stop levels : Nat) : ReadsTerms (term stop levels) levels := by
  induction levels with
  | zero =>
    -- no group can be opened, and the trees have none
    apply readsTerms_of_groups
    intro t ts rule rest hopening
    have hleaf : leafKind? t = none := by rw [leafKind?, hopening]
    unfold term
    simp [hleaf, hopening]
  | succ levels ih =>
    apply readsTerms_of_groups
    intro t ts rule rest hopening
    simp only [Nat.lt_succ_iff]
    exact group_eq_ok_iff ih hopening

/-! ## Definitions -/

section Definitions

variable {stop anchor : Nat} {ts rest : List Token}

theorem alternative_eq_ok_iff {rule : Rule} :
    alternative stop anchor ts = .ok (rule, rest) ↔
      ∃ tree : Items, tree.Valid ∧ tree.depth ≤ 64 ∧ tree.alternative anchor = rule ∧
        ts = tree.tokens ++ rest ∧ endsItems rest = true := by
  rw [alternative, bind_eq_ok_iff]
  refine ⟨?_, ?_⟩
  · rintro ⟨⟨parts, left⟩, hitems, ⟨⟩⟩
    obtain ⟨tree, hvalid, hdepth, rfl, htokens⟩ :=
      (items_eq_ok_iff (readsTerms_term stop maxNesting)).mp hitems
    exact ⟨tree, hvalid, hdepth, rfl, htokens⟩
  · rintro ⟨tree, hvalid, hdepth, rfl, htokens⟩
    exact ⟨(tree.rules, rest),
      (items_eq_ok_iff (readsTerms_term stop maxNesting)).mpr
        ⟨tree, hvalid, hdepth, rfl, htokens⟩, rfl⟩

/-- Alternatives are read up to where the definition ends. -/
theorem alternatives_tokens {first : Items} {others : List (Token × Items)} (hvalid : first.Valid)
    (hdepth : first.depth ≤ 64) (hvalids : ∀ other ∈ others, other.1.kind = .pipe ∧ other.2.Valid)
    (hdepths : ∀ other ∈ others, other.2.depth ≤ 64) (hrest : EndsDefinition rest) :
    alternatives stop anchor (first.tokens ++ (othersTokens others ++ rest)) =
      .ok (first.alternative anchor :: othersAlternatives others, rest) := by
  induction others generalizing first anchor with
  | nil =>
    have hfirst : alternative stop anchor (first.tokens ++ rest) = .ok (_, rest) :=
      alternative_eq_ok_iff.mpr ⟨first, hvalid, hdepth, rfl, rfl, hrest.endsItems⟩
    rw [alternatives, othersTokens_nil, List.nil_append, hfirst]
    -- no `|` follows, so the loop stops
    cases rest with
    | nil => rfl
    | cons t rest => exact if_neg fun h => hrest.ne_pipe t rfl h.1
  | cons other others ih =>
    obtain ⟨pipe, items⟩ := other
    obtain ⟨hpipe, hitems⟩ := hvalids _ List.mem_cons_self
    have hvalids' := fun other hmem => hvalids other (List.mem_cons_of_mem _ hmem)
    have hends := endsItems_othersTokens hvalids hrest
    have hfirst : alternative stop anchor
        (first.tokens ++ (othersTokens ((pipe, items) :: others) ++ rest)) = .ok (_, _) :=
      alternative_eq_ok_iff.mpr ⟨first, hvalid, hdepth, rfl, rfl, hends⟩
    have hothers : alternatives stop pipe.span.stop
        (items.tokens ++ (othersTokens others ++ rest)) = _ :=
      ih hitems (hdepths _ List.mem_cons_self) hvalids'
        fun other hmem => hdepths other (List.mem_cons_of_mem _ hmem)
    rw [alternatives, hfirst]
    simp only [othersTokens_cons, List.cons_append, List.append_assoc, hothers]
    rw [if_pos]
    · rfl
    · refine ⟨hpipe, ?_⟩
      simp only [List.length_append, List.length_cons]
      omega

/-- **What is read as alternatives** are those of a definition that ends where the reader stops. -/
theorem alternatives_eq_ok_iff {rules : List Rule} :
    alternatives stop anchor ts = .ok (rules, rest) ↔
      ∃ (first : Items) (others : List (Token × Items)), first.Valid ∧ first.depth ≤ 64 ∧
        (∀ other ∈ others, other.1.kind = .pipe ∧ other.2.Valid) ∧
        (∀ other ∈ others, other.2.depth ≤ 64) ∧
        first.alternative anchor :: othersAlternatives others = rules ∧
        ts = first.tokens ++ (othersTokens others ++ rest) ∧ EndsDefinition rest := by
  refine ⟨?_, ?_⟩
  · intro h
    fun_induction alternatives stop anchor ts generalizing rules with
    | case1 anchor ts e hfirst => cases h
    | case2 anchor ts first hfirst =>
      cases h
      obtain ⟨tree, hvalid, hdepth, rfl, rfl, hends⟩ := alternative_eq_ok_iff.mp hfirst
      exact ⟨tree, [], hvalid, hdepth, List.forall_mem_nil _, List.forall_mem_nil _, rfl, rfl,
        hends, by simp⟩
    | case3 anchor ts first pipe left hfirst hpipe e hothers ih => cases h
    | case4 anchor ts first pipe left hfirst hpipe rules left' hothers ih =>
      cases h
      obtain ⟨tree, hvalid, hdepth, rfl, rfl, -⟩ := alternative_eq_ok_iff.mp hfirst
      obtain ⟨items, others, hitems, hdepth', hvalids, hdepths, rfl, rfl, hrest⟩ := ih hothers
      refine ⟨tree, (pipe, items) :: others, hvalid, hdepth,
        List.forall_mem_cons.mpr ⟨⟨hpipe.1, hitems⟩, hvalids⟩,
        List.forall_mem_cons.mpr ⟨hdepth', hdepths⟩, rfl, ?_, hrest⟩
      rw [othersTokens_cons, List.cons_append, List.append_assoc]
    | case5 anchor ts first t left hfirst hpipe =>
      -- the loop did not stop for want of tokens: the sign has used one
      cases h
      obtain ⟨tree, hvalid, hdepth, rfl, rfl, hends⟩ := alternative_eq_ok_iff.mp hfirst
      refine ⟨tree, [], hvalid, hdepth, List.forall_mem_nil _, List.forall_mem_nil _, rfl, rfl,
        hends, ?_⟩
      intro t' ht hkind
      cases ht
      refine hpipe ⟨hkind, ?_⟩
      rw [List.length_append, List.length_cons]
      omega
  · rintro ⟨first, others, hvalid, hdepth, hvalids, hdepths, rfl, rfl, hrest⟩
    exact alternatives_tokens hvalid hdepth hvalids hdepths hrest

theorem ruleName_eq_ok_iff {name : Identifier} :
    ruleName stop ts = .ok (name, rest) ↔
      ∃ t : Token, t.kind = .word ∧ ¬ t.text.toList.head?.any Text.isModifier ∧
        ⟨t.text, t.span⟩ = name ∧ ts = t :: rest := by
  rw [ruleName, bind_eq_ok_iff]
  refine ⟨?_, ?_⟩
  · rintro ⟨⟨t, left⟩, hword, hplain⟩
    obtain ⟨hkind, rfl⟩ := expect_eq_ok_iff.mp hword
    dsimp only at hplain
    split_ifs at hplain with hmodifier
    · cases hplain
    · cases hplain
      exact ⟨t, hkind, hmodifier, rfl, rfl⟩
  · rintro ⟨t, hkind, hmodifier, rfl, rfl⟩
    refine ⟨(t, rest), expect_eq_ok_iff.mpr ⟨hkind, rfl⟩, ?_⟩
    dsimp only
    rw [if_neg hmodifier]
    rfl

/-- **What is read as a definition** is one that ends where the reader stops. -/
theorem ruleDef_eq_ok_iff {definition : RuleDef} :
    ruleDef stop ts = .ok (definition, rest) ↔
      ∃ tree : Definition, tree.Valid ∧ tree.Fits 64 ∧ tree.ruleDef = definition ∧
        ts = tree.tokens ++ rest ∧ EndsDefinition rest := by
  simp only [ruleDef, bind_eq_ok_iff, Prod.exists, ruleName_eq_ok_iff, expect_eq_ok_iff,
    alternatives_eq_ok_iff]
  refine ⟨?_, ?_⟩
  · rintro ⟨_, _, ⟨name, hname, hplain, rfl, rfl⟩, colon, _, ⟨hcolon, rfl⟩, _, _,
      ⟨first, others, hvalid, hdepth, hvalids, hdepths, rfl, rfl, hends⟩, ⟨⟩⟩
    refine ⟨⟨name, colon, first, others⟩, ⟨hname, hplain, hcolon, hvalid, hvalids⟩,
      ⟨hdepth, hdepths⟩, rfl, ?_, hends⟩
    simp only [Definition.tokens, List.cons_append, List.append_assoc]
  · rintro ⟨tree, hvalid, hfits, rfl, rfl, hends⟩
    refine ⟨_, _, ⟨tree.name, hvalid.name_kind, hvalid.name_plain, rfl, rfl⟩, tree.colon, _,
      ⟨hvalid.colon_kind, rfl⟩, _, rest, ⟨tree.first, tree.others, hvalid.first, hfits.first,
      hvalid.others, hfits.others, rfl, ?_, hends⟩, rfl⟩
    simp only [List.append_eq, List.append_assoc]

/-- **What is read as definitions** is made of definitions up to the last token. -/
theorem ruleDefs_eq_ok_iff {definitions : List RuleDef} :
    ruleDefs stop ts = .ok definitions ↔
      ∃ trees : List Definition, (∀ tree ∈ trees, tree.Valid) ∧ (∀ tree ∈ trees, tree.Fits 64) ∧
        trees.map Definition.ruleDef = definitions ∧ ts = definitionsTokens trees := by
  refine ⟨?_, ?_⟩
  · intro h
    fun_induction ruleDefs stop ts generalizing definitions with
    | case1 ts hempty =>
      cases h
      exact ⟨[], List.forall_mem_nil _, List.forall_mem_nil _, rfl, List.isEmpty_iff.mp hempty⟩
    | case2 ts hempty e hfirst => cases h
    | case3 ts hempty first left hfirst hlength e hothers ih => cases h
    | case4 ts hempty first left hfirst hlength others hothers ih =>
      cases h
      obtain ⟨tree, hvalid, hfits, rfl, rfl, -⟩ := ruleDef_eq_ok_iff.mp hfirst
      obtain ⟨trees, hvalids, hfits', rfl, rfl⟩ := ih hothers
      exact ⟨tree :: trees, List.forall_mem_cons.mpr ⟨hvalid, hvalids⟩,
        List.forall_mem_cons.mpr ⟨hfits, hfits'⟩, rfl, rfl⟩
    | case5 ts hempty first left hfirst hlength =>
      -- a definition has a token, so the reader has used one
      obtain ⟨tree, -, -, -, rfl, -⟩ := ruleDef_eq_ok_iff.mp hfirst
      have hpos := tree.length_tokens_pos
      rw [List.length_append] at hlength
      omega
  · rintro ⟨trees, hvalids, hfits, rfl, rfl⟩
    induction trees with
    | nil =>
      rw [ruleDefs]
      rfl
    | cons tree trees ih =>
      obtain ⟨hvalid, hvalids⟩ := List.forall_mem_cons.mp hvalids
      obtain ⟨hfits, hfits'⟩ := List.forall_mem_cons.mp hfits
      have hpos := tree.length_tokens_pos
      have hfirst : ruleDef stop (tree.tokens ++ definitionsTokens trees) = .ok (_, _) :=
        ruleDef_eq_ok_iff.mpr
          ⟨tree, hvalid, hfits, rfl, rfl, endsDefinition_definitionsTokens hvalids⟩
      rw [ruleDefs, definitionsTokens_cons, hfirst, if_neg]
      · simp only [ih hvalids hfits', List.length_append, List.map_cons]
        rw [if_pos]
        omega
      · rw [List.isEmpty_iff_length_eq_zero, List.length_append]
        omega

end Definitions

/-! ## The declaration -/

section Declaration

variable {stop : Nat} {ts rest : List Token}

theorem keyword_eq_ok_iff {text : String} :
    keyword text ts = .ok rest ↔
      ∃ t : Token, (t.kind = .word ∧ t.text = text) ∧ ts = t :: rest := by
  cases ts with
  | nil => simp [keyword]
  | cons first others =>
    rw [keyword]
    split_ifs with hfirst
    · simp only [Except.ok.injEq, List.cons.injEq]
      refine ⟨?_, ?_⟩
      · rintro rfl
        exact ⟨first, hfirst, rfl, rfl⟩
      · rintro ⟨_, -, -, rfl⟩
        rfl
    · refine ⟨?_, ?_⟩
      · rintro ⟨⟩
      · rintro ⟨t, ht, heq⟩
        obtain ⟨rfl, -⟩ := List.cons.inj heq
        exact absurd ht hfirst

/-- **The segments of a name** are read up to the first token that is no `::`. -/
theorem nameSegments_eq_ok_iff {nameStop last : Nat} :
    nameSegments stop nameStop ts = .ok (last, rest) ↔
      ∃ segments : List (Token × Token),
        (∀ segment ∈ segments, segment.1.kind = .doubleColon ∧ segment.2.kind = .word) ∧
        segmentsStop nameStop segments = last ∧ ts = segmentsTokens segments ++ rest ∧
        ∀ t ∈ rest.head?, t.kind ≠ .doubleColon := by
  refine ⟨?_, ?_⟩
  · intro h
    fun_induction nameSegments stop nameStop ts generalizing last with
    | case1 nameStop =>
      cases h
      exact ⟨[], List.forall_mem_nil _, rfl, rfl, by simp⟩
    | case2 nameStop colons left hcolons e hword => cases h
    | case3 nameStop colons left hcolons word left' hword ih =>
      obtain ⟨hkind, rfl⟩ := expect_eq_ok_iff.mp hword
      obtain ⟨segments, hsegments, rfl, rfl, hrest⟩ := ih h
      refine ⟨(colons, word) :: segments, List.forall_mem_cons.mpr ⟨⟨hcolons, hkind⟩, hsegments⟩,
        segmentsStop_cons .., rfl, hrest⟩
    | case4 nameStop t left hcolons =>
      cases h
      refine ⟨[], List.forall_mem_nil _, rfl, rfl, fun t' ht => ?_⟩
      cases ht
      exact hcolons
  · rintro ⟨segments, hsegments, rfl, rfl, hrest⟩
    induction segments generalizing nameStop with
    | nil =>
      rw [segmentsTokens_nil, List.nil_append]
      cases rest with
      | nil =>
        rw [nameSegments]
        rfl
      | cons t rest =>
        rw [nameSegments, if_neg (hrest t rfl)]
        rfl
    | cons segment segments ih =>
      obtain ⟨colons, word⟩ := segment
      obtain ⟨⟨hcolons, hkind⟩, hsegments⟩ := List.forall_mem_cons.mp hsegments
      have hword : expect stop .word .nameSegment (word :: (segmentsTokens segments ++ rest)) =
          .ok (word, _) := expect_eq_ok_iff.mpr ⟨hkind, rfl⟩
      rw [segmentsTokens_cons, List.cons_append, List.cons_append, nameSegments, if_pos hcolons,
        hword, segmentsStop_cons]
      exact ih hsegments

/-- **What is read as the declaration** is one, and the span is that of its name. -/
theorem header_eq_ok_iff {name : Span} :
    header stop ts = .ok (name, rest) ↔
      ∃ (unitWord grammarWord first : Token) (segments : List (Token × Token)) (semicolon : Token),
        (unitWord.kind = .word ∧ unitWord.text = "unit") ∧
        (grammarWord.kind = .word ∧ grammarWord.text = "grammar") ∧ first.kind = .word ∧
        (∀ segment ∈ segments, segment.1.kind = .doubleColon ∧ segment.2.kind = .word) ∧
        semicolon.kind = .semicolon ∧
        ⟨first.span.start, segmentsStop first.span.stop segments⟩ = name ∧
        ts =
          unitWord :: grammarWord :: first :: (segmentsTokens segments ++ semicolon :: rest) := by
  simp only [header, bind_eq_ok_iff, Prod.exists, keyword_eq_ok_iff, expect_eq_ok_iff,
    nameSegments_eq_ok_iff]
  refine ⟨?_, ?_⟩
  · rintro ⟨_, ⟨unitWord, hunit, rfl⟩, _, ⟨grammarWord, hgrammar, rfl⟩, first, _, ⟨hfirst, rfl⟩,
      _, _, ⟨segments, hsegments, rfl, rfl, -⟩, semicolon, _, ⟨hsemicolon, rfl⟩, ⟨⟩⟩
    exact ⟨unitWord, grammarWord, first, segments, semicolon, hunit, hgrammar, hfirst, hsegments,
      hsemicolon, rfl, rfl⟩
  · rintro ⟨unitWord, grammarWord, first, segments, semicolon, hunit, hgrammar, hfirst, hsegments,
      hsemicolon, rfl, rfl⟩
    refine ⟨_, ⟨unitWord, hunit, rfl⟩, _, ⟨grammarWord, hgrammar, rfl⟩, first, _, ⟨hfirst, rfl⟩,
      _, _, ⟨segments, hsegments, rfl, rfl, ?_⟩, semicolon, rest, ⟨hsemicolon, rfl⟩, rfl⟩
    -- the name ends at the semicolon, which is no `::`
    intro t ht hkind
    cases ht
    rw [hsemicolon] at hkind
    cases hkind

end Declaration

end FanServer.Parse

namespace FanServer

/-- A grammar is parsed exactly if it is that of a tree whose tokens are those of the text and whose
groups do not nest too deep. -/
theorem Grammar.parse_eq_ok_iff {text : String} {grammar : Grammar} :
    Grammar.parse text = .ok grammar ↔
      ∃ document : Document, document.Valid ∧
        (∀ definition ∈ document.definitions, definition.Fits 64) ∧
        Token.scan text = .ok document.tokens ∧ document.grammar text = grammar := by
  simp only [Grammar.parse, Parse.bind_eq_ok_iff, Prod.exists, Parse.header_eq_ok_iff,
    Parse.ruleDefs_eq_ok_iff]
  refine ⟨?_, ?_⟩
  · rintro ⟨tokens, hscan, _, _, ⟨unitWord, grammarWord, first, segments, semicolon, hunit,
      hgrammar, hfirst, hsegments, hsemicolon, rfl, rfl⟩, _,
      ⟨definitions, hvalid, hfits, rfl, rfl⟩, ⟨⟩⟩
    exact ⟨⟨unitWord, grammarWord, first, segments, semicolon, definitions⟩,
      ⟨hunit, hgrammar, hfirst, hsegments, hsemicolon, hvalid⟩, hfits, hscan, rfl⟩
  · rintro ⟨document, hvalid, hfits, hscan, rfl⟩
    exact ⟨_, hscan, _, _, ⟨document.unitWord, document.grammarWord, document.first,
      document.segments, document.semicolon, hvalid.unitWord, hvalid.grammarWord, hvalid.first,
      hvalid.segments, hvalid.semicolon, rfl, rfl⟩, _,
      ⟨document.definitions, hvalid.definitions, hfits, rfl, rfl⟩, rfl⟩

theorem Grammar.exists_document_of_parse {text : String} {grammar : Grammar}
    (h : Grammar.parse text = .ok grammar) :
    ∃ document : Document, document.Valid ∧ Token.scan text = .ok document.tokens ∧
      document.grammar text = grammar := by
  obtain ⟨document, hvalid, -, hscan, heq⟩ := Grammar.parse_eq_ok_iff.mp h
  exact ⟨document, hvalid, hscan, heq⟩

/-- **Parsing a grammar document** succeeds exactly if its tokens are derived by a tree of the
grammar, and gives the grammar that the tree stands for. There is no other tree of these tokens. -/
theorem Grammar.parse_eq_ok_iff_derives (text : String) (grammar : Grammar) :
    (Grammar.parse text = .ok grammar ↔
      ∃ tokens, Token.scan text = .ok tokens ∧
        ∃ document : Document, document.Derives tokens ∧ document.grammar text = grammar) ∧
    ∀ tokens, Subsingleton {document : Document // document.Derives tokens} := by
  refine ⟨?_, ?_⟩
  · rw [Grammar.parse_eq_ok_iff]
    -- the depth of the tree can be told from its tokens
    refine ⟨?_, ?_⟩
    · rintro ⟨document, hvalid, hfits, hscan, heq⟩
      have hnests := (Document.nestsWithin_tokens hvalid).mpr hfits
      exact ⟨document.tokens, hscan, document, ⟨rfl, hvalid, hnests⟩, heq⟩
    · rintro ⟨_, hscan, document, ⟨rfl, hvalid, hnests⟩, heq⟩
      exact ⟨document, hvalid, (Document.nestsWithin_tokens hvalid).mp hnests, hscan, heq⟩
  · intro tokens
    refine ⟨?_⟩
    rintro ⟨document, h⟩ ⟨document', h'⟩
    have heq : document.tokens = document'.tokens := h.tokens_eq.trans h'.tokens_eq.symm
    exact Subtype.ext (Document.eq_of_tokens_eq h.valid h'.valid heq)

end FanServer
