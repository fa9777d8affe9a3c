import FanServer.Proofs.Continuation

/-!
# Texts that are cut short

A text that ends too early is told from one that is malformed: **only the former can be completed**
by further lines. Each reader that fails comes to one of two verdicts about its tokens
(`Parse.Verdict`):

* `incomplete` — the tokens end where something is called for, and with tokens of certain kinds
  behind them they are those of a tree;
* `final` — the error is about a token, and it stays the same whatever follows.

The verdict of a reader is found from those of the readers it calls (`Parse.Verdict.step`). What has
to be looked at are the places where a reader looks ahead: a word that stands last may be the name
of the next definition, and a range that stands last may be followed by a separator. No error comes
from such a place.

* `Parse.rereads_term`, `Parse.ruleDefs_verdict`, `Parse.header_verdict` — the verdicts;
* `exists_scanFrom_kinds` — for tokens of any kinds there is a text.

Main result: `Grammar.unexpectedEnd_iff_completable`.
-/

open FanServer.Derivation

namespace FanServer

/-- The error says that the text ends too early. -/
def SyntaxError.IsEnd : SyntaxError → Prop
  | .unexpectedEnd _ _ => True
  | _ => False

namespace Parse

/-! ## Verdicts -/

/-- **What an error says of the tokens in which it was found.** Tokens that are `Complete` could
have been read, and `again` reads the tokens once more when others have come behind them. -/
inductive Verdict {α : Type} (Complete : List Token → Prop)
    (again : List Token → Except SyntaxError α) (ts : List Token) : SyntaxError → Prop where
  /-- the tokens end too early: with tokens of the kinds behind them they are complete -/
  | incomplete (expected : Expectation) (offset : Nat) (kinds : List TokenKind)
      (complete : ∀ us : List Token, us.map Token.kind = kinds → Complete (ts ++ us)) :
      Verdict Complete again ts (.unexpectedEnd expected offset)
  /-- the error stays, whatever comes behind the tokens -/
  | final {e : SyntaxError} (notEnd : ¬ e.IsEnd) (stays : ∀ us, again (ts ++ us) = .error e) :
      Verdict Complete again ts e

/-- A reader comes to the verdict of the reader that it calls. To complete its own tokens, it may
need tokens of `more` kinds behind those that complete what the other has read. -/
theorem Verdict.step {α β : Type} {P Q : List Token → Prop}
    {inner : List Token → Except SyntaxError α} {outer : List Token → Except SyntaxError β}
    {ts ts' : List Token} {e : SyntaxError} (h : Verdict P inner ts e) (more : List TokenKind)
    (hcomplete : ∀ us vs, P (ts ++ us) → vs.map Token.kind = more → Q (ts' ++ (us ++ vs)))
    (hfinal : ∀ us, inner (ts ++ us) = .error e → outer (ts' ++ us) = .error e) :
    Verdict Q outer ts' e := by
  cases h with
  | incomplete expected offset kinds complete =>
    refine .incomplete expected offset (kinds ++ more) ?_
    intro ws hkinds
    obtain ⟨us, vs, rfl, hus, hvs⟩ := List.map_eq_append_iff.mp hkinds
    exact hcomplete us vs (complete us hus) hvs
  | final notEnd stays => exact .final notEnd fun us => hfinal us (stays us)

/-- The same, where nothing more is needed. -/
theorem Verdict.map {α β : Type} {P Q : List Token → Prop}
    {inner : List Token → Except SyntaxError α} {outer : List Token → Except SyntaxError β}
    {ts ts' : List Token} {e : SyntaxError} (h : Verdict P inner ts e)
    (hcomplete : ∀ us, P (ts ++ us) → Q (ts' ++ us))
    (hfinal : ∀ us, inner (ts ++ us) = .error e → outer (ts' ++ us) = .error e) :
    Verdict Q outer ts' e := by
  apply h.step [] _ hfinal
  intro us vs hus hvs
  rw [List.map_eq_nil_iff.mp hvs, List.append_nil]
  exact hcomplete us hus

theorem bind_eq_error_iff {ε α β : Type} {x : Except ε α} {f : α → Except ε β} {e : ε} :
    x >>= f = .error e ↔ x = .error e ∨ ∃ a, x = .ok a ∧ f a = .error e := by
  cases x with
  | error e' => simp [bind, Except.bind]
  | ok a => simp [bind, Except.bind]

section Tokens

variable {stop : Nat} {kind : TokenKind} {expected : Expectation} {ts : List Token}
  {e : SyntaxError}

theorem expect_eq_error_iff :
    expect stop kind expected ts = .error e ↔
      (ts = [] ∧ e = .unexpectedEnd expected stop) ∨
      ∃ t rest, ts = t :: rest ∧ t.kind ≠ kind ∧ e = .unexpectedToken expected t.text t.span := by
  cases ts with
  | nil => simp [expect, eq_comm]
  | cons t rest =>
    rw [expect]
    split_ifs with hkind
    · simp [hkind]
    · simp only [Except.error.injEq, List.cons.injEq]
      refine ⟨?_, ?_⟩
      · rintro rfl
        exact .inr ⟨t, rest, ⟨rfl, rfl⟩, hkind, rfl⟩
      · rintro (⟨⟨⟩, -⟩ | ⟨_, _, ⟨rfl, rfl⟩, -, rfl⟩)
        rfl

theorem endsItems_append (h : endsItems ts = true) (hne : ts ≠ []) (us : List Token) :
    endsItems (ts ++ us) = true := by
  rcases ts with _ | ⟨t, _ | ⟨next, rest⟩⟩
  · exact absurd rfl hne
  · unfold endsItems at h ⊢
    rcases hkind : t.kind <;> simp_all
  · exact h

/-- Whether items go on is settled by two tokens, and by one unless it is a word. -/
theorem endsItems_append_eq_false (h : endsItems ts = false)
    (hword : ∀ t, ts = [t] → t.kind ≠ .word) (us : List Token) : endsItems (ts ++ us) = false := by
  rcases ts with _ | ⟨t, _ | ⟨next, rest⟩⟩
  · cases h
  · have hkind := hword t rfl
    unfold endsItems at h ⊢
    rcases hkind : t.kind <;> simp_all
  · exact h

end Tokens

/-! ## Items -/

/-- The tokens are those of a term. -/
def IsTerm (levels : Nat) (ts : List Token) : Prop :=
  ∃ tree : Term, tree.Valid ∧ tree.depth ≤ levels ∧ tree.tokens = ts

/-- The tokens are those of an item. -/
def IsItem (levels : Nat) (ts : List Token) : Prop :=
  ∃ tree : Item, tree.Valid ∧ tree.depth ≤ levels ∧ tree.tokens = ts

/-- The tokens are those of items. -/
def IsItems (levels : Nat) (ts : List Token) : Prop :=
  ∃ tree : Items, tree.Valid ∧ tree.depth ≤ levels ∧ tree.tokens = ts

/-- The first reader reads terms, and the second reads them again in a text that goes on. -/
structure Rereads (term term' : Reader Rule) (levels : Nat) : Prop where
  /-- the first reads terms -/
  reads : ReadsTerms term levels
  /-- the second does too -/
  again : ReadsTerms term' levels
  /-- where the first fails, there is a verdict -/
  verdict : ∀ ts e, term ts = .error e → Verdict (IsTerm levels) term' ts e

section Items

variable {term term' : Reader Rule} {levels : Nat} {ts : List Token} {e : SyntaxError}

theorem Rereads.append (hterm : Rereads term term' levels) {rule : Rule} {rest : List Token}
    (h : term ts = .ok (rule, rest)) (us : List Token) :
    term' (ts ++ us) = .ok (rule, rest ++ us) := by
  obtain ⟨tree, hvalid, hdepth, hrule, rfl⟩ := (hterm.reads _ _ _).mp h
  exact (hterm.again _ _ _).mpr ⟨tree, hvalid, hdepth, hrule, List.append_assoc ..⟩

theorem separator_eq_error_iff :
    separator term ts = .error e ↔
      ∃ marker rest, ts = marker :: rest ∧ IsMarker marker ∧ term rest = .error e := by
  cases ts with
  | nil => simp [separator]
  | cons marker rest =>
    rw [separator]
    split_ifs with hmarker
    · rw [isSeparatorMarker_iff] at hmarker
      cases hread : term rest with
      | error e' => simp [hmarker, hread]
      | ok result => simp [hread]
    · rw [isSeparatorMarker_iff] at hmarker
      simp [hmarker]

/-- A separator that something follows is read again, and so is one that is not there. -/
theorem separator_append (hterm : Rereads term term' levels) {clause : Option Separator} {t : Token}
    {rest : List Token} (h : separator term ts = .ok (clause, t :: rest)) (us : List Token) :
    separator term' (ts ++ us) = .ok (clause, t :: rest ++ us) := by
  rcases (separator_eq_ok_iff hterm.reads).mp h with
    ⟨rfl, rfl, hnone⟩ | ⟨marker, tree, hmarker, hvalid, hdepth, rfl, rfl⟩
  · exact (separator_eq_ok_iff hterm.again).mpr (.inl ⟨rfl, rfl, hnone⟩)
  · refine (separator_eq_ok_iff hterm.again).mpr
      (.inr ⟨marker, tree, hmarker, hvalid, hdepth, rfl, ?_⟩)
    rw [List.cons_append, List.append_assoc]

theorem item_append (hterm : Rereads term term' levels) {rule : Rule} {t : Token}
    {rest : List Token} (h : item term ts = .ok (rule, t :: rest)) (us : List Token) :
    item term' (ts ++ us) = .ok (rule, t :: rest ++ us) := by
  rw [item] at h
  split at h
  · cases h
  · cases h
  · next rule' range left hread =>
    rw [item, hterm.append hread, List.cons_append]
    dsimp only
    split_ifs at h ⊢
    · split at h
      · cases h
      · next clause left' hclause =>
        cases h
        rw [separator_append hterm hclause]
    · cases h
      rfl

theorem item_verdict (hterm : Rereads term term' levels) (h : item term ts = .error e) :
    Verdict (IsItem levels) (item term') ts e := by
  rw [item] at h
  split at h
  · next e' hread =>
    cases h
    apply (hterm.verdict ts e hread).map
    · rintro us ⟨tree, hvalid, hdepth, htokens⟩
      refine ⟨.plain tree, hvalid, hdepth, ?_⟩
      rw [Item.tokens, htokens]
    · intro us hus
      rw [item, hus]
  · cases h
  · next rule range left hread =>
    -- the term was read, and is read again
    have hagain := hterm.append hread
    obtain ⟨tree, hvalid, hdepth, rfl, rfl⟩ := (hterm.reads _ _ _).mp hread
    split_ifs at h with hkind hstart
    · split at h
      · next e' hclause =>
        cases h
        obtain ⟨marker, left', rfl, hmarker, hread'⟩ := separator_eq_error_iff.mp hclause
        apply (hterm.verdict left' e hread').map
        · rintro us ⟨separator, hvalid', hdepth', htokens⟩
          rw [stop_rule] at hstart
          refine ⟨.separated tree range marker separator,
            ⟨hvalid, ⟨hkind, hstart⟩, hmarker, hvalid'⟩, Nat.max_le.mpr ⟨hdepth, hdepth'⟩, ?_⟩
          rw [Item.tokens, htokens]
          simp
        · intro us hus
          have hclause' : separator term' (marker :: left' ++ us) = .error e :=
            separator_eq_error_iff.mpr ⟨marker, left' ++ us, rfl, hmarker, hus⟩
          rw [item, hagain, List.cons_append]
          dsimp only
          rw [if_pos hkind, if_pos hstart, hclause']
      · cases h
    · cases h
      refine .final id fun us => ?_
      rw [item, hagain, List.cons_append]
      dsimp only
      rw [if_pos hkind, if_neg hstart]

/-- A word that stands last is read as an item. -/
theorem item_word (hterm : ReadsTerms term levels) {t : Token} (hkind : t.kind = .word) :
    ∃ rule, item term [t] = .ok (rule, []) := by
  have hread : term [t] = .ok (_, []) :=
    (hterm _ _ _).mpr ⟨.leaf t _, Leaf.word hkind, Nat.zero_le _, rfl, rfl⟩
  rw [item, hread]
  exact ⟨_, rfl⟩

theorem items_verdict (hterm : Rereads term term' levels) (h : items term ts = .error e) :
    Verdict (IsItems levels) (items term') ts e := by
  fun_induction items term ts with
  | case1 ts hends => cases h
  | case2 ts hends e' hitem =>
    cases h
    apply (item_verdict hterm hitem).map
    · rintro us ⟨tree, hvalid, hdepth, htokens⟩
      refine ⟨.cons tree .nil, ⟨hvalid, trivial⟩, by simpa [Items.depth] using hdepth, ?_⟩
      rw [Items.tokens, Items.tokens, htokens, List.append_nil]
    · intro us hus
      have hgoes : endsItems (ts ++ us) = false := by
        refine endsItems_append_eq_false (Bool.eq_false_iff.mpr hends) ?_ us
        rintro t rfl hkind
        obtain ⟨rule, hword⟩ := item_word hterm.reads hkind
        rw [hword] at hitem
        cases hitem
      rw [items, hgoes, if_neg Bool.false_ne_true, hus]
  | case3 ts hends rule left hitem hlength e' hitems ih =>
    cases h
    -- an error needs a token, so the item is followed by one
    cases left with
    | nil =>
      rw [items] at hitems
      cases hitems
    | cons t left =>
      have hagain := item_append hterm hitem
      obtain ⟨tree, hvalid, hdepth, -, rfl⟩ := exists_of_item_eq_ok hterm.reads hitem
      apply (ih hitems).map
      · rintro us ⟨trees, hvalid', hdepth', htokens⟩
        refine ⟨.cons tree trees, ⟨hvalid, hvalid'⟩, Nat.max_le.mpr ⟨hdepth, hdepth'⟩, ?_⟩
        rw [Items.tokens, htokens, List.append_assoc]
      · intro us hus
        have hgoes : endsItems (tree.tokens ++ t :: left ++ us) = false := by
          refine endsItems_append_eq_false (Bool.eq_false_iff.mpr hends) ?_ us
          intro t' heq
          have hpos := tree.length_tokens_pos
          have htwo := congrArg List.length heq
          rw [List.length_append, List.length_cons, List.length_singleton] at htwo
          omega
        have hshorter : (t :: left ++ us).length < (tree.tokens ++ t :: left ++ us).length := by
          rw [List.length_append, List.length_append]
          exact Nat.add_lt_add_right hlength _
        rw [items, hgoes, if_neg Bool.false_ne_true, hagain]
        dsimp only
        rw [if_pos hshorter, hus]
  | case4 ts hends rule left hitem hlength rules left' hitems ih => cases h
  | case5 ts hends rule left hitem hlength => cases h

theorem items_append (hterm : Rereads term term' levels) {rules : List Rule} {t : Token}
    {rest : List Token} (h : items term ts = .ok (rules, t :: rest)) (us : List Token) :
    items term' (ts ++ us) = .ok (rules, t :: rest ++ us) := by
  obtain ⟨tree, hvalid, hdepth, hrules, rfl, hends⟩ := (items_eq_ok_iff hterm.reads).mp h
  exact (items_eq_ok_iff hterm.again).mpr ⟨tree, hvalid, hdepth, hrules, List.append_assoc ..,
    endsItems_append hends (List.cons_ne_nil t rest) us⟩

end Items

/-! ## Terms -/

/-- A group comes to a verdict if the terms in it do. -/
theorem group_verdict {stop stop' levels : Nat}
    (hterm : Rereads (term stop levels) (term stop' levels) levels) {t : Token} {ts : List Token}
    {e : SyntaxError} (hopening : t.kind = .openBracket)
    (h : term stop (levels + 1) (t :: ts) = .error e) :
    Verdict (IsTerm (levels + 1)) (term stop' (levels + 1)) (t :: ts) e := by
  have hleaf : leafKind? t = none := by rw [leafKind?, hopening]
  unfold term at h
  simp only [hleaf, hopening, if_true] at h
  split at h
  · next e' hitems =>
    cases h
    apply (items_verdict hterm hitems).step [.closeBracket]
    · rintro us vs ⟨items, hvalid, hdepth, htokens⟩ hvs
      obtain ⟨closing, rfl, hclosing⟩ := List.map_eq_singleton_iff.mp hvs
      refine ⟨.group t items closing, ⟨hopening, hvalid, hclosing⟩, Nat.succ_le_succ hdepth, ?_⟩
      rw [Term.tokens, htokens]
      simp
    · intro us hus
      rw [List.cons_append]
      unfold term
      simp only [hleaf, hopening, if_true, hus]
  · next parts left hitems =>
    split at h
    · next e' hclosing =>
      cases h
      rcases expect_eq_error_iff.mp hclosing with ⟨rfl, rfl⟩ | ⟨x, left, rfl, hkind, rfl⟩
      · obtain ⟨items, hvalid, hdepth, -, rfl, -⟩ := (items_eq_ok_iff hterm.reads).mp hitems
        refine .incomplete .closeBracket stop [.closeBracket] ?_
        intro us hus
        obtain ⟨closing, rfl, hclosing⟩ := List.map_eq_singleton_iff.mp hus
        refine ⟨.group t items closing, ⟨hopening, hvalid, hclosing⟩, Nat.succ_le_succ hdepth, ?_⟩
        rw [Term.tokens, List.append_nil, List.cons_append]
      · refine .final id fun us => ?_
        have hclosing' : expect stop' .closeBracket .closeBracket (x :: left ++ us) = .error _ :=
          expect_eq_error_iff.mpr (.inr ⟨x, left ++ us, rfl, hkind, rfl⟩)
        rw [List.cons_append]
        unfold term
        simp only [hleaf, hopening, if_true, items_append hterm hitems us, hclosing']
    · cases h

/-- Terms come to a verdict if groups do. -/
theorem verdict_of_groups {stop stop' levels : Nat}
    (hgroup : ∀ t ts e, t.kind = .openBracket → term stop levels (t :: ts) = .error e →
      Verdict (IsTerm levels) (term stop' levels) (t :: ts) e) :
    ∀ ts e, term stop levels ts = .error e → Verdict (IsTerm levels) (term stop' levels) ts e := by
  rintro (_ | ⟨t, ts⟩) e h
  · -- any word is a term
    unfold term at h
    cases h
    refine .incomplete .ruleElement stop [.word] ?_
    intro us hus
    obtain ⟨t, rfl, hkind⟩ := List.map_eq_singleton_iff.mp hus
    exact ⟨.leaf t _, Leaf.word hkind, Nat.zero_le _, rfl⟩
  · by_cases hopening : t.kind = .openBracket
    · exact hgroup t ts e hopening h
    · unfold term at h
      rcases hleaf : leafKind? t with _ | kind
      · simp only [hleaf, hopening, if_false] at h
        cases h
        refine .final id fun us => ?_
        rw [List.cons_append]
        unfold term
        simp only [hleaf, hopening, if_false]
      · simp only [hleaf] at h
        cases h

/-- **Where a term cannot be read, there is a verdict.** -/
theorem rereads_term (stop stop' levels : Nat) :
    Rereads (term stop levels) (term stop' levels) levels := by
  induction levels with
  | zero =>
    refine ⟨readsTerms_term stop 0, readsTerms_term stop' 0, verdict_of_groups ?_⟩
    -- no group can be opened, whatever is in it
    intro t ts e hopening h
    have hleaf : leafKind? t = none := by rw [leafKind?, hopening]
    unfold term at h
    simp only [hleaf, hopening, if_true] at h
    cases h
    refine .final id fun us => ?_
    rw [List.cons_append]
    unfold term
    simp only [hleaf, hopening, if_true]
  | succ levels ih =>
    refine ⟨readsTerms_term stop _, readsTerms_term stop' _, verdict_of_groups ?_⟩
    intro t ts e hopening h
    exact group_verdict ih hopening h

/-! ## Definitions -/

/-- The tokens are those of alternatives. -/
def IsAlternatives (ts : List Token) : Prop :=
  ∃ (first : Items) (others : List (Token × Items)), first.Valid ∧ first.depth ≤ 64 ∧
    (∀ other ∈ others, other.1.kind = .pipe ∧ other.2.Valid) ∧
    (∀ other ∈ others, other.2.depth ≤ 64) ∧ first.tokens ++ othersTokens others = ts

/-- The tokens are those of a definition. -/
def IsDefinition (ts : List Token) : Prop :=
  ∃ tree : Definition, tree.Valid ∧ tree.Fits 64 ∧ tree.tokens = ts

/-- The tokens are those of definitions. -/
def IsDefinitions (ts : List Token) : Prop :=
  ∃ trees : List Definition, (∀ tree ∈ trees, tree.Valid) ∧ (∀ tree ∈ trees, tree.Fits 64) ∧
    definitionsTokens trees = ts

section Definitions

variable {stop anchor : Nat} {ts : List Token} {e : SyntaxError}

theorem alternative_eq_error_iff :
    alternative stop anchor ts = .error e ↔ items (term stop maxNesting) ts = .error e := by
  rw [alternative, bind_eq_error_iff]
  refine ⟨?_, .inl⟩
  rintro (h | ⟨_, -, ⟨⟩⟩)
  exact h

theorem alternative_append (stop' : Nat) {rule : Rule} {t : Token} {rest : List Token}
    (h : alternative stop anchor ts = .ok (rule, t :: rest)) (us : List Token) :
    alternative stop' anchor (ts ++ us) = .ok (rule, t :: rest ++ us) := by
  obtain ⟨tree, hvalid, hdepth, hrule, rfl, hends⟩ := alternative_eq_ok_iff.mp h
  exact alternative_eq_ok_iff.mpr ⟨tree, hvalid, hdepth, hrule, List.append_assoc ..,
    endsItems_append hends (List.cons_ne_nil t rest) us⟩

theorem alternatives_verdict (stop' : Nat) (h : alternatives stop anchor ts = .error e) :
    Verdict IsAlternatives (alternatives stop' anchor) ts e := by
  fun_induction alternatives stop anchor ts with
  | case1 anchor ts e' hfirst =>
    cases h
    apply (items_verdict (rereads_term stop stop' maxNesting)
      (alternative_eq_error_iff.mp hfirst)).map
    · rintro us ⟨tree, hvalid, hdepth, htokens⟩
      refine ⟨tree, [], hvalid, hdepth, List.forall_mem_nil _, List.forall_mem_nil _, ?_⟩
      rw [htokens, othersTokens_nil, List.append_nil]
    · intro us hus
      rw [alternatives, alternative_eq_error_iff.mpr hus]
  | case2 anchor ts first hfirst => cases h
  | case3 anchor ts first pipe left hfirst hpipe e' hothers ih =>
    cases h
    have hagain := alternative_append stop' hfirst
    obtain ⟨tree, hvalid, hdepth, -, rfl, -⟩ := alternative_eq_ok_iff.mp hfirst
    apply (ih hothers).map
    · rintro us ⟨items, others, hitems, hdepth', hvalids, hdepths, htokens⟩
      refine ⟨tree, (pipe, items) :: others, hvalid, hdepth,
        List.forall_mem_cons.mpr ⟨⟨hpipe.1, hitems⟩, hvalids⟩,
        List.forall_mem_cons.mpr ⟨hdepth', hdepths⟩, ?_⟩
      rw [othersTokens_cons, htokens]
      simp
    · intro us hus
      have hshorter : (left ++ us).length < (tree.tokens ++ pipe :: left ++ us).length := by
        simp only [List.length_append, List.length_cons]
        omega
      rw [alternatives, hagain, List.cons_append]
      dsimp only
      rw [if_pos ⟨hpipe.1, hshorter⟩, hus]
  | case4 anchor ts first pipe left hfirst hpipe rules left' hothers ih => cases h
  | case5 anchor ts first t left hfirst hpipe => cases h

/-- Whether a token names a rule does not depend on what follows it. -/
theorem ruleName_stays {t : Token} {rest : List Token} (h : ruleName stop (t :: rest) = .error e) :
    ¬ e.IsEnd ∧ ∀ stop' us, ruleName stop' (t :: rest ++ us) = .error e := by
  rw [ruleName, bind_eq_error_iff] at h
  rcases h with hword | ⟨⟨t', left⟩, hword, hmodifier⟩
  · rcases expect_eq_error_iff.mp hword with ⟨⟨⟩, -⟩ | ⟨_, _, heq, hkind, rfl⟩
    refine ⟨id, fun stop' us => ?_⟩
    rw [ruleName, bind_eq_error_iff, heq]
    exact .inl (expect_eq_error_iff.mpr (.inr ⟨_, _, rfl, hkind, rfl⟩))
  · obtain ⟨hkind, heq⟩ := expect_eq_ok_iff.mp hword
    obtain ⟨rfl, rfl⟩ := List.cons.inj heq
    dsimp only at hmodifier
    split_ifs at hmodifier with hany
    · cases hmodifier
      refine ⟨id, fun stop' us => ?_⟩
      rw [ruleName, bind_eq_error_iff]
      refine .inr ⟨(t, rest ++ us), expect_eq_ok_iff.mpr ⟨hkind, rfl⟩, ?_⟩
      dsimp only
      rw [if_pos hany]
      rfl
    · cases hmodifier

theorem ruleDef_verdict (stop' : Nat) {t : Token} {rest : List Token}
    (h : ruleDef stop (t :: rest) = .error e) :
    Verdict IsDefinition (ruleDef stop') (t :: rest) e := by
  rw [ruleDef, bind_eq_error_iff] at h
  rcases h with hname | ⟨⟨name, left⟩, hname, h⟩
  · obtain ⟨hend, hstays⟩ := ruleName_stays hname
    refine .final hend fun us => ?_
    rw [ruleDef, bind_eq_error_iff]
    exact .inl (hstays stop' us)
  obtain ⟨_, hword, hplain, rfl, heq⟩ := ruleName_eq_ok_iff.mp hname
  obtain ⟨rfl, rfl⟩ := List.cons.inj heq
  have hname' : ∀ us, ruleName stop' (t :: rest ++ us) = .ok (⟨t.text, t.span⟩, rest ++ us) :=
    fun us => ruleName_eq_ok_iff.mpr ⟨t, hword, hplain, rfl, rfl⟩
  dsimp only at h
  rw [bind_eq_error_iff] at h
  rcases h with hcolon | ⟨⟨colon, left⟩, hcolon, h⟩
  · rcases expect_eq_error_iff.mp hcolon with ⟨rfl, rfl⟩ | ⟨x, left, rfl, hkind, rfl⟩
    · refine .incomplete .colon stop [.colon] ?_
      intro us hus
      obtain ⟨colon, rfl, hkind⟩ := List.map_eq_singleton_iff.mp hus
      exact ⟨⟨t, colon, .nil, []⟩, ⟨hword, hplain, hkind, trivial, List.forall_mem_nil _⟩,
        ⟨Nat.zero_le _, List.forall_mem_nil _⟩, rfl⟩
    · refine .final id fun us => ?_
      rw [ruleDef, bind_eq_error_iff]
      refine .inr ⟨_, hname' us, bind_eq_error_iff.mpr (.inl ?_)⟩
      exact expect_eq_error_iff.mpr (.inr ⟨x, left ++ us, rfl, hkind, rfl⟩)
  · obtain ⟨hkind, rfl⟩ := expect_eq_ok_iff.mp hcolon
    dsimp only at h
    rw [bind_eq_error_iff] at h
    rcases h with halternatives | ⟨_, -, ⟨⟩⟩
    apply (alternatives_verdict stop' halternatives).map
    · rintro us ⟨first, others, hvalid, hdepth, hvalids, hdepths, htokens⟩
      refine ⟨⟨t, colon, first, others⟩, ⟨hword, hplain, hkind, hvalid, hvalids⟩,
        ⟨hdepth, hdepths⟩, ?_⟩
      rw [Definition.tokens, List.cons_append, List.cons_append, htokens]
      rfl
    · intro us hus
      rw [ruleDef, bind_eq_error_iff]
      refine .inr ⟨_, hname' us, bind_eq_error_iff.mpr (.inr ⟨(colon, left ++ us), ?_, ?_⟩)⟩
      · exact expect_eq_ok_iff.mpr ⟨hkind, rfl⟩
      · exact bind_eq_error_iff.mpr (.inl hus)

theorem ruleDef_append (stop' : Nat) {definition : RuleDef} {t : Token} {rest : List Token}
    (h : ruleDef stop ts = .ok (definition, t :: rest)) (us : List Token) :
    ruleDef stop' (ts ++ us) = .ok (definition, t :: rest ++ us) := by
  obtain ⟨tree, hvalid, hfits, hdefinition, rfl, hends⟩ := ruleDef_eq_ok_iff.mp h
  exact ruleDef_eq_ok_iff.mpr ⟨tree, hvalid, hfits, hdefinition, List.append_assoc ..,
    endsItems_append hends.endsItems (List.cons_ne_nil t rest) us, hends.ne_pipe⟩

/-- **Where definitions cannot be read, there is a verdict.** -/
theorem ruleDefs_verdict (stop' : Nat) (h : ruleDefs stop ts = .error e) :
    Verdict IsDefinitions (ruleDefs stop') ts e := by
  fun_induction ruleDefs stop ts with
  | case1 ts hempty => cases h
  | case2 ts hempty e' hfirst =>
    cases h
    cases ts with
    | nil => exact absurd rfl hempty
    | cons t rest =>
      apply (ruleDef_verdict stop' hfirst).map
      · rintro us ⟨tree, hvalid, hfits, htokens⟩
        refine ⟨[tree], List.forall_mem_singleton.mpr hvalid,
          List.forall_mem_singleton.mpr hfits, ?_⟩
        rw [definitionsTokens_cons, htokens, definitionsTokens_nil, List.append_nil]
      · intro us hus
        rw [ruleDefs, hus]
        rfl
  | case3 ts hempty first left hfirst hlength e' hothers ih =>
    cases h
    cases left with
    | nil =>
      rw [ruleDefs] at hothers
      cases hothers
    | cons t left =>
      have hagain := ruleDef_append stop' hfirst
      obtain ⟨tree, hvalid, hfits, -, rfl, -⟩ := ruleDef_eq_ok_iff.mp hfirst
      apply (ih hothers).map
      · rintro us ⟨trees, hvalids, hfits', htokens⟩
        refine ⟨tree :: trees, List.forall_mem_cons.mpr ⟨hvalid, hvalids⟩,
          List.forall_mem_cons.mpr ⟨hfits, hfits'⟩, ?_⟩
        rw [definitionsTokens_cons, htokens, List.append_assoc]
      · intro us hus
        have hshorter : (t :: left ++ us).length < (tree.tokens ++ t :: left ++ us).length := by
          have hpos := tree.length_tokens_pos
          simp only [List.length_append, List.length_cons]
          omega
        rw [ruleDefs, hagain, if_neg (by simp)]
        dsimp only
        rw [if_pos hshorter, hus]
  | case4 ts hempty first left hfirst hlength others hothers ih => cases h
  | case5 ts hempty first left hfirst hlength => cases h

end Definitions

/-! ## The declaration -/

/-- The tokens are those of the segments of a name. -/
def IsSegments (ts : List Token) : Prop :=
  ∃ segments : List (Token × Token),
    (∀ segment ∈ segments, segment.1.kind = .doubleColon ∧ segment.2.kind = .word) ∧
    segmentsTokens segments = ts

/-- The tokens are those of a document. -/
def IsDocument (ts : List Token) : Prop :=
  ∃ document : Document, document.Valid ∧
    (∀ definition ∈ document.definitions, definition.Fits 64) ∧ document.tokens = ts

section Declaration

variable {stop : Nat} {ts : List Token} {e : SyntaxError}

theorem nameSegments_verdict (stop' : Nat) {nameStop : Nat}
    (h : nameSegments stop nameStop ts = .error e) :
    Verdict IsSegments (nameSegments stop' nameStop) ts e := by
  fun_induction nameSegments stop nameStop ts with
  | case1 nameStop => cases h
  | case2 nameStop colons left hcolons e' hword =>
    cases h
    rcases expect_eq_error_iff.mp hword with ⟨rfl, rfl⟩ | ⟨x, left, rfl, hkind, rfl⟩
    · refine .incomplete .nameSegment stop [.word] ?_
      intro us hus
      obtain ⟨word, rfl, hkind⟩ := List.map_eq_singleton_iff.mp hus
      exact ⟨[(colons, word)], List.forall_mem_singleton.mpr ⟨hcolons, hkind⟩, rfl⟩
    · refine .final id fun us => ?_
      have hword' : expect stop' .word .nameSegment (x :: left ++ us) = .error _ :=
        expect_eq_error_iff.mpr (.inr ⟨x, left ++ us, rfl, hkind, rfl⟩)
      rw [List.cons_append, nameSegments, if_pos hcolons, hword']
  | case3 nameStop colons left hcolons word left' hword ih =>
    obtain ⟨hkind, rfl⟩ := expect_eq_ok_iff.mp hword
    apply (ih h).map
    · rintro us ⟨segments, hsegments, htokens⟩
      refine ⟨(colons, word) :: segments,
        List.forall_mem_cons.mpr ⟨⟨hcolons, hkind⟩, hsegments⟩, ?_⟩
      rw [segmentsTokens_cons, htokens]
      rfl
    · intro us hus
      have hword' : expect stop' .word .nameSegment (word :: left' ++ us) =
          .ok (word, left' ++ us) :=
        expect_eq_ok_iff.mpr ⟨hkind, rfl⟩
      rw [List.cons_append, nameSegments, if_pos hcolons, hword']
      exact hus
  | case4 nameStop t left hcolons => cases h

theorem nameSegments_append (stop' : Nat) {nameStop last : Nat} {t : Token} {rest : List Token}
    (h : nameSegments stop nameStop ts = .ok (last, t :: rest)) (us : List Token) :
    nameSegments stop' nameStop (ts ++ us) = .ok (last, t :: rest ++ us) := by
  obtain ⟨segments, hsegments, hlast, rfl, hends⟩ := nameSegments_eq_ok_iff.mp h
  exact nameSegments_eq_ok_iff.mpr ⟨segments, hsegments, hlast, List.append_assoc .., hends⟩

theorem eq_missingHeader_of_keyword {text : String} (h : keyword text ts = .error e) :
    e = .missingHeader := by
  cases ts with
  | nil =>
    cases h
    rfl
  | cons t rest =>
    rw [keyword] at h
    split_ifs at h
    cases h
    rfl

/-- Where another error than a missing declaration comes up, the keywords have been read. -/
theorem exists_keywords (hne : e ≠ .missingHeader) (h : header stop ts = .error e) :
    ∃ (unitWord grammarWord : Token) (left : List Token),
      (unitWord.kind = .word ∧ unitWord.text = "unit") ∧
      (grammarWord.kind = .word ∧ grammarWord.text = "grammar") ∧
      ts = unitWord :: grammarWord :: left := by
  rw [header, bind_eq_error_iff] at h
  rcases h with hunit | ⟨_, hunit, h⟩
  · exact absurd (eq_missingHeader_of_keyword hunit) hne
  obtain ⟨unitWord, hunitWord, rfl⟩ := keyword_eq_ok_iff.mp hunit
  rw [bind_eq_error_iff] at h
  rcases h with hgrammar | ⟨left, hgrammar, -⟩
  · exact absurd (eq_missingHeader_of_keyword hgrammar) hne
  obtain ⟨grammarWord, hgrammarWord, rfl⟩ := keyword_eq_ok_iff.mp hgrammar
  exact ⟨unitWord, grammarWord, left, hunitWord, hgrammarWord, rfl⟩

/-- Behind its keywords, the declaration is a name and a semicolon. -/
theorem header_keywords {unitWord grammarWord : Token}
    (hunit : unitWord.kind = .word ∧ unitWord.text = "unit")
    (hgrammar : grammarWord.kind = .word ∧ grammarWord.text = "grammar") (stop : Nat)
    (ts : List Token) :
    header stop (unitWord :: grammarWord :: ts) =
      expect stop .word .grammarName ts >>= fun first =>
        nameSegments stop first.1.span.stop first.2 >>= fun name =>
          expect stop .semicolon .semicolon name.2 >>= fun semicolon =>
            pure (⟨first.1.span.start, name.1⟩, semicolon.2) := by
  have hunit' : keyword "unit" (unitWord :: grammarWord :: ts) = .ok (grammarWord :: ts) :=
    keyword_eq_ok_iff.mpr ⟨unitWord, hunit, rfl⟩
  have hgrammar' : keyword "grammar" (grammarWord :: ts) = .ok ts :=
    keyword_eq_ok_iff.mpr ⟨grammarWord, hgrammar, rfl⟩
  rw [header, hunit']
  change (keyword "grammar" (grammarWord :: ts) >>= _) = _
  rw [hgrammar']
  rfl

/-- **Where the declaration cannot be read, there is a verdict**, unless keywords are missing. -/
theorem header_verdict (stop' : Nat) (hne : e ≠ .missingHeader) (h : header stop ts = .error e) :
    Verdict IsDocument (header stop') ts e := by
  obtain ⟨unitWord, grammarWord, left, hunit, hgrammar, rfl⟩ := exists_keywords hne h
  rw [header_keywords hunit hgrammar, bind_eq_error_iff] at h
  rcases h with hfirst | ⟨⟨first, left'⟩, hfirst, h⟩
  · rcases expect_eq_error_iff.mp hfirst with ⟨rfl, rfl⟩ | ⟨x, left, rfl, hkind, rfl⟩
    · refine .incomplete .grammarName stop [.word, .semicolon] ?_
      intro us hus
      obtain ⟨first, _, rfl, hword, hrest⟩ := List.map_eq_cons_iff.mp hus
      obtain ⟨semicolon, rfl, hsemicolon⟩ := List.map_eq_singleton_iff.mp hrest
      exact ⟨⟨unitWord, grammarWord, first, [], semicolon, []⟩,
        ⟨hunit, hgrammar, hword, List.forall_mem_nil _, hsemicolon, List.forall_mem_nil _⟩,
        List.forall_mem_nil _, rfl⟩
    · refine .final id fun us => ?_
      rw [List.cons_append, List.cons_append, header_keywords hunit hgrammar, bind_eq_error_iff]
      exact .inl (expect_eq_error_iff.mpr (.inr ⟨x, left ++ us, rfl, hkind, rfl⟩))
  obtain ⟨hword, rfl⟩ := expect_eq_ok_iff.mp hfirst
  have hfirst' : ∀ us, expect stop' .word .grammarName (first :: left' ++ us) =
      .ok (first, left' ++ us) := fun us => expect_eq_ok_iff.mpr ⟨hword, rfl⟩
  rw [bind_eq_error_iff] at h
  rcases h with hname | ⟨⟨last, left⟩, hname, h⟩
  · apply (nameSegments_verdict stop' hname).step [.semicolon]
    · rintro us vs ⟨segments, hsegments, htokens⟩ hvs
      obtain ⟨semicolon, rfl, hsemicolon⟩ := List.map_eq_singleton_iff.mp hvs
      refine ⟨⟨unitWord, grammarWord, first, segments, semicolon, []⟩,
        ⟨hunit, hgrammar, hword, hsegments, hsemicolon, List.forall_mem_nil _⟩,
        List.forall_mem_nil _, ?_⟩
      simp [Document.tokens, htokens]
    · intro us hus
      rw [List.cons_append, List.cons_append, header_keywords hunit hgrammar, bind_eq_error_iff]
      exact .inr ⟨_, hfirst' us, bind_eq_error_iff.mpr (.inl hus)⟩
  rw [bind_eq_error_iff] at h
  rcases h with hsemicolon | ⟨_, -, ⟨⟩⟩
  rcases expect_eq_error_iff.mp hsemicolon with ⟨rfl, rfl⟩ | ⟨x, left, rfl, hkind, rfl⟩
  · obtain ⟨segments, hsegments, -, rfl, -⟩ := nameSegments_eq_ok_iff.mp hname
    refine .incomplete .semicolon stop [.semicolon] ?_
    intro us hus
    obtain ⟨semicolon, rfl, hsemicolon⟩ := List.map_eq_singleton_iff.mp hus
    refine ⟨⟨unitWord, grammarWord, first, segments, semicolon, []⟩,
      ⟨hunit, hgrammar, hword, hsegments, hsemicolon, List.forall_mem_nil _⟩,
      List.forall_mem_nil _, ?_⟩
    simp [Document.tokens]
  · refine .final id fun us => ?_
    rw [List.cons_append, List.cons_append, header_keywords hunit hgrammar, bind_eq_error_iff]
    refine .inr ⟨_, hfirst' us, bind_eq_error_iff.mpr (.inr
      ⟨_, nameSegments_append stop' hname us, bind_eq_error_iff.mpr (.inl ?_)⟩)⟩
    exact expect_eq_error_iff.mpr (.inr ⟨x, left ++ us, rfl, hkind, rfl⟩)

/-- What follows the declaration does not change it. -/
theorem header_append (stop' : Nat) {name : Span} {rest : List Token}
    (h : header stop ts = .ok (name, rest)) (us : List Token) :
    header stop' (ts ++ us) = .ok (name, rest ++ us) := by
  obtain ⟨unitWord, grammarWord, first, segments, semicolon, hunit, hgrammar, hfirst, hsegments,
    hsemicolon, hname, rfl⟩ := header_eq_ok_iff.mp h
  refine header_eq_ok_iff.mpr ⟨unitWord, grammarWord, first, segments, semicolon, hunit, hgrammar,
    hfirst, hsegments, hsemicolon, hname, ?_⟩
  simp

/-- **Where a document cannot be read, there is a verdict.** -/
theorem document_verdict (stop' : Nat) (hne : e ≠ .missingHeader)
    (h : (header stop ts >>= fun declared => ruleDefs stop declared.2) = .error e) :
    Verdict IsDocument (fun us => header stop' us >>= fun declared => ruleDefs stop' declared.2)
      ts e := by
  rcases bind_eq_error_iff.mp h with hheader | ⟨⟨name, rest⟩, hheader, hdefinitions⟩
  · apply (header_verdict stop' hne hheader).map
    · exact fun us hus => hus
    · intro us hus
      exact bind_eq_error_iff.mpr (.inl hus)
  · apply (ruleDefs_verdict stop' hdefinitions).map
    · rintro us ⟨definitions, hvalid, hfits, htokens⟩
      obtain ⟨unitWord, grammarWord, first, segments, semicolon, hunit, hgrammar, hfirst, hsegments,
        hsemicolon, -, rfl⟩ := header_eq_ok_iff.mp hheader
      refine ⟨⟨unitWord, grammarWord, first, segments, semicolon, definitions⟩,
        ⟨hunit, hgrammar, hfirst, hsegments, hsemicolon, hvalid⟩, hfits, ?_⟩
      simp [Document.tokens, htokens]
    · intro us hus
      exact bind_eq_error_iff.mpr (.inr ⟨_, header_append stop' hheader us, hus⟩)

end Declaration

end Parse

/-! ## Texts for tokens -/

/-- There is a token of each kind. -/
theorem Pattern.exists_mem_ofKind (kind : TokenKind) : ∃ text, text ∈ ofKind kind := by
  cases kind with
  | quantifier => exact ⟨"(s)".toList, mem_ofKind_iff.mpr (by decide)⟩
  | word => exact ⟨"a".toList, mem_ofKind_iff.mpr (by decide)⟩
  | stringLiteral => exact ⟨"''".toList, mem_ofKind_iff.mpr (by decide)⟩
  | regexLiteral => exact ⟨"/a/".toList, mem_ofKind_iff.mpr (by decide)⟩
  | _ => exact ⟨_, rfl⟩

/-- **For tokens of any kinds there is a text**: each of them on a line of its own. -/
theorem exists_scanFrom_kinds (kinds : List TokenKind) (offset : Nat) :
    ∃ cs tokens, scanFrom offset cs = .ok tokens ∧ tokens.map Token.kind = kinds := by
  induction kinds generalizing offset with
  | nil => exact ⟨[], [], scanFrom_eq_ok_iff.mpr .nil, rfl⟩
  | cons kind kinds ih =>
    obtain ⟨text, htext⟩ := Pattern.exists_mem_ofKind kind
    obtain ⟨cs, tokens, hscan, hkinds⟩ := ih (offset + Text.byteCount text + 1)
    set t : Token := ⟨kind, ⟨offset, offset + Text.byteCount text⟩, String.ofList text⟩
    have hone : Reads [] offset (text ++ []) [t] := .token htext (Pattern.ends_nil kind) .nil
    rw [List.append_nil] at hone
    refine ⟨text ++ '\n' :: cs, t :: tokens, ?_, by rw [List.map_cons, hkinds]⟩
    rw [scanFrom_append_newline, hone.scanFrom_eq, hscan]
    rfl

/-! ## Texts that can be completed -/

/-- A text that cannot be parsed cannot be scanned, or its tokens cannot be read. -/
theorem Grammar.parse_eq_error_iff {text : String} {e : SyntaxError} :
    Grammar.parse text = .error e ↔
      Token.scan text = .error e ∨
      ∃ tokens, Token.scan text = .ok tokens ∧
        (Parse.header (Text.byteCount text.toList) tokens >>= fun declared =>
          Parse.ruleDefs (Text.byteCount text.toList) declared.2) = .error e := by
  simp [Grammar.parse, Parse.bind_eq_error_iff, pure, Except.pure]

/-- **An unexpected end means that the text is incomplete.** Where a text with a declaration cannot
be parsed, the error is an unexpected end exactly if there are further lines with which it can. So
no text that is only cut short is reported as malformed, and one that is malformed cannot be
repaired by anything behind it. -/
theorem Grammar.unexpectedEnd_iff_completable {text : String} {e : SyntaxError}
    (h : Grammar.parse text = .error e) (hne : e ≠ .missingHeader) :
    (∃ expected offset, e = .unexpectedEnd expected offset) ↔
      ∃ more grammar, Grammar.parse (text ++ "\n" ++ more) = .ok grammar := by
  rcases Grammar.parse_eq_error_iff.mp h with hscan | ⟨tokens, hscan, hread⟩
  · refine ⟨?_, ?_⟩
    · -- scanning stops at a character, and not at the end
      rintro ⟨expected, offset, rfl⟩
      obtain ⟨_, _, _, _, _, -, -, -, heq⟩ := scanFrom_eq_error_iff.mp hscan
      cases heq
    · rintro ⟨more, grammar, hparse⟩
      obtain ⟨document, -, hscan', -⟩ := Grammar.exists_document_of_parse hparse
      obtain ⟨earlier, -, hearlier, -, -⟩ := Token.scan_lines_eq_ok_iff.mp hscan'
      rw [hscan] at hearlier
      cases hearlier
  · refine ⟨?_, ?_⟩
    · rintro ⟨expected, offset, rfl⟩
      cases Parse.document_verdict 0 hne hread with
      | final notEnd _ => exact absurd trivial notEnd
      | incomplete _ _ kinds complete =>
        obtain ⟨cs, later, hlater, hkinds⟩ :=
          exists_scanFrom_kinds kinds (Text.byteCount text.toList + 1)
        obtain ⟨document, hvalid, hfits, htokens⟩ := complete later hkinds
        refine ⟨String.ofList cs, _, Grammar.parse_eq_ok_iff.mpr
          ⟨document, hvalid, hfits, Token.scan_lines_eq_ok_iff.mpr ?_, rfl⟩⟩
        exact ⟨tokens, later, hscan, by rwa [String.toList_ofList], htokens⟩
    · rintro ⟨more, grammar, hparse⟩
      cases Parse.document_verdict (Text.byteCount (text ++ "\n" ++ more).toList) hne hread with
      | incomplete expected offset _ _ => exact ⟨expected, offset, rfl⟩
      | final _ stays =>
        -- the error stays in the longer text, which is parsed
        obtain ⟨document, -, hscan', -⟩ := Grammar.exists_document_of_parse hparse
        obtain ⟨earlier, later, hearlier, -, htokens⟩ := Token.scan_lines_eq_ok_iff.mp hscan'
        rw [hscan] at hearlier
        obtain rfl := Except.ok.inj hearlier
        have herror : Grammar.parse (text ++ "\n" ++ more) = .error e :=
          Grammar.parse_eq_error_iff.mpr (.inr ⟨_, hscan', htokens ▸ stays later⟩)
        rw [hparse] at herror
        cases herror

/-- A text that ends in a separator within two groups can be completed, and one with a range that
does not touch what it repeats cannot. -/
theorem Grammar.unexpectedEnd_in_groups :
    (∃ e, Grammar.parse "unit grammar G;\na: b | [[c](s) %" = .error e ∧ e ≠ .missingHeader ∧
      ∃ more grammar,
        Grammar.parse ("unit grammar G;\na: b | [[c](s) %" ++ "\n" ++ more) = .ok grammar) ∧
    ∃ e, Grammar.parse "unit grammar G;\na: [b (s)" = .error e ∧ e ≠ .missingHeader ∧
      ¬ ∃ more grammar,
        Grammar.parse ("unit grammar G;\na: [b (s)" ++ "\n" ++ more) = .ok grammar := by
  have hend : (Grammar.parse "unit grammar G;\na: b | [[c](s) %").map Grammar.name =
      .error (.unexpectedEnd .ruleElement 32) := by decide +kernel
  have hdetached : (Grammar.parse "unit grammar G;\na: [b (s)").map Grammar.name =
      .error (.detachedQuantifier ⟨22, 25⟩) := by decide +kernel
  have hend := Parse.eq_error_of_map_eq_error hend
  have hdetached := Parse.eq_error_of_map_eq_error hdetached
  refine ⟨⟨_, hend, by simp, (Grammar.unexpectedEnd_iff_completable hend (by simp)).mp ⟨_, _, rfl⟩⟩,
    _, hdetached, by simp, ?_⟩
  rw [← Grammar.unexpectedEnd_iff_completable hdetached (by simp)]
  simp

end FanServer
