import FanServer.Proofs.Checked
import FanServer.Proofs.Conversion
import FanServer.Proofs.MethodPattern
import FanServer.Proofs.Verbatim

/-!
# No operation faults

Reading with every operation checked comes to what reading without checks comes to. So **no text
leads to a fault**, whether it has a model or not, and none is met on the way to an error either.

* `Token.StandInRow` — the tokens stand in the text, one after the other. That is what a scan gives,
  and all that the readers rely on;
* `Checked.Agrees` — on such tokens, a checked reader does what the unchecked one does;
* `Model.parse_without_fault` — a whole document is read, and all places in it are shown, without a
  fault.

Each reader is compared on all tokens, also on those that it refuses. What it has read so far is the
tree of a derivation, and the trees of tokens in a row have their spans in order.
-/

open FanServer.Derivation

namespace FanServer

/-- The tokens stand in a text, one after the other. -/
structure Token.StandInRow (cs : List Char) (ts : List Token) : Prop where
  /-- they come one after the other -/
  row : ∃ lo hi, InRow lo hi ts
  /-- each of them stands in the text -/
  stands : ∀ t ∈ ts, t.StandsIn cs

namespace Token.StandInRow

variable {cs : List Char} {t : Token} {ts us : List Token}

theorem of_isInfix (h : StandInRow cs ts) (hbetween : us <:+: ts) : StandInRow cs us := by
  obtain ⟨lo, hi, hrow⟩ := h.row
  exact ⟨hrow.of_isInfix hbetween, fun t ht => h.stands t (hbetween.subset ht)⟩

theorem left (h : StandInRow cs (ts ++ us)) : StandInRow cs ts :=
  h.of_isInfix (List.prefix_append ts us).isInfix

theorem right (h : StandInRow cs (ts ++ us)) : StandInRow cs us :=
  h.of_isInfix (List.suffix_append ts us).isInfix

theorem tail (h : StandInRow cs (t :: ts)) : StandInRow cs ts :=
  h.of_isInfix (List.suffix_cons t ts).isInfix

theorem head (h : StandInRow cs (t :: ts)) : t.StandsIn cs :=
  h.stands t List.mem_cons_self

end Token.StandInRow

/-! ## Operations -/

/-- A range or a literal is a text between two delimiters of one byte. -/
theorem Pattern.exists_delimited {kind : TokenKind} {w : List Char} (hw : w ∈ Pattern.ofKind kind)
    (hkind : kind = .quantifier ∨ kind = .stringLiteral ∨ kind = .regexLiteral) :
    ∃ opening body closing, w = opening :: body ++ [closing] ∧ opening.utf8Size = 1 ∧
      closing.utf8Size = 1 := by
  rcases hkind with rfl | rfl | rfl
  · obtain ⟨body, -, rfl⟩ := mem_quantifier.mp hw
    exact ⟨_, body, _, rfl, by decide, by decide⟩
  · obtain ⟨d, hd, body, -, rfl⟩ := mem_stringLiteral.mp hw
    have hsize : d.utf8Size = 1 := by
      rcases hd with rfl | rfl <;> decide
    exact ⟨_, body, _, rfl, hsize, hsize⟩
  · obtain ⟨body, -, -, rfl⟩ := mem_regexLiteral.mp hw
    exact ⟨_, body, _, rfl, by decide, by decide⟩

namespace Checked

section Operations

variable {cs w : List Char} {start stop a b : Nat} {t : Token}

theorem span_eq (h : start ≤ stop) : span start stop = .ok ⟨start, stop⟩ := by
  simp [span, Span.ofBounds, h]

theorem slice_eq (h : Text.slice? cs ⟨start, stop⟩ = some w) : slice cs start stop = .ok w := by
  simp [slice, h]

theorem minus_eq (h : b ≤ a) : minus a b = .ok (a - b) := by
  simp [minus, h]

theorem join_eq {s : Span} (hs : s.start ≤ s.stop) (u : Span) : join s u = .ok (s.join u) := by
  rw [join, span_eq, Span.join]
  omega

theorem textOf_eq (h : t.StandsIn cs) : textOf cs t = .ok t.text := by
  simp [textOf, slice_eq h.slice?]

/-- A range or a literal has a byte at each end that is not part of its body. -/
theorem inside_eq (h : t.StandsIn cs)
    (hkind : t.kind = .quantifier ∨ t.kind = .stringLiteral ∨ t.kind = .regexLiteral) :
    inside cs t = .ok (Parse.inside t.text) := by
  obtain ⟨opening, body, closing, htext, hopening, hclosing⟩ :=
    Pattern.exists_delimited h.mem_ofKind hkind
  obtain ⟨before, after, rfl, hbetween⟩ := h
  have hcut : before ++ t.text.toList ++ after =
      before ++ [opening] ++ body ++ closing :: after := by
    simp [htext]
  have hstart : t.span.start + 1 = Text.byteCount (before ++ [opening]) := by
    simp [hbetween.span_eq, Text.byteCount_append, Text.byteCount, hopening]
  have hstop : t.span.stop = Text.byteCount (before ++ [opening]) + Text.byteCount body + 1 := by
    simp only [hbetween.span_eq, htext, Text.byteCount_append, Text.byteCount, hopening, hclosing]
    omega
  have hslice := slice_eq (Text.slice?_append (before ++ [opening]) body (closing :: after))
  have hminus : minus t.span.stop 1 =
      .ok (Text.byteCount (before ++ [opening]) + Text.byteCount body) := by
    rw [minus_eq (by omega), hstop, Nat.add_sub_cancel]
  rw [inside, hminus, hstart, hcut, Parse.inside_eq htext]
  exact hslice

/-- The modifiers of a word end where its name begins. -/
theorem slice_modifiers (word : List Char) :
    minus (Text.byteCount word) (Text.byteCount (word.dropWhile Text.isModifier)) =
        .ok (Text.byteCount (word.takeWhile Text.isModifier)) ∧
      slice word 0 (Text.byteCount (word.takeWhile Text.isModifier)) =
        .ok (word.takeWhile Text.isModifier) := by
  have hcut := List.takeWhile_append_dropWhile (p := Text.isModifier) (l := word)
  have hcount := congrArg Text.byteCount hcut
  rw [Text.byteCount_append] at hcount
  refine ⟨?_, slice_eq ?_⟩
  · rw [minus_eq (by omega), ← hcount, Nat.add_sub_cancel]
  · have hslice := Text.slice?_append [] (word.takeWhile Text.isModifier)
      (word.dropWhile Text.isModifier)
    rwa [List.nil_append, hcut, Text.byteCount, Nat.zero_add] at hslice

theorem leafKind?_eq (h : t.StandsIn cs) : leafKind? cs t = .ok (Parse.leafKind? t) := by
  rw [leafKind?, Parse.leafKind?]
  cases hkind : t.kind with
  | word =>
    obtain ⟨hcut, hmodifiers⟩ := slice_modifiers t.text.toList
    simp only [slice_eq h.slice?, bind, Except.bind, hcut, hmodifiers]
    rfl
  | stringLiteral =>
    rw [inside_eq h (.inr (.inl hkind))]
    rfl
  | regexLiteral =>
    rw [inside_eq h (.inr (.inr hkind))]
    rfl
  | _ => rfl

end Operations

/-! ## Runs -/

section Runs

variable {α β : Type}

/-- The result of an unchecked reader, reached without a fault. -/
def ofResult (result : Except SyntaxError α) : Run α :=
  ExceptT.mk (.ok result)

@[simp]
theorem ofResult_ok (a : α) : ofResult (.ok a) = pure a := rfl

@[simp]
theorem ofResult_error (e : SyntaxError) : (ofResult (.error e) : Run α) = throw e := rfl

@[simp]
theorem throw_bind (e : SyntaxError) (f : α → Run β) : (throw e : Run α) >>= f = throw e := rfl

@[simp]
theorem liftM_ok (a : α) : (liftM (Except.ok a : Except Fault α) : Run α) = pure a := rfl

/-- What is done after a result need only be compared for that result. -/
theorem ofResult_bind {result : Except SyntaxError α} {f : α → Except SyntaxError β}
    {g : α → Run β} (h : ∀ a, result = .ok a → g a = ofResult (f a)) :
    ofResult result >>= g = ofResult (result >>= f) := by
  cases result with
  | error e => rfl
  | ok a => exact h a rfl

/-- **On tokens in a row the checked reader does what the unchecked one does.** -/
def Agrees (cs : List Char) (checked : Reader α) (reader : Parse.Reader α) : Prop :=
  ∀ ts, Token.StandInRow cs ts → checked ts = ofResult (reader ts)

end Runs

/-! ## Scanning -/

/-- A token is put in front of those that are read behind it. -/
theorem scanFrom_token {whole rest found left : List Char} {offset : Nat} {c : Char}
    {kind : TokenKind} (hlayout : ¬ Text.isLayout c = true) (hhash : ¬ c = '#')
    (hnext : nextLexeme c rest = .token kind found left) :
    scanFrom whole offset (c :: rest) = do
      let tokens ← scanFrom whole (offset + Text.byteCount found) left
      return ⟨kind, ⟨offset, offset + Text.byteCount found⟩, String.ofList found⟩ :: tokens := by
  rw [scanFrom, if_neg hlayout, if_neg hhash]
  split
  · next hnext' =>
    rw [hnext] at hnext'
    cases hnext'
    simp [span_eq]
  · next hnext' =>
    rw [hnext] at hnext'
    cases hnext'

/-- A text is scanned without a fault, whatever comes before it. -/
theorem scanFrom_eq {whole before cs : List Char} {offset : Nat} (hcut : whole = before ++ cs)
    (hoffset : offset = Text.byteCount before) :
    scanFrom whole offset cs = ofResult (FanServer.scanFrom offset cs) := by
  fun_induction FanServer.scanFrom offset cs generalizing before with
  | case1 offset => simp [scanFrom]
  | case2 offset c rest hlayout ih =>
    rw [scanFrom, if_pos hlayout]
    apply @ih (before ++ [c])
    · simp [hcut]
    · simp [hoffset, Text.byteCount_append, Text.byteCount]
  | case3 offset rest hlayout ih =>
    have hcomment := List.takeWhile_append_dropWhile (p := isCommentChar) (l := rest)
    rw [scanFrom, if_neg hlayout, if_pos rfl]
    apply @ih (before ++ '#' :: rest.takeWhile isCommentChar)
    · rw [hcut, List.append_assoc, List.cons_append, hcomment]
    · simp [hoffset, Text.byteCount_append, Text.byteCount, Nat.add_assoc]
  | case4 offset c rest hlayout hhash kind found left hnext stop tokens htokens =>
    rename_i ih
    have hleft := @ih (before ++ found) (by simp [hcut, (nextLexeme_eq_token hnext).1])
      (by simp [stop, hoffset, Text.byteCount_append])
    rw [scanFrom_token hlayout hhash hnext, hleft, htokens]
    simp [stop]
  | case5 offset c rest hlayout hhash kind found left hnext stop e htokens =>
    rename_i ih
    have hleft := @ih (before ++ found) (by simp [hcut, (nextLexeme_eq_token hnext).1])
      (by simp [stop, hoffset, Text.byteCount_append])
    rw [scanFrom_token hlayout hhash hnext, hleft, htokens]
    simp
  | case6 offset c rest hlayout hhash found hnext =>
    obtain ⟨-, after, hfound⟩ := Pattern.prefix_of_nextLexeme_eq_stuck hnext
    have hslice : Text.slice? whole ⟨offset, offset + Text.byteCount found⟩ = some found := by
      rw [hcut, ← hfound, ← List.append_assoc, hoffset]
      exact Text.slice?_append before found after
    rw [scanFrom, if_neg hlayout, if_neg hhash]
    split
    · next hnext' =>
      rw [hnext] at hnext'
      cases hnext'
    · next hnext' =>
      rw [hnext] at hnext'
      cases hnext'
      simp [span_eq, slice_eq hslice]

/-! ## Elements -/

section Elements

variable {cs : List Char} {stop levels : Nat}

theorem expect_agrees (cs : List Char) (stop : Nat) (kind : TokenKind) (expected : Expectation) :
    Agrees cs (expect cs stop kind expected) (Parse.expect stop kind expected) := by
  rintro (_ | ⟨t, rest⟩) hrow
  · rfl
  · rw [expect, Parse.expect]
    split_ifs with hkind
    · rfl
    · simp [textOf_eq hrow.head]

variable {checked : Reader Rule} {term : Parse.Reader Rule}

theorem start_le_stop_of_term {tree : Term} (hrow : Token.StandInRow cs tree.tokens) :
    tree.rule.span.start ≤ tree.rule.span.stop := by
  obtain ⟨lo, hi, hrow⟩ := hrow.row
  exact (Term.within_rule hrow).start_lt_stop.le

/-- A term ends after a token before it begins. -/
theorem start_le_of_term {t : Token} {tree : Term} {rest : List Token}
    (hrow : Token.StandInRow cs (t :: (tree.tokens ++ rest))) :
    t.span.start ≤ tree.rule.span.stop := by
  obtain ⟨lo, hi, -, hlt, hrest⟩ := hrow.row
  obtain ⟨mid, htree, -⟩ := Token.InRow.append_iff.mp hrest
  have hwithin := Term.within_rule htree
  exact hlt.le.trans (hwithin.le_start.trans hwithin.start_lt_stop.le)

theorem separator_agrees (hreads : Parse.ReadsTerms term levels) (hterm : Agrees cs checked term) :
    Agrees cs (separator cs checked) (Parse.separator term) := by
  rintro (_ | ⟨t, rest⟩) hrow
  · rfl
  · rw [separator, Parse.separator]
    split_ifs with hmarker
    · rw [hterm rest hrow.tail]
      rcases hread : term rest with e | ⟨rule, left⟩
      · simp
      · obtain ⟨tree, -, -, rfl, rfl⟩ := (hreads _ _ _).mp hread
        simp [span_eq (start_le_of_term hrow), textOf_eq hrow.head]
    · rfl

/-- A separator ends after the range before it begins. -/
theorem start_le_of_separator (hreads : Parse.ReadsTerms term levels) {range : Token}
    {rest left : List Token} {clause : Option Separator}
    (hrow : Token.StandInRow cs (range :: rest))
    (hclause : Parse.separator term rest = .ok (clause, left)) :
    ∀ c ∈ clause, range.span.start ≤ c.span.stop := by
  rcases (Parse.separator_eq_ok_iff hreads).mp hclause with
    ⟨rfl, -⟩ | ⟨marker, tree, -, -, -, rfl, rfl⟩
  · simp
  · rintro _ ⟨⟩
    have hstop := start_le_of_term hrow.tail
    obtain ⟨lo, hi, -, hlt, (hmarker : range.span.stop ≤ marker.span.start), -⟩ := hrow.row
    rw [Parse.stop_rule] at hstop
    exact hlt.le.trans (hmarker.trans hstop)

/-- The span of an element is widened over its range and its separator. -/
theorem repeated_eq {rule : Rule} {range : Token} {clause : Option Separator}
    (hrule : rule.span.start ≤ rule.span.stop)
    (hclause : ∀ c ∈ clause, range.span.start ≤ c.span.stop) :
    repeated rule range (Parse.inside range.text) clause =
      .ok (rule.repeated (Parse.quantifierOf range clause)) := by
  cases clause with
  | none =>
    simp only [repeated, bind, Except.bind, join_eq hrule]
    rfl
  | some clause =>
    simp only [repeated, bind, Except.bind, span_eq (hclause clause rfl), join_eq hrule]
    rfl

theorem item_agrees (hreads : Parse.ReadsTerms term levels) (hterm : Agrees cs checked term) :
    Agrees cs (item cs checked) (Parse.item term) := by
  intro ts hrow
  rw [item, Parse.item, hterm ts hrow]
  rcases hread : term ts with e | ⟨rule, _ | ⟨range, rest⟩⟩
  · simp
  · simp
  · obtain ⟨tree, -, -, rfl, rfl⟩ := (hreads _ _ _).mp hread
    have hrange := hrow.right
    simp only [ofResult_ok, pure_bind]
    split_ifs with hkind htouches
    · rw [inside_eq hrange.head (.inl hkind), separator_agrees hreads hterm rest hrange.tail]
      rcases hclause : Parse.separator term rest with e | ⟨clause, left⟩
      · simp
      · have hstart := start_le_of_separator hreads hrange hclause
        simp [repeated_eq (start_le_stop_of_term hrow.left) hstart]
    · rfl
    · rfl

/-- Items are read without a fault if terms are. -/
theorem items_agrees (hreads : Parse.ReadsTerms term levels) (hterm : Agrees cs checked term) :
    Agrees cs (items cs checked) (Parse.items term) := by
  intro ts hrow
  fun_induction Parse.items term ts with
  | case1 ts hends => simp [items, hends]
  | case2 ts hends e hitem =>
    rw [items, if_neg hends, item_agrees hreads hterm ts hrow, hitem]
    simp
  | case3 ts hends rule left hitem hlength e hitems ih =>
    obtain ⟨tree, -, -, rfl, rfl⟩ := Parse.exists_of_item_eq_ok hreads hitem
    rw [items, if_neg hends, item_agrees hreads hterm _ hrow, hitem]
    simp only [ofResult_ok, pure_bind, if_pos hlength, ih hrow.right, hitems]
    simp
  | case4 ts hends rule left hitem hlength rules left' hitems ih =>
    obtain ⟨tree, -, -, rfl, rfl⟩ := Parse.exists_of_item_eq_ok hreads hitem
    rw [items, if_neg hends, item_agrees hreads hterm _ hrow, hitem]
    simp only [ofResult_ok, pure_bind, if_pos hlength, ih hrow.right, hitems]
  | case5 ts hends rule left hitem hlength =>
    rw [items, if_neg hends, item_agrees hreads hterm ts hrow, hitem]
    simp [hlength]

/-- Terms are read without a fault if groups are. -/
theorem agrees_of_groups {cs : List Char} {stop levels : Nat}
    (hgroup : ∀ t rest, t.kind = .openBracket → Token.StandInRow cs (t :: rest) →
      Checked.term cs stop levels (t :: rest) = ofResult (Parse.term stop levels (t :: rest))) :
    Agrees cs (Checked.term cs stop levels) (Parse.term stop levels) := by
  rintro (_ | ⟨t, rest⟩) hrow
  · simp [Checked.term, Parse.term]
  · by_cases hopening : t.kind = .openBracket
    · exact hgroup t rest hopening hrow
    · unfold Checked.term Parse.term
      rw [leafKind?_eq hrow.head]
      cases Parse.leafKind? t with
      | none => simp [hopening, textOf_eq hrow.head]
      | some kind => simp

theorem term_agrees (cs : List Char) (stop levels : Nat) :
    Agrees cs (Checked.term cs stop levels) (Parse.term stop levels) := by
  induction levels with
  | zero =>
    apply agrees_of_groups
    intro t rest hopening hrow
    have hleaf : Parse.leafKind? t = none := by rw [Parse.leafKind?, hopening]
    simp [Checked.term, Parse.term, leafKind?_eq hrow.head, hleaf, hopening]
  | succ levels ih =>
    apply agrees_of_groups
    intro t rest hopening hrow
    have hleaf : Parse.leafKind? t = none := by rw [Parse.leafKind?, hopening]
    have hreads := Parse.readsTerms_term stop levels
    simp only [Checked.term, Parse.term, leafKind?_eq hrow.head, hleaf, hopening, liftM_ok,
      pure_bind, if_true]
    rw [items_agrees hreads ih rest hrow.tail]
    rcases hitems : Parse.items (Parse.term stop levels) rest with e | ⟨parts, left⟩
    · simp
    · obtain ⟨items, -, -, rfl, rfl, -⟩ := (Parse.items_eq_ok_iff hreads).mp hitems
      simp only [ofResult_ok, pure_bind, expect_agrees _ _ _ _ left hrow.tail.right]
      rcases hclosing : Parse.expect stop .closeBracket .closeBracket left with e | ⟨closing, left'⟩
      · simp
      · obtain ⟨hkind, rfl⟩ := Parse.expect_eq_ok_iff.mp hclosing
        -- the group is a term as well
        have hgroup : t :: (items.tokens ++ closing :: left') =
            (Term.group t items closing).tokens ++ left' := by simp [Term.tokens]
        rw [hgroup] at hrow
        have hle := start_le_stop_of_term hrow.left
        simp only [Term.rule, Rule.plain] at hle
        simp [span_eq hle]

end Elements

/-! ## Definitions -/

section Definitions

variable {cs : List Char} {stop : Nat}

/-- The first element of an alternative does not begin after the last one ends. -/
theorem alternativeSpan_eq {items : Items} (hrow : Token.StandInRow cs items.tokens)
    (anchor : Nat) :
    alternativeSpan anchor items.rules = .ok (Parse.alternativeSpan anchor items.rules) := by
  obtain ⟨lo, hi, hrow⟩ := hrow.row
  have hwithin := Items.within_rules hrow
  have hpairwise := Items.pairwise_rules items hrow
  unfold alternativeSpan Parse.alternativeSpan
  rcases hfirst : items.rules.head? with _ | first
  · exact span_eq (Nat.le_refl anchor)
  rcases hlast : items.rules.getLast? with _ | last
  · exact span_eq (Nat.le_refl anchor)
  · have hmem := List.mem_of_getLast? hlast
    have hle := (bounds_of_pairwise hwithin hpairwise hfirst hlast hmem).1
    exact span_eq (hle.trans (hwithin last hmem).start_lt_stop.le)

theorem alternative_agrees (cs : List Char) (stop anchor : Nat) :
    Agrees cs (alternative cs stop anchor) (Parse.alternative stop anchor) := by
  intro ts hrow
  have hreads := Parse.readsTerms_term stop maxNesting
  rw [alternative, Parse.alternative, items_agrees hreads (term_agrees cs stop maxNesting) ts hrow]
  apply ofResult_bind
  rintro ⟨parts, rest⟩ hitems
  obtain ⟨items, -, -, rfl, rfl, -⟩ := (Parse.items_eq_ok_iff hreads).mp hitems
  simp only [alternativeSpan_eq hrow.left]
  rfl

theorem alternatives_agrees (cs : List Char) (stop anchor : Nat) :
    Agrees cs (alternatives cs stop anchor) (Parse.alternatives stop anchor) := by
  intro ts hrow
  fun_induction Parse.alternatives stop anchor ts with
  | case1 anchor ts e hfirst =>
    rw [alternatives, alternative_agrees cs stop anchor ts hrow, hfirst]
    simp
  | case2 anchor ts first hfirst =>
    rw [alternatives, alternative_agrees cs stop anchor ts hrow, hfirst]
    simp
  | case3 anchor ts first pipe left hfirst hpipe e hothers ih =>
    rw [alternatives, alternative_agrees cs stop anchor ts hrow, hfirst]
    obtain ⟨items, -, -, -, rfl, -⟩ := Parse.alternative_eq_ok_iff.mp hfirst
    simp only [ofResult_ok, pure_bind, if_pos hpipe, ih hrow.right.tail, hothers]
    simp
  | case4 anchor ts first pipe left hfirst hpipe rules left' hothers ih =>
    rw [alternatives, alternative_agrees cs stop anchor ts hrow, hfirst]
    obtain ⟨items, -, -, -, rfl, -⟩ := Parse.alternative_eq_ok_iff.mp hfirst
    simp only [ofResult_ok, pure_bind, if_pos hpipe, ih hrow.right.tail, hothers]
  | case5 anchor ts first t left hfirst hpipe =>
    rw [alternatives, alternative_agrees cs stop anchor ts hrow, hfirst]
    simp only [ofResult_ok, pure_bind, if_neg hpipe]

theorem ruleName_agrees (cs : List Char) (stop : Nat) :
    Agrees cs (ruleName cs stop) (Parse.ruleName stop) := by
  intro ts hrow
  rw [ruleName, Parse.ruleName, expect_agrees cs stop _ _ ts hrow]
  apply ofResult_bind
  rintro ⟨t, rest⟩ hword
  obtain ⟨-, rfl⟩ := Parse.expect_eq_ok_iff.mp hword
  simp only [textOf_eq hrow.head, liftM_ok, pure_bind]
  split_ifs with hmodifier
  · rfl
  · rfl

theorem ruleDef_agrees (cs : List Char) (stop : Nat) :
    Agrees cs (ruleDef cs stop) (Parse.ruleDef stop) := by
  intro ts hrow
  rw [ruleDef, Parse.ruleDef, ruleName_agrees cs stop ts hrow]
  apply ofResult_bind
  rintro ⟨_, afterName⟩ hname
  obtain ⟨name, -, -, rfl, rfl⟩ := Parse.ruleName_eq_ok_iff.mp hname
  simp only [expect_agrees cs stop _ _ afterName hrow.tail]
  apply ofResult_bind
  rintro ⟨colon, afterColon⟩ hcolon
  obtain ⟨-, rfl⟩ := Parse.expect_eq_ok_iff.mp hcolon
  simp only [alternatives_agrees cs stop _ afterColon hrow.tail.tail]
  apply ofResult_bind
  rintro ⟨rules, rest⟩ -
  -- the definition does not end before its colon
  obtain ⟨lo, hi, -, hlt, (hstart : name.span.stop ≤ colon.span.start), hlt', -⟩ := hrow.row
  have hstop : colon.span.stop ≤ Parse.definitionStop colon.span.stop rules :=
    (Parse.definitionStop_le.mp (Nat.le_refl _)).1
  have hle : name.span.start ≤ Parse.definitionStop colon.span.stop rules := by omega
  simp only [span_eq hle]
  rfl

theorem ruleDefs_eq {ts : List Token} (hrow : Token.StandInRow cs ts) :
    ruleDefs cs stop ts = ofResult (Parse.ruleDefs stop ts) := by
  fun_induction Parse.ruleDefs stop ts with
  | case1 ts hempty => simp [ruleDefs, hempty]
  | case2 ts hempty e hfirst =>
    rw [ruleDefs, if_neg hempty, ruleDef_agrees cs stop ts hrow, hfirst]
    simp
  | case3 ts hempty definition left hfirst hlength e hothers ih =>
    rw [ruleDefs, if_neg hempty, ruleDef_agrees cs stop ts hrow, hfirst]
    obtain ⟨tree, -, -, -, rfl, -⟩ := Parse.ruleDef_eq_ok_iff.mp hfirst
    simp only [ofResult_ok, pure_bind, if_pos hlength, ih hrow.right, hothers]
    simp
  | case4 ts hempty definition left hfirst hlength definitions hothers ih =>
    rw [ruleDefs, if_neg hempty, ruleDef_agrees cs stop ts hrow, hfirst]
    obtain ⟨tree, -, -, -, rfl, -⟩ := Parse.ruleDef_eq_ok_iff.mp hfirst
    simp only [ofResult_ok, pure_bind, if_pos hlength, ih hrow.right, hothers]
  | case5 ts hempty definition left hfirst hlength =>
    rw [ruleDefs, if_neg hempty, ruleDef_agrees cs stop ts hrow, hfirst]
    simp [hlength]

end Definitions

/-! ## The declaration -/

section Declaration

variable {cs : List Char} {stop : Nat}

theorem keyword_eq {ts : List Token} (hrow : Token.StandInRow cs ts) (word : String) :
    keyword cs word ts = ofResult (Parse.keyword word ts) := by
  cases ts with
  | nil => rfl
  | cons t rest =>
    by_cases hkind : t.kind = .word
    · by_cases hword : t.text = word
      · simp [keyword, Parse.keyword, hkind, hword, textOf_eq hrow.head]
      · simp [keyword, Parse.keyword, hkind, hword, textOf_eq hrow.head]
    · simp [keyword, Parse.keyword, hkind]

theorem nameSegments_agrees (cs : List Char) (stop nameStop : Nat) :
    Agrees cs (nameSegments cs stop nameStop) (Parse.nameSegments stop nameStop) := by
  intro ts hrow
  fun_induction Parse.nameSegments stop nameStop ts with
  | case1 nameStop => simp [nameSegments]
  | case2 nameStop t rest hkind e hsegment =>
    rw [nameSegments, if_pos hkind, expect_agrees cs stop _ _ rest hrow.tail, hsegment]
    simp
  | case3 nameStop t rest hkind segment left hsegment ih =>
    rw [nameSegments, if_pos hkind, expect_agrees cs stop _ _ rest hrow.tail, hsegment]
    have hdrop := hrow.tail.of_isInfix (List.drop_suffix 1 rest).isInfix
    simp only [ofResult_ok, pure_bind, ih hdrop]
  | case4 nameStop t rest hkind =>
    rw [nameSegments, if_neg hkind]
    rfl

/-- The words of a name, and what stands between them, are a part of the text. -/
theorem slice_name {first : Token} {segments : List (Token × Token)}
    (hrow : Token.StandInRow cs (first :: segmentsTokens segments)) :
    slice cs first.span.start (segmentsStop first.span.stop segments) =
      .ok (Text.slice cs ⟨first.span.start, segmentsStop first.span.stop segments⟩) := by
  obtain ⟨lo, hi, hinRow⟩ := hrow.row
  obtain ⟨last, hlast, hstop⟩ := exists_getLast?_name first segments
  have hfirst := hrow.head.marks
  have hend := (hrow.stands last (List.mem_of_getLast? hlast)).marks
  apply slice_eq
  rw [Text.slice?, if_pos ⟨start_le_segmentsStop hinRow, hfirst.start, hstop ▸ hend.stop⟩]

/-- The name is read off the text only when all of the declaration is there. -/
theorem header_eq {ts : List Token} (hrow : Token.StandInRow cs ts) :
    header cs stop ts = ofResult (Parse.header stop ts >>= fun declared =>
      .ok (String.ofList (Text.slice cs declared.1), declared.2)) := by
  simp only [header, Parse.header, keyword_eq hrow, bind_assoc]
  apply ofResult_bind
  intro afterUnit hunit
  obtain ⟨unitWord, -, rfl⟩ := Parse.keyword_eq_ok_iff.mp hunit
  rw [keyword_eq hrow.tail]
  apply ofResult_bind
  intro afterGrammar hgrammar
  obtain ⟨grammarWord, -, rfl⟩ := Parse.keyword_eq_ok_iff.mp hgrammar
  rw [expect_agrees cs stop _ _ _ hrow.tail.tail]
  apply ofResult_bind
  rintro ⟨first, afterFirst⟩ hfirst
  obtain ⟨-, rfl⟩ := Parse.expect_eq_ok_iff.mp hfirst
  simp only [nameSegments_agrees cs stop _ _ hrow.tail.tail.tail]
  apply ofResult_bind
  rintro ⟨nameStop, afterName⟩ hsegments
  obtain ⟨segments, -, rfl, rfl, -⟩ := Parse.nameSegments_eq_ok_iff.mp hsegments
  simp only [expect_agrees cs stop _ _ _ hrow.tail.tail.tail.right]
  apply ofResult_bind
  rintro ⟨semicolon, rest⟩ -
  rw [← List.cons_append] at hrow
  simp only [slice_name hrow.tail.tail.left]
  rfl

end Declaration

/-! ## Documents -/

/-- The tokens of a text stand in it, one after the other. -/
theorem standInRow_of_scan {text : String} {tokens : List Token}
    (hscan : Token.scan text = .ok tokens) : Token.StandInRow text.toList tokens :=
  ⟨⟨_, _, Token.inRow_of_scan hscan⟩, Token.standsIn_of_scan hscan⟩

theorem grammar_eq (text : String) : grammar text = ofResult (Grammar.parse text) := by
  have hscan : scanFrom text.toList 0 text.toList = ofResult (Token.scan text) :=
    scanFrom_eq (List.nil_append _).symm rfl
  rw [grammar, Grammar.parse, hscan]
  apply ofResult_bind
  intro tokens htokens
  have hrow := standInRow_of_scan htokens
  rw [header_eq hrow]
  rcases hheader : Parse.header (Text.byteCount text.toList) tokens with e | ⟨name, rest⟩
  · rfl
  · obtain ⟨unitWord, grammarWord, first, segments, semicolon, -, -, -, -, -, -, rfl⟩ :=
      Parse.header_eq_ok_iff.mp hheader
    change ruleDefs text.toList (Text.byteCount text.toList) rest >>= _ = _
    rw [ruleDefs_eq hrow.tail.tail.tail.right.tail]
    apply ofResult_bind
    rintro rules -
    simp only [span_eq (Nat.zero_le _)]
    rfl

/-- The name of a method stands in the text where its line has it. -/
theorem method?_eq {text : String} {line : Text.Line} (hline : line ∈ Text.lines text) :
    method? text.toList line = .ok (Method.ofLine? line) := by
  rcases hmethod : Method.declared? line.chars with _ | ⟨before, name⟩
  · simp [method?, Method.ofLine?, hmethod]
    rfl
  · have hdeclared : Method.ofLine? line = some ⟨String.ofList name,
        ⟨line.start + Text.byteCount before,
          line.start + Text.byteCount before + Text.byteCount name⟩⟩ := by
      simp [Method.ofLine?, hmethod]
    have hslice := (Method.declaredBy_of_ofLine? hline hdeclared).slice
    rw [String.toList_ofList] at hslice
    simp only [method?, hmethod, hdeclared, span_eq (Nat.le_add_right _ _), bind, Except.bind,
      slice_eq hslice]
    rfl

theorem methods_eq {text : String} {lines : List Text.Line}
    (hlines : ∀ line ∈ lines, line ∈ Text.lines text) :
    methods text.toList lines = .ok (lines.filterMap Method.ofLine?) := by
  induction lines with
  | nil => rfl
  | cons line lines ih =>
    obtain ⟨hline, hlines⟩ := List.forall_mem_cons.mp hlines
    simp only [methods, method?_eq hline, ih hlines, bind, Except.bind]
    cases hmethod : Method.ofLine? line with
    | none => simp [hmethod, pure, Except.pure]
    | some method => simp [hmethod, pure, Except.pure]

theorem actions?_eq (text : String) : actions? text = .ok (Actions.ofText? text) := by
  rw [actions?, Actions.ofText?]
  cases Header.actionsName? text with
  | none => rfl
  | some name =>
    simp only [span_eq (Nat.zero_le _), methods_eq fun line hline => hline, bind, Except.bind]
    rfl

theorem parse_eq (text : String) : parse text = ofResult (Model.parse text) := by
  unfold parse Model.parse
  rcases Header.kind? text with _ | _ | _
  · rfl
  · simp only [grammar_eq]
    cases Grammar.parse text with
    | error e => rfl
    | ok grammar => rfl
  · simp only [actions?_eq]
    rfl

theorem errorSpan?_eq (e : SyntaxError) : errorSpan? e = .ok e.span? := by
  cases e with
  | unexpectedEnd expected offset =>
    rw [errorSpan?, span_eq (Nat.le_refl offset)]
    rfl
  | _ => rfl

/-! ## Places -/

section Places

open Text

/-- Where an offset is no boundary, going back one byte leads to the same boundary. -/
theorem floorBoundary_succ {cs : List Char} {offset : Nat}
    (h : ¬ isBoundary cs (offset + 1) = true) :
    floorBoundary cs (offset + 1) = floorBoundary cs offset := by
  obtain ⟨⟨hboundary, hle⟩, hgreatest⟩ := isGreatest_floorBoundary cs (offset + 1)
  have hne : floorBoundary cs (offset + 1) ≠ offset + 1 := fun heq => h (beq_iff_eq.mpr heq)
  have hle' : floorBoundary cs (offset + 1) ≤ min offset (byteCount cs) := by omega
  have hsame : IsGreatest {b | Boundary cs b ∧ b ≤ min offset (byteCount cs)}
      (floorBoundary cs (offset + 1)) := by
    refine ⟨⟨hboundary, hle'⟩, ?_⟩
    rintro b ⟨hb, hble⟩
    exact hgreatest ⟨hb, by omega⟩
  exact hsame.unique (isGreatest_floorBoundary cs offset)

/-- Going back from an offset ends at the boundary that is not above it. -/
theorem clamp_eq (cs : List Char) (offset : Nat) :
    clamp cs offset = .ok (floorBoundary cs offset) := by
  induction offset with
  | zero =>
    have hboundary := isBoundary_byteCount_append [] cs
    rw [List.nil_append, byteCount] at hboundary
    rw [clamp, if_pos hboundary, beq_iff_eq.mp hboundary]
  | succ offset ih =>
    rw [clamp]
    split_ifs with hboundary
    · rw [beq_iff_eq.mp hboundary]
    · rw [ih, floorBoundary_succ hboundary]

theorem floorBoundary_min (cs : List Char) (offset : Nat) :
    floorBoundary cs (min offset (byteCount cs)) = floorBoundary cs offset := by
  have hgreatest := isGreatest_floorBoundary cs (min offset (byteCount cs))
  rw [min_assoc, min_self] at hgreatest
  exact hgreatest.unique (isGreatest_floorBoundary cs offset)

variable {text : String} {part rest : List Char}

/-- The lines before that of the end of a part start before the end. -/
theorem start_lt_byteCount {line start : Nat}
    (h : (0 :: breaksFrom 0 (part ++ rest))[line]? = some start) (hline : line < part.count '\n') :
    start < byteCount part := by
  obtain ⟨before, hcut, hbefore, -, hcount⟩ := exists_lastLine part
  rcases hbefore with rfl | ⟨above, rfl⟩
  · rw [← hcount] at hline
    cases hline
  · rw [List.count_append, List.count_singleton_self] at hcount
    rw [hcut, List.append_assoc, List.append_assoc] at h
    have hle := start_le_byteCount h (by omega)
    rw [hcut, byteCount_append, byteCount_append]
    have hpos := byteCount_pos (List.cons_ne_nil '\n' [])
    omega

/-- The line of the end of a part is found, or it is the one before the place that is found. -/
theorem search_starts (h : text.toList = part ++ rest) :
    search (LineIndex.ofText text).starts (byteCount part) = .ok (part.count '\n') ∨
      search (LineIndex.ofText text).starts (byteCount part) = .error (part.count '\n' + 1) := by
  have hstarts : (LineIndex.ofText text).starts.toList = 0 :: breaksFrom 0 (part ++ rest) := by
    rw [LineIndex.ofText, h]
  rw [search, hstarts]
  rcases hfound : (0 :: breaksFrom 0 (part ++ rest)).idxOf? (byteCount part) with _ | line
  · -- all starts in the part are below its end, and all others above it
    right
    rw [List.idxOf?_eq_none_iff, breaksFrom_append, Nat.zero_add, List.mem_cons,
      List.mem_append] at hfound
    push Not at hfound
    obtain ⟨hzero, hpart, -⟩ := hfound
    have hbelow : (breaksFrom 0 part).countP (· < byteCount part) = part.count '\n' := by
      rw [← length_breaksFrom 0 part, List.countP_eq_length]
      intro start hstart
      have hle := (bounds_of_mem_breaksFrom hstart).2
      have hne : start ≠ byteCount part := by
        rintro rfl
        exact hpart hstart
      exact decide_eq_true (by omega)
    have habove : (breaksFrom (byteCount part) rest).countP (· < byteCount part) = 0 := by
      rw [List.countP_eq_zero]
      intro start hstart
      have hlt := (bounds_of_mem_breaksFrom hstart).1
      simp only [decide_eq_true_eq]
      omega
    have hfirst : decide (0 < byteCount part) = true := decide_eq_true (by omega)
    rw [breaksFrom_append, Nat.zero_add, List.countP_cons, List.countP_append, hbelow, habove,
      if_pos hfirst]
  · left
    obtain ⟨hline, hget, -⟩ := List.idxOf?_eq_some_iff.mp hfound
    have hget : (0 :: breaksFrom 0 (part ++ rest))[line]? = some (byteCount part) := by
      rw [List.getElem?_eq_getElem hline, hget]
    rcases Nat.lt_trichotomy line (part.count '\n') with hlt | rfl | hlt
    · exact absurd (start_lt_byteCount hget hlt) (Nat.lt_irrefl _)
    · rfl
    · exact absurd (byteCount_lt_start hget hlt) (Nat.lt_irrefl _)

/-- **The position of an offset** is found without a fault: the text has a line that starts not
after it, and both the start and the offset are boundaries. -/
theorem positionAt_eq (text : String) (offset : Nat) :
    positionAt (LineIndex.ofText text) offset =
      .ok ((LineIndex.ofText text).positionAt offset) := by
  set part := takeBytes offset text.toList with hpart
  have hcut : text.toList = part ++ dropBytes offset text.toList :=
    (takeBytes_append_dropBytes offset text.toList).symm
  obtain ⟨before, hline, hbefore, -, hcount⟩ := exists_lastLine part
  have hclamp : clamp text.toList (min offset (byteCount text.toList)) = .ok (byteCount part) := by
    rw [clamp_eq, floorBoundary_min, floorBoundary]
  have hwhole : text.toList = before ++ lastLine part ++ dropBytes offset text.toList := by
    rw [← hline]
    exact hcut
  have hstart : lookup (LineIndex.ofText text).starts (part.count '\n') =
      .ok (byteCount before) := by
    rw [List.append_assoc] at hwhole
    rw [lookup, ← hcount, LineIndex.getElem?_starts_eq hwhole hbefore]
  have hslice : slice text.toList (byteCount before) (byteCount part) = .ok (lastLine part) := by
    have hlength : byteCount part = byteCount before + byteCount (lastLine part) := by
      rw [← byteCount_append, ← hline]
    apply slice_eq
    rw [hlength, hwhole]
    exact slice?_append _ _ _
  have htext : (LineIndex.ofText text).text = text.toList := rfl
  rw [LineIndex.positionAt_eq, ← hpart, positionAt, LineIndex.length, htext, hclamp]
  rcases search_starts hcut with hsearch | hsearch
  · simp only [bind, Except.bind, hsearch, hstart, hslice]
    rfl
  · have hminus := minus_eq (Nat.le_add_left 1 (part.count '\n'))
    rw [Nat.add_sub_cancel] at hminus
    simp only [bind, Except.bind, hsearch, hminus, hstart, hslice]
    rfl

theorem positionsOf_eq (text : String) (place : Span) :
    positionsOf (LineIndex.ofText text) place =
      .ok ((LineIndex.ofText text).positionsOf place) := by
  simp only [positionsOf, positionAt_eq, bind, Except.bind]
  rfl

end Places

end Checked

/-- **No text leads to a fault.** The model of a text, or the error in its place, is found without a
span that ends before it begins, a slice that is no part of the text, or a difference below zero.
The place of every error, and the lines and columns of every span, are found without one too, and
with the same results. -/
theorem Model.parse_without_fault (text : String) :
    (Checked.parse text).run = .ok (Model.parse text) ∧
      (∀ e, Checked.errorSpan? e = .ok e.span?) ∧
      ∀ span, Checked.positionsOf (LineIndex.ofText text) span =
        .ok ((LineIndex.ofText text).positionsOf span) :=
  ⟨Checked.parse_eq text, Checked.errorSpan?_eq, Checked.positionsOf_eq text⟩

/-- A token that did not stand in the text would be noticed: its own text is not looked at. -/
example : Checked.textOf "ä".toList ⟨.word, ⟨0, 1⟩, "a"⟩ = .error (.slice 0 1) := by decide

end FanServer
