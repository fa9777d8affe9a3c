import FanServer.Proofs.Incomplete
import FanServer.Proofs.Layout

/-!
# What an error points at

An error blames a token, or the end of the text, or characters of which no token can be made. For a
token it says more than where reading stopped: **up to that token the text could have become a
grammar**.

* `SyntaxError.Blames` — the token that an error is about;
* `Parse.FoundIn` — an error of a reader is about the end of the text or about one of the reader's
  tokens. Each reader inherits this from those it calls, since they read what it has left;
* `Token.Viable` — tokens with which the tokens of some grammar begin.

That the tokens before the blamed one are viable comes from the verdicts on texts that are cut short
(`Parse.document_verdict`). Let the text end where the blamed token begins. Either it is a grammar
then, or it ends too early and can be completed; for a token before the blamed one cannot be wrong
already, or it would have been blamed in the whole text, too.

Main result: `Grammar.error_points_at_text`.
-/

open FanServer.Derivation

namespace FanServer

/-! ## The token that is blamed -/

/-- The error is about the token. -/
inductive SyntaxError.Blames : SyntaxError → Token → Prop where
  /-- the token is not what is called for -/
  | token {expected : Expectation} {t : Token} :
      Blames (.unexpectedToken expected t.text t.span) t
  /-- the token is a range that does not touch what it repeats -/
  | range {t : Token} (kind : t.kind = .quantifier) : Blames (.detachedQuantifier t.span) t
  /-- the token opens one group too many -/
  | bracket {t : Token} (kind : t.kind = .openBracket) :
      Blames (.nestingTooDeep maxNesting t.span) t

theorem SyntaxError.Blames.span?_eq {e : SyntaxError} {t : Token} (h : e.Blames t) :
    e.span? = some t.span := by
  cases h <;> rfl

namespace Parse

/-- **Where the error of a reader was found**: at the end of the text, or at one of its tokens. -/
def FoundIn (stop : Nat) (ts : List Token) (e : SyntaxError) : Prop :=
  (∃ expected, e = .unexpectedEnd expected stop) ∨ ∃ t ∈ ts, e.Blames t

theorem FoundIn.mono {stop : Nat} {ts us : List Token} {e : SyntaxError} (h : FoundIn stop ts e)
    (hsubset : ts ⊆ us) : FoundIn stop us e := by
  rcases h with hend | ⟨t, ht, hblames⟩
  · exact .inl hend
  · exact .inr ⟨t, hsubset ht, hblames⟩

theorem FoundIn.cons {stop : Nat} {t : Token} {ts : List Token} {e : SyntaxError}
    (h : FoundIn stop ts e) : FoundIn stop (t :: ts) e :=
  h.mono (List.subset_cons_self t ts)

theorem FoundIn.append {stop : Nat} {ts us : List Token} {e : SyntaxError}
    (h : FoundIn stop us e) : FoundIn stop (ts ++ us) e :=
  h.mono (List.subset_append_right ts us)

section Items

variable {stop levels : Nat} {ts : List Token} {e : SyntaxError}

theorem expect_foundIn {kind : TokenKind} {expected : Expectation}
    (h : expect stop kind expected ts = .error e) : FoundIn stop ts e := by
  rcases expect_eq_error_iff.mp h with ⟨-, rfl⟩ | ⟨t, rest, rfl, -, rfl⟩
  · exact .inl ⟨expected, rfl⟩
  · exact .inr ⟨t, List.mem_cons_self, .token⟩

variable {term : Reader Rule} (hreads : ReadsTerms term levels)
  (hterm : ∀ ts e, term ts = .error e → FoundIn stop ts e)

include hreads hterm

theorem item_foundIn (h : item term ts = .error e) : FoundIn stop ts e := by
  rw [item] at h
  split at h
  · next e' hread =>
    cases h
    exact hterm ts e hread
  · cases h
  · next rule range left hread =>
    obtain ⟨tree, -, -, -, rfl⟩ := (hreads _ _ _).mp hread
    split_ifs at h with hkind hstart
    · split at h
      · next e' hclause =>
        cases h
        obtain ⟨marker, left', rfl, -, hread'⟩ := separator_eq_error_iff.mp hclause
        exact (hterm left' e hread').cons.cons.append
      · cases h
    · cases h
      exact .inr ⟨range, List.mem_append_right _ List.mem_cons_self, .range hkind⟩

theorem items_foundIn (h : items term ts = .error e) : FoundIn stop ts e := by
  fun_induction items term ts with
  | case1 ts hends => cases h
  | case2 ts hends e' hitem =>
    cases h
    exact item_foundIn hreads hterm hitem
  | case3 ts hends rule left hitem hlength e' hitems ih =>
    cases h
    obtain ⟨tree, -, -, -, rfl⟩ := exists_of_item_eq_ok hreads hitem
    exact (ih hitems).append
  | case4 ts hends rule left hitem hlength rules left' hitems ih => cases h
  | case5 ts hends rule left hitem hlength => cases h

end Items

/-- The error of a term is about one of its tokens, if that of a group is. -/
theorem foundIn_of_groups {stop levels : Nat}
    (hgroup : ∀ t ts e, t.kind = .openBracket → term stop levels (t :: ts) = .error e →
      FoundIn stop (t :: ts) e) :
    ∀ ts e, term stop levels ts = .error e → FoundIn stop ts e := by
  rintro (_ | ⟨t, ts⟩) e h
  · unfold term at h
    cases h
    exact .inl ⟨.ruleElement, rfl⟩
  · by_cases hopening : t.kind = .openBracket
    · exact hgroup t ts e hopening h
    · unfold term at h
      split at h
      · cases h
      · rw [if_neg hopening] at h
        cases h
        exact .inr ⟨t, List.mem_cons_self, .token⟩

/-- **The error of a term is about one of its tokens**, at every depth. -/
theorem term_foundIn (stop levels : Nat) :
    ∀ ts e, term stop levels ts = .error e → FoundIn stop ts e := by
  induction levels with
  | zero =>
    apply foundIn_of_groups
    intro t ts e hopening h
    have hleaf : leafKind? t = none := by rw [leafKind?, hopening]
    unfold term at h
    simp only [hleaf, hopening, if_true] at h
    cases h
    exact .inr ⟨t, List.mem_cons_self, .bracket hopening⟩
  | succ levels ih =>
    apply foundIn_of_groups
    intro t ts e hopening h
    have hleaf : leafKind? t = none := by rw [leafKind?, hopening]
    have hreads := readsTerms_term stop levels
    unfold term at h
    simp only [hleaf, hopening, if_true] at h
    split at h
    · next e' hitems =>
      cases h
      exact (items_foundIn hreads ih hitems).cons
    · next parts left hitems =>
      obtain ⟨tree, -, -, -, rfl, -⟩ := (items_eq_ok_iff hreads).mp hitems
      split at h
      · next e' hclosing =>
        cases h
        exact (expect_foundIn hclosing).append.cons
      · cases h

section Definitions

variable {stop anchor : Nat} {ts : List Token} {e : SyntaxError}

theorem alternatives_foundIn (h : alternatives stop anchor ts = .error e) :
    FoundIn stop ts e := by
  fun_induction alternatives stop anchor ts with
  | case1 anchor ts e' hfirst =>
    cases h
    exact items_foundIn (readsTerms_term stop maxNesting) (term_foundIn stop maxNesting)
      (alternative_eq_error_iff.mp hfirst)
  | case2 anchor ts first hfirst => cases h
  | case3 anchor ts first pipe left hfirst hpipe e' hothers ih =>
    cases h
    obtain ⟨tree, -, -, -, rfl, -⟩ := alternative_eq_ok_iff.mp hfirst
    exact (ih hothers).cons.append
  | case4 anchor ts first pipe left hfirst hpipe rules left' hothers ih => cases h
  | case5 anchor ts first t left hfirst hpipe => cases h

theorem ruleName_foundIn (h : ruleName stop ts = .error e) : FoundIn stop ts e := by
  rw [ruleName, bind_eq_error_iff] at h
  rcases h with hword | ⟨⟨t, left⟩, hword, hmodifier⟩
  · exact expect_foundIn hword
  · obtain ⟨-, rfl⟩ := expect_eq_ok_iff.mp hword
    dsimp only at hmodifier
    split_ifs at hmodifier
    · cases hmodifier
      exact .inr ⟨t, List.mem_cons_self, .token⟩
    · cases hmodifier

theorem ruleDef_foundIn (h : ruleDef stop ts = .error e) : FoundIn stop ts e := by
  rw [ruleDef, bind_eq_error_iff] at h
  rcases h with hname | ⟨⟨name, left⟩, hname, h⟩
  · exact ruleName_foundIn hname
  obtain ⟨t, -, -, -, rfl⟩ := ruleName_eq_ok_iff.mp hname
  dsimp only at h
  rw [bind_eq_error_iff] at h
  rcases h with hcolon | ⟨⟨colon, left'⟩, hcolon, h⟩
  · exact (expect_foundIn hcolon).cons
  obtain ⟨-, rfl⟩ := expect_eq_ok_iff.mp hcolon
  dsimp only at h
  rw [bind_eq_error_iff] at h
  rcases h with halternatives | ⟨_, -, ⟨⟩⟩
  exact (alternatives_foundIn halternatives).cons.cons

theorem ruleDefs_foundIn (h : ruleDefs stop ts = .error e) : FoundIn stop ts e := by
  fun_induction ruleDefs stop ts with
  | case1 ts hempty => cases h
  | case2 ts hempty e' hfirst =>
    cases h
    exact ruleDef_foundIn hfirst
  | case3 ts hempty first left hfirst hlength e' hothers ih =>
    cases h
    obtain ⟨tree, -, -, -, rfl, -⟩ := ruleDef_eq_ok_iff.mp hfirst
    exact (ih hothers).append
  | case4 ts hempty first left hfirst hlength others hothers ih => cases h
  | case5 ts hempty first left hfirst hlength => cases h

end Definitions

section Declaration

variable {stop : Nat} {ts : List Token} {e : SyntaxError}

theorem nameSegments_foundIn {nameStop : Nat} (h : nameSegments stop nameStop ts = .error e) :
    FoundIn stop ts e := by
  fun_induction nameSegments stop nameStop ts with
  | case1 nameStop => cases h
  | case2 nameStop colons left hcolons e' hword =>
    cases h
    exact (expect_foundIn hword).cons
  | case3 nameStop colons left hcolons word left' hword ih =>
    obtain ⟨-, rfl⟩ := expect_eq_ok_iff.mp hword
    exact (ih h).cons.cons
  | case4 nameStop t left hcolons => cases h

/-- The rest of a document, behind the keywords of its declaration. -/
theorem document_foundIn {unitWord grammarWord : Token}
    (hunit : unitWord.kind = .word ∧ unitWord.text = "unit")
    (hgrammar : grammarWord.kind = .word ∧ grammarWord.text = "grammar")
    (h : (header stop (unitWord :: grammarWord :: ts) >>= fun declared =>
      ruleDefs stop declared.2) = .error e) : FoundIn stop ts e := by
  rw [bind_eq_error_iff] at h
  rcases h with h | ⟨⟨name, rest⟩, hheader, hdefinitions⟩
  · rw [header_keywords hunit hgrammar, bind_eq_error_iff] at h
    rcases h with hfirst | ⟨⟨first, left⟩, hfirst, h⟩
    · exact expect_foundIn hfirst
    obtain ⟨-, rfl⟩ := expect_eq_ok_iff.mp hfirst
    rw [bind_eq_error_iff] at h
    rcases h with hname | ⟨⟨last, left'⟩, hname, h⟩
    · exact (nameSegments_foundIn hname).cons
    obtain ⟨segments, -, -, rfl, -⟩ := nameSegments_eq_ok_iff.mp hname
    rw [bind_eq_error_iff] at h
    rcases h with hsemicolon | ⟨_, -, ⟨⟩⟩
    exact (expect_foundIn hsemicolon).append.cons
  · obtain ⟨_, _, first, segments, semicolon, -, -, -, -, -, -, htokens⟩ :=
      header_eq_ok_iff.mp hheader
    simp only [List.cons.injEq] at htokens
    rw [htokens.2.2]
    exact (ruleDefs_foundIn hdefinitions).cons.append.cons

/-- Where another error than a missing declaration comes up, it is about what follows the
keywords. -/
theorem exists_foundIn (hne : e ≠ .missingHeader)
    (h : (header stop ts >>= fun declared => ruleDefs stop declared.2) = .error e) :
    ∃ unitWord grammarWord left, (unitWord.kind = .word ∧ unitWord.text = "unit") ∧
      (grammarWord.kind = .word ∧ grammarWord.text = "grammar") ∧
      ts = unitWord :: grammarWord :: left ∧ FoundIn stop left e := by
  have hkeywords : ∃ unitWord grammarWord left, (unitWord.kind = .word ∧ unitWord.text = "unit") ∧
      (grammarWord.kind = .word ∧ grammarWord.text = "grammar") ∧
      ts = unitWord :: grammarWord :: left := by
    rcases bind_eq_error_iff.mp h with hheader | ⟨⟨name, rest⟩, hheader, -⟩
    · exact exists_keywords hne hheader
    · obtain ⟨unitWord, grammarWord, _, _, _, hunit, hgrammar, -, -, -, -, htokens⟩ :=
        header_eq_ok_iff.mp hheader
      exact ⟨unitWord, grammarWord, _, hunit, hgrammar, htokens⟩
  obtain ⟨unitWord, grammarWord, left, hunit, hgrammar, rfl⟩ := hkeywords
  exact ⟨unitWord, grammarWord, left, hunit, hgrammar, rfl, document_foundIn hunit hgrammar h⟩

end Declaration

end Parse

/-! ## The tokens before it -/

/-- **With the tokens a grammar can begin**: in kind and text they are the first ones of a text that
can be parsed. -/
def Token.Viable (ts : List Token) : Prop :=
  ∃ text tokens grammar, Token.scan text = .ok tokens ∧ Grammar.parse text = .ok grammar ∧
    ts.map Token.content <+: tokens.map Token.content

/-- What is read before a token is read in the same way if the text ends before the token. -/
theorem Reads.divide_token {rest cs : List Char} {offset : Nat} {tokens : List Token}
    (h : Reads rest offset cs tokens) {before after : List Token} {t : Token}
    (htokens : tokens = before ++ t :: after) :
    ∃ a b, cs = a ++ b ∧ Reads (b ++ rest) offset a before := by
  induction h generalizing before with
  | nil => simp at htokens
  | @blank offset c cs tokens hc _ ih =>
    obtain ⟨a, b, rfl, hread⟩ := ih htokens
    exact ⟨c :: a, b, rfl, .blank hc hread⟩
  | @comment offset body cs tokens hbody hstop _ ih =>
    obtain ⟨a, b, rfl, hread⟩ := ih htokens
    rw [List.append_assoc] at hstop
    exact ⟨'#' :: body ++ a, b, (List.append_assoc ..).symm, .comment hbody hstop hread⟩
  | @token offset kind text cs tokens htext hends _ ih =>
    cases before with
    | nil => exact ⟨[], text ++ cs, rfl, .nil⟩
    | cons first before =>
      obtain ⟨rfl, rfl⟩ := List.cons.inj htokens
      obtain ⟨a, b, rfl, hread⟩ := ih rfl
      rw [List.append_assoc] at hends
      exact ⟨text ++ a, b, (List.append_assoc ..).symm, .token htext hends hread⟩

theorem Token.exists_scan_before {text : String} {before after : List Token} {t : Token}
    (h : Token.scan text = .ok (before ++ t :: after)) :
    ∃ part, Token.scan part = .ok before := by
  obtain ⟨a, b, -, hread⟩ := (scanFrom_eq_ok_iff.mp h).divide_token rfl
  refine ⟨String.ofList a, ?_⟩
  rw [Token.scan, String.toList_ofList]
  exact hread.truncate.scanFrom_eq

/-- The tokens of a text that ends too early are viable. -/
theorem Token.viable_of_unexpectedEnd {text : String} {tokens : List Token} {stop offset : Nat}
    {expected : Expectation} (hscan : Token.scan text = .ok tokens)
    (h : (Parse.header stop tokens >>= fun declared => Parse.ruleDefs stop declared.2) =
      .error (.unexpectedEnd expected offset)) : Viable tokens := by
  cases Parse.document_verdict 0 (by simp) h with
  | final notEnd _ => exact absurd trivial notEnd
  | incomplete _ _ kinds complete =>
    obtain ⟨cs, later, hlater, hkinds⟩ :=
      exists_scanFrom_kinds kinds (Text.byteCount text.toList + 1)
    obtain ⟨document, hvalid, hfits, htokens⟩ := complete later hkinds
    have hlines : Token.scan (text ++ "\n" ++ String.ofList cs) = .ok document.tokens :=
      Token.scan_lines_eq_ok_iff.mpr ⟨tokens, later, hscan, by rwa [String.toList_ofList], htokens⟩
    refine ⟨_, _, _, hlines, Grammar.parse_eq_ok_iff.mpr ⟨document, hvalid, hfits, hlines, rfl⟩, ?_⟩
    rw [htokens, List.map_append]
    exact List.prefix_append _ _

/-- **The tokens before the blamed one are viable.** -/
theorem Token.viable_before {text : String} {e : SyntaxError} {unitWord grammarWord t : Token}
    {before after : List Token} (hunit : unitWord.kind = .word ∧ unitWord.text = "unit")
    (hgrammar : grammarWord.kind = .word ∧ grammarWord.text = "grammar")
    (hscan : Token.scan text = .ok (unitWord :: grammarWord :: before ++ t :: after))
    (hread : (Parse.header (Text.byteCount text.toList)
        (unitWord :: grammarWord :: before ++ t :: after) >>= fun declared =>
      Parse.ruleDefs (Text.byteCount text.toList) declared.2) = .error e) (hblames : e.Blames t) :
    Viable (unitWord :: grammarWord :: before) := by
  obtain ⟨part, hpart⟩ := Token.exists_scan_before hscan
  rcases hparse : Grammar.parse part with e' | grammar
  · rcases Grammar.parse_eq_error_iff.mp hparse with herror | ⟨tokens, htokens, hread'⟩
    · rw [hpart] at herror
      cases herror
    rw [hpart] at htokens
    obtain rfl := Except.ok.inj htokens
    rcases Parse.document_foundIn hunit hgrammar hread' with ⟨expected, rfl⟩ | ⟨u, hu, hblames'⟩
    · exact viable_of_unexpectedEnd hpart hread'
    · -- the error would stay in the whole text, but there another token is blamed
      have hne : e' ≠ .missingHeader := by
        rintro rfl
        cases hblames'
      cases Parse.document_verdict (Text.byteCount text.toList) hne hread' with
      | incomplete _ _ _ _ => cases hblames'
      | final _ stays =>
        have hsame := (stays (t :: after)).symm.trans hread
        obtain rfl := Except.error.inj hsame
        have hspan : u.span = t.span :=
          Option.some.inj (hblames'.span?_eq.symm.trans hblames.span?_eq)
        have horder := (scanFrom_eq_ok_iff.mp hscan).ordered.2
        have hle := (List.pairwise_append.mp horder).2.2 u
          (List.mem_cons_of_mem _ (List.mem_cons_of_mem _ hu)) t List.mem_cons_self
        have hlt := (Token.standsIn_of_scan hscan t (by simp)).start_lt_stop
        rw [hspan] at hle
        omega
  · exact ⟨part, _, grammar, hpart, hparse, List.prefix_rfl⟩

/-! ## What an error points at -/

/-- The token stands in the text, and with the tokens before it a grammar can begin. -/
def Token.BlamedIn (text : String) (t : Token) : Prop :=
  ∃ before after, Token.scan text = .ok (before ++ t :: after) ∧ Viable before

/-- **What an error has to do with the text** that cannot be parsed. -/
structure SyntaxError.PointsAt (text : String) (e : SyntaxError) : Prop where
  /-- it is about characters exactly if the text cannot be scanned -/
  character : (∃ found span, e = .unexpectedCharacter found span) ↔
    ∃ e', Token.scan text = .error e'
  /-- and it is then the error of scanning, whatever else is wrong -/
  scan : ∀ e', Token.scan text = .error e' → e = e'
  /-- an unexpected end is at the end of the text -/
  ending : ∀ expected offset, e = .unexpectedEnd expected offset →
    e.span? = some ⟨Text.byteCount text.toList, Text.byteCount text.toList⟩
  /-- an unexpected token is one of the text, and it is quoted -/
  token : ∀ expected found span, e = .unexpectedToken expected found span →
    ∃ t : Token, t.BlamedIn text ∧ t.span = span ∧ t.text = found ∧
      Text.slice? text.toList span = some found.toList ∧
      e.message = "expected " ++ expected.phrase ++ ", found " ++ ("`" ++ t.text ++ "`") ++
        " at " ++ span.display
  /-- a detached range is a token of the text -/
  range : ∀ span, e = .detachedQuantifier span →
    ∃ t : Token, t.BlamedIn text ∧ t.span = span ∧ t.kind = .quantifier
  /-- and so is the bracket that opens one group too many -/
  bracket : ∀ limit span, e = .nestingTooDeep limit span →
    ∃ t : Token, t.BlamedIn text ∧ t.span = span ∧ t.kind = .openBracket
  /-- wherever it points, that is a part of the text -/
  marks : ∀ span, e.span? = some span →
    span.Marks text.toList ∧ span.stop ≤ Text.byteCount text.toList

namespace SyntaxError

variable {text : String} {e : SyntaxError}

/-- The wording of the error quotes what was found. -/
theorem message_unexpectedToken (expected : Expectation) (found : String) (span : Span) :
    (unexpectedToken expected found span).message =
      "expected " ++ expected.phrase ++ ", found " ++ ("`" ++ found ++ "`") ++ " at " ++
        span.display := by
  have hquote (a b c d x y z : String) :
      a ++ x ++ (b ++ c) ++ y ++ (c ++ d) ++ z = a ++ x ++ b ++ (c ++ y ++ c) ++ d ++ z := by
    simp only [String.append_assoc]
  exact hquote "expected " ", found " "`" " at " expected.phrase found span.display

/-- An error of scanning points at the characters of which no token can be made. -/
theorem pointsAt_of_scan (h : Token.scan text = .error e) : e.PointsAt text := by
  obtain ⟨before, c, after, tokens, found, hcut, hread, hstuck, rfl⟩ := scanFrom_eq_error_iff.mp h
  have hblocked := hstuck.blocked hread
  rw [← hcut] at hblocked
  rw [Nat.zero_add] at h ⊢
  exact {
    character := ⟨fun _ => ⟨_, h⟩, fun _ => ⟨_, _, rfl⟩⟩
    scan := fun e' h' => Except.error.inj (h.symm.trans h')
    ending := by simp
    token := by simp
    range := by simp
    bracket := by simp
    marks := by
      rintro span ⟨⟩
      have hmarks := Span.Marks.of_slice? hblocked.text
      exact ⟨hmarks, hmarks.stop_le⟩ }

/-- An error of reading points at a token or at the end of the text. -/
theorem pointsAt_of_read {tokens : List Token} (hscan : Token.scan text = .ok tokens)
    (h : (Parse.header (Text.byteCount text.toList) tokens >>= fun declared =>
      Parse.ruleDefs (Text.byteCount text.toList) declared.2) = .error e) : e.PointsAt text := by
  have hscans : ∀ e', Token.scan text ≠ .error e' := by
    intro e' h'
    rw [hscan] at h'
    cases h'
  by_cases hne : e = .missingHeader
  · subst hne
    exact {
      character := by simp [hscans]
      scan := fun e' h' => absurd h' (hscans e')
      ending := by simp
      token := by simp
      range := by simp
      bracket := by simp
      marks := by simp [span?] }
  obtain ⟨unitWord, grammarWord, left, hunit, hgrammar, rfl, hfound⟩ := Parse.exists_foundIn hne h
  rcases hfound with ⟨expected, rfl⟩ | ⟨t, ht, hblames⟩
  · exact {
      character := by simp [hscans]
      scan := fun e' h' => absurd h' (hscans e')
      ending := by
        rintro _ _ ⟨⟩
        rfl
      token := by simp
      range := by simp
      bracket := by simp
      marks := by
        rintro span ⟨⟩
        have hend := Text.isBoundary_byteCount_append text.toList []
        rw [List.append_nil] at hend
        exact ⟨⟨Nat.le_refl _, hend, hend⟩, Nat.le_refl _⟩ }
  · obtain ⟨before, after, rfl⟩ := List.append_of_mem ht
    have hblamed : t.BlamedIn text :=
      ⟨unitWord :: grammarWord :: before, after, hscan,
        Token.viable_before hunit hgrammar hscan h hblames⟩
    have hstands := Token.standsIn_of_scan hscan t (by simp)
    exact {
      character := by
        simp only [hscans, exists_false, iff_false]
        rintro ⟨found, span, rfl⟩
        cases hblames
      scan := fun e' h' => absurd h' (hscans e')
      ending := by
        rintro expected offset rfl
        cases hblames
      token := by
        rintro expected found span rfl
        cases hblames
        exact ⟨t, hblamed, rfl, rfl, hstands.slice?, message_unexpectedToken _ _ _⟩
      range := by
        rintro span rfl
        cases hblames with
        | range kind => exact ⟨t, hblamed, rfl, kind⟩
      bracket := by
        rintro limit span rfl
        cases hblames with
        | bracket kind => exact ⟨t, hblamed, rfl, kind⟩
      marks := by
        intro span hspan
        rw [hblames.span?_eq] at hspan
        obtain rfl := Option.some.inj hspan
        exact ⟨hstands.marks, hstands.marks.stop_le⟩ }

end SyntaxError

/-- **An error points at what it names.** Where a text cannot be parsed, the error is that of
scanning, or it points at a token of the text or at its end. What stands before the token could have
become a grammar. -/
theorem Grammar.error_points_at_text {text : String} {e : SyntaxError}
    (h : Grammar.parse text = .error e) : e.PointsAt text := by
  rcases Grammar.parse_eq_error_iff.mp h with hscan | ⟨tokens, hscan, hread⟩
  · exact SyntaxError.pointsAt_of_scan hscan
  · exact SyntaxError.pointsAt_of_read hscan hread

/-- A detached range behind a character of several bytes and an open group; and a text without a
declaration, of which only the character that begins no token is reported. -/
theorem Grammar.error_points_at_detached_range :
    (Grammar.parse "unit grammar G;\na: 'ä' [b (s)").map Grammar.name =
        .error (.detachedQuantifier ⟨27, 30⟩) ∧
      (SyntaxError.detachedQuantifier ⟨27, 30⟩).PointsAt "unit grammar G;\na: 'ä' [b (s)" ∧
      (Grammar.parse "a: @").map Grammar.name = .error (.unexpectedCharacter "@" ⟨3, 4⟩) ∧
      (SyntaxError.unexpectedCharacter "@" ⟨3, 4⟩).PointsAt "a: @" := by
  have hrange : (Grammar.parse "unit grammar G;\na: 'ä' [b (s)").map Grammar.name =
      .error (.detachedQuantifier ⟨27, 30⟩) := by decide +kernel
  have hcharacter : (Grammar.parse "a: @").map Grammar.name =
      .error (.unexpectedCharacter "@" ⟨3, 4⟩) := by decide +kernel
  exact ⟨hrange, Grammar.error_points_at_text (Parse.eq_error_of_map_eq_error hrange), hcharacter,
    Grammar.error_points_at_text (Parse.eq_error_of_map_eq_error hcharacter)⟩

end FanServer
