import FanServer.Proofs.Pattern
import Mathlib.Order.CompletePartialOrder

/-!
# A text and its tokens

Scanning takes the longest token at each place and never goes back. Two things have to be shown of
it: that the tokens it finds are the right ones, and that **no text is refused which could be cut in
another way**.

* `Reads` — how a text is read, token by token, as a relation that says nothing of the order in
  which it is looked at; `scanFrom_eq_ok_iff` and `scanFrom_eq_error_iff` say that scanning is this
  relation, up to the end or up to a place where no token can be read;
* `Pattern.piece` — blanks, a comment or a token; a text can be cut if it is a repetition of pieces;
* `Pattern.exists_longest` — a token of any cut can be made longest, and what is left can still be
  cut;
* `Cuts`, `Blocked` — what the tokens, or the error, have to do with the text.

Main result: `Token.scan_cuts_into_longest`.
-/

open Computability

namespace FanServer

/-! ## Reading -/

/-- **How a text is read.** In a text that goes on with `rest`, the characters before it, which
begin at an offset, are read as tokens. -/
inductive Reads (rest : List Char) : Nat → List Char → List Token → Prop where
  /-- nothing is left to read -/
  | nil {offset : Nat} : Reads rest offset [] []
  /-- a blank is skipped -/
  | blank {offset : Nat} {c : Char} {cs : List Char} {tokens : List Token} :
      Text.isLayout c → Reads rest (offset + c.utf8Size) cs tokens →
      Reads rest offset (c :: cs) tokens
  /-- a comment is skipped up to the end of its line -/
  | comment {offset : Nat} {body cs : List Char} {tokens : List Token} :
      (∀ c ∈ body, isCommentChar c) → (∀ c ∈ (cs ++ rest).head?, ¬ isCommentChar c) →
      Reads rest (offset + Text.byteCount ('#' :: body)) cs tokens →
      Reads rest offset ('#' :: body ++ cs) tokens
  /-- a token is read that cannot be made longer -/
  | token {offset : Nat} {kind : TokenKind} {text cs : List Char} {tokens : List Token} :
      text ∈ Pattern.ofKind kind → Pattern.Ends kind (cs ++ rest) →
      Reads rest (offset + Text.byteCount text) cs tokens →
      Reads rest offset (text ++ cs)
        (⟨kind, ⟨offset, offset + Text.byteCount text⟩, String.ofList text⟩ :: tokens)

/-- What is read before the rest of a text is read in the same way if the text ends there. -/
theorem Reads.truncate {rest cs : List Char} {offset : Nat} {tokens : List Token}
    (h : Reads rest offset cs tokens) : Reads [] offset cs tokens := by
  induction h with
  | nil => exact .nil
  | blank hc _ ih => exact .blank hc ih
  | comment hbody hstop _ ih =>
    refine .comment hbody ?_ ih
    intro c hc
    rw [List.append_nil] at hc
    refine hstop c ?_
    rw [List.head?_append, Option.mem_def.mp hc, Option.some_or]
    rfl
  | token htext hends _ ih =>
    refine .token htext ?_ ih
    rw [List.append_nil]
    exact hends.of_append

/-! ## Scanning is reading -/

/-- No token begins like a comment. -/
theorem Pattern.ne_hash_of_mem {kind : TokenKind} {c : Char} {w : List Char}
    (h : c :: w ∈ ofKind kind) : c ≠ '#' := by
  rintro rfl
  rw [mem_ofKind_iff] at h
  cases h

/-- Where neither a blank nor a comment stands, the next token is read first. -/
theorem scanFrom_cons_token {offset : Nat} {c : Char} {cs text rest : List Char} {kind : TokenKind}
    (hlayout : ¬ Text.isLayout c = true) (hhash : c ≠ '#')
    (h : nextLexeme c cs = .token kind text rest) :
    scanFrom offset (c :: cs) =
      (scanFrom (offset + Text.byteCount text) rest).map fun tokens =>
        ⟨kind, ⟨offset, offset + Text.byteCount text⟩, String.ofList text⟩ :: tokens := by
  rw [scanFrom, if_neg hlayout, if_neg hhash]
  split
  · next hnext =>
    rw [h] at hnext
    cases hnext
    dsimp only
    rcases scanFrom (offset + Text.byteCount text) rest with e | tokens <;> rfl
  · next hnext =>
    rw [h] at hnext
    cases hnext

/-- Nothing can be read at the beginning of `c :: cs`: neither a blank nor a comment, and a token
only as far as `text`. -/
structure StuckAt (c : Char) (cs text : List Char) : Prop where
  /-- no blank stands there -/
  not_layout : ¬ Text.isLayout c = true
  /-- no comment stands there -/
  ne_hash : c ≠ '#'
  /-- the token that begins there cannot be completed -/
  stuck : nextLexeme c cs = .stuck text

/-- Where nothing can be read, scanning stops. -/
theorem StuckAt.scanFrom_cons {c : Char} {cs text : List Char} (h : StuckAt c cs text)
    (offset : Nat) :
    scanFrom offset (c :: cs) =
      .error (.unexpectedCharacter (String.ofList text)
        ⟨offset, offset + Text.byteCount text⟩) := by
  rw [scanFrom, if_neg h.not_layout, if_neg h.ne_hash]
  split
  · next hnext =>
    rw [h.stuck] at hnext
    cases hnext
  · next hnext =>
    rw [h.stuck] at hnext
    cases hnext
    rfl

/-- **What is read comes first**, and then what is found in the rest. -/
theorem Reads.scanFrom_append {rest cs : List Char} {offset : Nat} {tokens : List Token}
    (h : Reads rest offset cs tokens) :
    scanFrom offset (cs ++ rest) =
      (scanFrom (offset + Text.byteCount cs) rest).map (tokens ++ ·) := by
  induction h with
  | nil =>
    simp only [List.nil_append, Text.byteCount, Nat.add_zero]
    rcases scanFrom _ rest with e | tokens <;> rfl
  | @blank offset c cs tokens hc _ ih =>
    rw [List.cons_append, scanFrom, if_pos hc, ih, Text.byteCount, Nat.add_assoc]
  | @comment offset body cs tokens hbody hstop _ ih =>
    have hlayout : ¬ Text.isLayout '#' = true := by decide
    rw [Text.byteCount, ← Nat.add_assoc] at ih
    rw [List.cons_append, List.cons_append, List.append_assoc, scanFrom, if_neg hlayout,
      if_pos rfl, Pattern.takeWhile_run hbody hstop, Pattern.dropWhile_run hbody hstop, ih,
      Text.byteCount, Text.byteCount_append]
    simp only [Nat.add_assoc]
  | @token offset kind text cs tokens htext hends _ ih =>
    obtain ⟨c, text, rfl⟩ : ∃ c text', text = c :: text' := by
      refine List.exists_cons_of_ne_nil ?_
      rintro rfl
      exact Pattern.nil_notMem_ofKind kind htext
    have hnext : nextLexeme c (text ++ (cs ++ rest)) = .token kind (c :: text) (cs ++ rest) :=
      Pattern.nextLexeme_eq_token_iff.mpr ⟨rfl, htext, hends⟩
    rw [List.append_assoc, List.cons_append,
      scanFrom_cons_token (Pattern.not_isLayout_of_mem htext) (Pattern.ne_hash_of_mem htext) hnext,
      ih, Text.byteCount_append, Nat.add_assoc]
    rcases scanFrom _ rest with e | tokens <;> rfl

/-- The text, which begins at an offset, can be read up to its end, or up to a place where nothing
can be read. -/
def Readable (offset : Nat) (cs : List Char) : Prop :=
  ∃ before rest tokens, cs = before ++ rest ∧ Reads rest offset before tokens ∧
    (rest = [] ∨ ∃ c after text, rest = c :: after ∧ StuckAt c after text)

theorem Readable.comment {offset : Nat} {cs : List Char}
    (h : Readable (offset + '#'.utf8Size + Text.byteCount (cs.takeWhile isCommentChar))
      (cs.dropWhile isCommentChar)) :
    Readable offset ('#' :: cs) := by
  obtain ⟨before, rest, tokens, hcut, hread, hrest⟩ := h
  have hstop := Pattern.head?_dropWhile isCommentChar cs
  rw [hcut] at hstop
  refine ⟨'#' :: cs.takeWhile isCommentChar ++ before, rest, tokens, ?_,
    .comment (fun c hc => List.mem_takeWhile_imp hc) hstop ?_, hrest⟩
  · rw [List.append_assoc, ← hcut, List.cons_append, List.takeWhile_append_dropWhile]
  · rw [Text.byteCount, ← Nat.add_assoc]
    exact hread

theorem Readable.token {offset : Nat} {c : Char} {cs text after : List Char} {kind : TokenKind}
    (hnext : nextLexeme c cs = .token kind text after)
    (h : Readable (offset + Text.byteCount text) after) : Readable offset (c :: cs) := by
  obtain ⟨hcut, htext, hends⟩ := Pattern.nextLexeme_eq_token_iff.mp hnext
  obtain ⟨before, rest, tokens, rfl, hread, hrest⟩ := h
  exact ⟨text ++ before, rest, _, by rw [hcut, List.append_assoc], .token htext hends hread, hrest⟩

/-- **Every text can be read** so far. -/
theorem readable (offset : Nat) (cs : List Char) : Readable offset cs := by
  -- the induction follows the scanner, whatever it answers
  fun_induction scanFrom offset cs with
  | case1 offset => exact ⟨[], [], [], rfl, .nil, .inl rfl⟩
  | case2 offset c cs hlayout ih =>
    obtain ⟨before, rest, tokens, rfl, hread, hrest⟩ := ih
    exact ⟨c :: before, rest, tokens, rfl, .blank hlayout hread, hrest⟩
  | case3 offset cs hlayout ih => exact ih.comment
  | case4 offset c cs hlayout hhash kind text after hnext stop tokens hscan ih =>
    exact ih.token hnext
  | case5 offset c cs hlayout hhash kind text after hnext stop e hscan ih => exact ih.token hnext
  | case6 offset c cs hlayout hhash text hnext =>
    exact ⟨[], c :: cs, [], rfl, .nil, .inr ⟨c, cs, text, rfl, hlayout, hhash, hnext⟩⟩

section Scan

variable {offset : Nat} {cs : List Char}

theorem Reads.scanFrom_eq {tokens : List Token} (h : Reads [] offset cs tokens) :
    scanFrom offset cs = .ok tokens := by
  have happend := h.scanFrom_append
  rw [List.append_nil, scanFrom] at happend
  rw [happend]
  simp [Except.map]

theorem Reads.scanFrom_eq_error {c : Char} {after text : List Char} {tokens : List Token}
    (h : Reads (c :: after) offset cs tokens) (hstuck : StuckAt c after text) :
    scanFrom offset (cs ++ c :: after) =
      .error (.unexpectedCharacter (String.ofList text)
        ⟨offset + Text.byteCount cs, offset + Text.byteCount cs + Text.byteCount text⟩) := by
  rw [h.scanFrom_append, hstuck.scanFrom_cons]
  rfl

/-- **Scanning succeeds** exactly if the text is read up to its end, and gives the tokens that it is
read as. -/
theorem scanFrom_eq_ok_iff {tokens : List Token} :
    scanFrom offset cs = .ok tokens ↔ Reads [] offset cs tokens := by
  refine ⟨?_, Reads.scanFrom_eq⟩
  intro h
  obtain ⟨before, rest, tokens', rfl, hread, rfl | ⟨c, after, text, rfl, hstuck⟩⟩ :=
    readable offset cs
  · rw [List.append_nil] at h ⊢
    rw [hread.scanFrom_eq] at h
    cases h
    exact hread
  · rw [hread.scanFrom_eq_error hstuck] at h
    cases h

/-- **Scanning fails** exactly if the text is read up to a place where nothing can be read, and the
error is about that place. -/
theorem scanFrom_eq_error_iff {e : SyntaxError} :
    scanFrom offset cs = .error e ↔
      ∃ before c after tokens text, cs = before ++ c :: after ∧
        Reads (c :: after) offset before tokens ∧ StuckAt c after text ∧
        e = .unexpectedCharacter (String.ofList text)
          ⟨offset + Text.byteCount before,
            offset + Text.byteCount before + Text.byteCount text⟩ := by
  refine ⟨?_, ?_⟩
  · intro h
    obtain ⟨before, rest, tokens, rfl, hread, rfl | ⟨c, after, text, rfl, hstuck⟩⟩ :=
      readable offset cs
    · rw [List.append_nil, hread.scanFrom_eq] at h
      cases h
    · rw [hread.scanFrom_eq_error hstuck] at h
      cases h
      exact ⟨before, c, after, tokens, text, rfl, hread, hstuck, rfl⟩
  · rintro ⟨before, c, after, tokens, text, rfl, hread, hstuck, rfl⟩
    exact hread.scanFrom_eq_error hstuck

end Scan

/-! ## Cutting a text -/

namespace Pattern

/-- What a text may be cut into: blanks, a comment or a token. -/
def piece : Language Char :=
  blanks + comment + ⨆ kind, ofKind kind

/-- What lies between tokens: blanks and comments. -/
def filler : Language Char :=
  (blanks + comment)∗

/-- Filler may go on with blanks or a comment. -/
theorem append_mem_filler {gap w : List Char} (hgap : gap ∈ filler) (hw : w ∈ blanks + comment) :
    gap ++ w ∈ filler :=
  Set.mem_of_mem_of_subset (Language.append_mem_mul hgap hw)
    (kstar_mul_le_kstar (a := blanks + comment))

section Cut

variable {c : Char} {w cs : List Char}

theorem mem_piece : w ∈ piece ↔ w ∈ blanks ∨ w ∈ comment ∨ ∃ kind, w ∈ ofKind kind := by
  rw [piece, Language.mem_add, Language.mem_add, Language.mem_iSup, or_assoc]

theorem nil_notMem_piece : [] ∉ piece := by
  intro h
  rcases mem_piece.mp h with h | h | ⟨kind, h⟩
  · exact (mem_blanks.mp h).1 rfl
  · obtain ⟨body, -, hbody⟩ := mem_comment.mp h
    cases hbody
  · exact nil_notMem_ofKind kind h

/-- A piece that begins with neither a blank nor a comment is a token. -/
theorem exists_kind_of_mem_piece (h : c :: w ∈ piece) (hlayout : ¬ Text.isLayout c = true)
    (hhash : c ≠ '#') : ∃ kind, c :: w ∈ ofKind kind := by
  rcases mem_piece.mp h with h | h | h
  · exact absurd ((mem_blanks.mp h).2 c List.mem_cons_self) hlayout
  · obtain ⟨body, -, heq⟩ := mem_comment.mp h
    exact absurd (List.cons.inj heq).1 hhash
  · exact h

theorem blanks_mem_kstar (h : ∀ d ∈ w, Text.isLayout d) (hcs : cs ∈ piece∗) : w ++ cs ∈ piece∗ := by
  cases w with
  | nil => exact hcs
  | cons d w =>
    exact append_mem_kstar (mem_piece.mpr (.inl (mem_blanks.mpr ⟨List.cons_ne_nil d w, h⟩))) hcs

/-- A text that can be cut can be cut after a blank at its beginning. -/
theorem tail_mem_of_layout (hc : Text.isLayout c) (h : c :: cs ∈ piece∗) : cs ∈ piece∗ := by
  obtain ⟨a, b, ha, hb, rfl⟩ := exists_of_cons_mem_kstar nil_notMem_piece h
  rcases mem_piece.mp ha with ha | ha | ⟨kind, ha⟩
  · exact blanks_mem_kstar (List.forall_mem_cons.mp (mem_blanks.mp ha).2).2 hb
  · obtain ⟨body, -, heq⟩ := mem_comment.mp ha
    cases heq
    exact absurd hc (by decide)
  · exact absurd hc (not_isLayout_of_mem ha)

/-- A text that can be cut can be cut at the end of its first line: only blanks go on to another
line, and they can be divided. -/
theorem dropWhile_mem_of_line (h : cs ∈ piece∗) : cs.dropWhile isCommentChar ∈ piece∗ := by
  induction h using kstar_induction with
  | nil => exact Language.nil_mem_kstar piece
  | append a b ha hb ih =>
    rcases mem_piece.mp ha with ha | ha | ⟨kind, ha⟩
    · rw [List.dropWhile_append]
      split
      · exact ih
      · refine blanks_mem_kstar ?_ hb
        intro d hd
        exact (mem_blanks.mp ha).2 d ((List.dropWhile_suffix isCommentChar).mem hd)
    · obtain ⟨body, hbody, rfl⟩ := mem_comment.mp ha
      have hline : ∀ d ∈ '#' :: body, isCommentChar d :=
        List.forall_mem_cons.mpr ⟨by decide, hbody⟩
      rw [List.dropWhile_append_of_pos hline]
      exact ih
    · have hline : ∀ d ∈ a, isCommentChar d := by
        intro d hd
        rw [isCommentChar_iff]
        rintro rfl
        exact newline_notMem ha hd
      rw [List.dropWhile_append_of_pos hline]
      exact ih

/-- A text that can be cut can be cut after the name at its beginning. -/
theorem dropWhile_mem_of_name (h : cs ∈ piece∗) : cs.dropWhile Text.isIdentRest ∈ piece∗ := by
  induction h using kstar_induction with
  | nil => exact Language.nil_mem_kstar piece
  | append a b ha hb ih =>
    cases a with
    | nil => exact absurd ha nil_notMem_piece
    | cons c a =>
      by_cases hc : Text.isIdentRest c
      · -- the piece is a name
        have hlayout : ¬ Text.isLayout c = true := by
          simp only [Text.isLayout, Bool.or_eq_true, beq_iff_eq]
          rintro ((((rfl | rfl) | rfl) | rfl) | rfl) <;> revert hc <;> decide
        have hhash : c ≠ '#' := by
          rintro rfl
          exact absurd hc (by decide)
        obtain ⟨kind, htoken⟩ := exists_kind_of_mem_piece ha hlayout hhash
        have hname := forall_isIdentRest htoken hc
        rw [List.dropWhile_append_of_pos hname]
        exact ih
      · rw [List.cons_append, List.dropWhile_cons_of_neg hc]
        exact append_mem_kstar ha hb

/-- A text that can be cut can be cut after a sign at its beginning which may stand twice. -/
theorem tail_mem_of_doubled (hc : c = ':' ∨ c = '%') (h : c :: cs ∈ piece∗) : cs ∈ piece∗ := by
  obtain ⟨a, b, ha, hb, rfl⟩ := exists_of_cons_mem_kstar nil_notMem_piece h
  have hlayout : ¬ Text.isLayout c = true := by rcases hc with rfl | rfl <;> decide
  have hhash : c ≠ '#' := by rcases hc with rfl | rfl <;> decide
  obtain ⟨kind, htoken⟩ := exists_kind_of_mem_piece ha hlayout hhash
  rcases eq_of_doubled_mem hc htoken with rfl | rfl
  · exact hb
  · refine append_mem_kstar (mem_piece.mpr (.inr (.inr ?_))) hb
    rcases hc with rfl | rfl
    · exact ⟨.colon, rfl⟩
    · exact ⟨.percent, rfl⟩

/-- **A token can be made longest.** Whatever follows a token, there is a longest one that begins
with it, and where the rest could be cut, what is left of it still can. -/
theorem exists_longest {kind : TokenKind} (hw : w ∈ ofKind kind) (rest : List Char) :
    ∃ kind' more rest', rest = more ++ rest' ∧ w ++ more ∈ ofKind kind' ∧ Ends kind' rest' ∧
      (rest ∈ piece∗ → rest' ∈ piece∗) := by
  by_cases hends : Ends kind rest
  · exact ⟨kind, [], rest, rfl, by rwa [List.append_nil], hends, id⟩
  -- only a name goes on, and a sign that may stand twice
  cases kind with
  | word =>
    refine ⟨.word, rest.takeWhile Text.isIdentRest, rest.dropWhile Text.isIdentRest,
      List.takeWhile_append_dropWhile.symm, ?_, head?_dropWhile _ rest, dropWhile_mem_of_name⟩
    obtain ⟨modifiers, c, name, hmodifiers, hc, hname, rfl⟩ := mem_word.mp hw
    refine mem_word.mpr ⟨modifiers, c, name ++ rest.takeWhile Text.isIdentRest, hmodifiers, hc, ?_,
      by rw [List.append_assoc, List.cons_append]⟩
    intro d hd
    rcases List.mem_append.mp hd with hd | hd
    · exact hname d hd
    · exact List.mem_takeWhile_imp hd
  | colon =>
    cases hw
    obtain ⟨rest, rfl⟩ := List.head?_eq_some_iff.mp (not_not.mp hends)
    exact ⟨.doubleColon, [':'], rest, rfl, rfl, trivial, tail_mem_of_doubled (.inl rfl)⟩
  | percent =>
    cases hw
    obtain ⟨rest, rfl⟩ := List.head?_eq_some_iff.mp (not_not.mp hends)
    exact ⟨.doublePercent, ['%'], rest, rfl, rfl, trivial, tail_mem_of_doubled (.inr rfl)⟩
  | _ => exact absurd trivial hends

/-- Where a token begins, one is read that is at least as long. -/
theorem exists_nextLexeme {kind : TokenKind} {a b : List Char} (h : c :: a ∈ ofKind kind) :
    ∃ kind' text rest, nextLexeme c (a ++ b) = .token kind' text rest ∧
      (c :: a).length ≤ text.length ∧ (b ∈ piece∗ → rest ∈ piece∗) := by
  obtain ⟨kind', more, rest, rfl, htext, hends, hcut⟩ := exists_longest h b
  refine ⟨kind', c :: a ++ more, rest, ?_, ?_, hcut⟩
  · refine nextLexeme_eq_token_iff.mpr ⟨?_, htext, hends⟩
    rw [List.append_assoc, List.cons_append]
  · rw [List.length_append]
    exact Nat.le_add_right _ _

end Cut

end Pattern

section Cut

variable {rest cs : List Char} {offset : Nat} {tokens : List Token}

/-- What is read can be cut. -/
theorem Reads.mem_kstar (h : Reads rest offset cs tokens) : cs ∈ Pattern.piece∗ := by
  induction h with
  | nil => exact Language.nil_mem_kstar _
  | blank hc _ ih => exact Pattern.blanks_mem_kstar (List.forall_mem_singleton.mpr hc) ih
  | comment hbody _ _ ih =>
    exact Pattern.append_mem_kstar
      (Pattern.mem_piece.mpr (.inr (.inl (Pattern.mem_comment.mpr ⟨_, hbody, rfl⟩)))) ih
  | token htext _ _ ih =>
    exact Pattern.append_mem_kstar (Pattern.mem_piece.mpr (.inr (.inr ⟨_, htext⟩))) ih

/-- Where something can be read that is not skipped, reading it leaves a text that can be cut if the
whole can. -/
theorem exists_nextLexeme_of_mem {c : Char} (hlayout : ¬ Text.isLayout c = true) (hhash : c ≠ '#')
    (h : c :: cs ∈ Pattern.piece∗) :
    ∃ kind text rest, nextLexeme c cs = .token kind text rest ∧ rest ∈ Pattern.piece∗ := by
  obtain ⟨a, b, ha, hb, rfl⟩ := Pattern.exists_of_cons_mem_kstar Pattern.nil_notMem_piece h
  obtain ⟨kind, ha⟩ := Pattern.exists_kind_of_mem_piece ha hlayout hhash
  obtain ⟨kind', text, rest, hnext, -, hcut⟩ := Pattern.exists_nextLexeme ha
  exact ⟨kind', text, rest, hnext, hcut hb⟩

/-- **Reading never spoils a cut**: what is left can be cut if the whole text can. -/
theorem Reads.rest_mem (h : Reads rest offset cs tokens) (hcut : cs ++ rest ∈ Pattern.piece∗) :
    rest ∈ Pattern.piece∗ := by
  induction h with
  | nil => exact hcut
  | blank hc _ ih => exact ih (Pattern.tail_mem_of_layout hc hcut)
  | @comment offset body cs tokens hbody hstop _ ih =>
    have hline : ∀ c ∈ '#' :: body, isCommentChar c :=
      List.forall_mem_cons.mpr ⟨by decide, hbody⟩
    have hdrop := Pattern.dropWhile_mem_of_line hcut
    rw [List.append_assoc, Pattern.dropWhile_run hline hstop] at hdrop
    exact ih hdrop
  | @token offset kind text cs tokens htext hends _ ih =>
    cases text with
    | nil => exact absurd htext (Pattern.nil_notMem_ofKind kind)
    | cons c text =>
      rw [List.append_assoc, List.cons_append] at hcut
      obtain ⟨kind', text', rest', hnext, hrest⟩ := exists_nextLexeme_of_mem
        (Pattern.not_isLayout_of_mem htext) (Pattern.ne_hash_of_mem htext) hcut
      have hread : nextLexeme c (text ++ (cs ++ rest)) = .token kind (c :: text) (cs ++ rest) :=
        Pattern.nextLexeme_eq_token_iff.mpr ⟨rfl, htext, hends⟩
      rw [hread] at hnext
      cases hnext
      exact ih hrest

/-- Where nothing can be read, no piece of any cut begins. -/
theorem StuckAt.not_begins {c : Char} {text w : List Char} (h : StuckAt c cs text)
    (hw : w ∈ Pattern.piece) : ¬ w <+: c :: cs := by
  rintro ⟨b, hcut⟩
  cases w with
  | nil => exact Pattern.nil_notMem_piece hw
  | cons d a =>
    obtain ⟨rfl, rfl⟩ := List.cons.inj hcut
    obtain ⟨kind, hw⟩ := Pattern.exists_kind_of_mem_piece hw h.not_layout h.ne_hash
    obtain ⟨kind', text', rest', hnext, -, -⟩ := Pattern.exists_nextLexeme (b := b) hw
    have hstuck : nextLexeme d (a ++ b) = .stuck text := h.stuck
    rw [hstuck] at hnext
    cases hnext

/-- **No text is refused that could be cut**, in whatever way. -/
theorem exists_scanFrom_eq_ok_iff :
    (∃ tokens, scanFrom offset cs = .ok tokens) ↔ cs ∈ Pattern.piece∗ := by
  refine ⟨?_, ?_⟩
  · rintro ⟨tokens, h⟩
    exact (scanFrom_eq_ok_iff.mp h).mem_kstar
  · intro h
    obtain ⟨before, rest, tokens, rfl, hread, rfl | ⟨c, after, text, rfl, hstuck⟩⟩ :=
      readable offset cs
    · rw [List.append_nil]
      exact ⟨tokens, hread.scanFrom_eq⟩
    · obtain ⟨kind, text', rest', hnext, -⟩ :=
        exists_nextLexeme_of_mem hstuck.not_layout hstuck.ne_hash (hread.rest_mem h)
      rw [hstuck.stuck] at hnext
      cases hnext

end Cut

/-! ## Tokens and the text they are read from -/

namespace Token

/-- The token stands between two parts of a text: its span says where, its text matches the pattern
of its kind and cannot be made longer. -/
structure StandsBetween (t : Token) (before after : List Char) : Prop where
  /-- the span is that of the text -/
  span_eq : t.span =
    ⟨Text.byteCount before, Text.byteCount before + Text.byteCount t.text.toList⟩
  /-- the text matches the pattern -/
  mem_ofKind : t.text.toList ∈ Pattern.ofKind t.kind
  /-- the text cannot be made longer -/
  ends : Pattern.Ends t.kind after

/-- The token stands in a text. -/
def StandsIn (t : Token) (cs : List Char) : Prop :=
  ∃ before after, cs = before ++ t.text.toList ++ after ∧ t.StandsBetween before after

/-- The stretches before, between and after tokens, in a text from `start` to `stop`. -/
def gaps (start stop : Nat) : List Token → List Span
  | [] => [⟨start, stop⟩]
  | t :: tokens => ⟨start, t.span.start⟩ :: gaps t.span.stop stop tokens

section StandsIn

variable {t : Token} {cs : List Char}

theorem StandsIn.text_ne_nil (h : t.StandsIn cs) : t.text.toList ≠ [] := by
  obtain ⟨before, after, -, ht⟩ := h
  intro hnil
  have hmem := ht.mem_ofKind
  rw [hnil] at hmem
  exact Pattern.nil_notMem_ofKind t.kind hmem

theorem StandsIn.start_lt_stop (h : t.StandsIn cs) : t.span.start < t.span.stop := by
  have hpos := Text.byteCount_pos h.text_ne_nil
  obtain ⟨before, after, -, ht⟩ := h
  rw [ht.span_eq]
  exact Nat.lt_add_of_pos_right hpos

theorem StandsIn.slice? (h : t.StandsIn cs) : Text.slice? cs t.span = some t.text.toList := by
  obtain ⟨before, after, rfl, ht⟩ := h
  rw [ht.span_eq]
  exact Text.slice?_append before t.text.toList after

/-- Nothing longer that is a token begins where the token does. -/
theorem StandsIn.longest (h : t.StandsIn cs) {kind : TokenKind} {w : List Char}
    (hw : w ∈ Pattern.ofKind kind) (hbegins : w <+: Text.dropBytes t.span.start cs) :
    w.length ≤ t.text.toList.length := by
  obtain ⟨before, after, rfl, ht⟩ := h
  rw [ht.span_eq, List.append_assoc, Text.dropBytes_byteCount_append] at hbegins
  obtain ⟨b, hcut⟩ := hbegins
  cases w with
  | nil => exact Nat.zero_le _
  | cons c a =>
    obtain ⟨kind', text, rest, hnext, hlength, -⟩ := Pattern.exists_nextLexeme (b := b) hw
    have hread : nextLexeme c (a ++ b) = .token t.kind t.text.toList after :=
      Pattern.nextLexeme_eq_token_iff.mpr ⟨hcut, ht.mem_ofKind, ht.ends⟩
    rw [hread] at hnext
    cases hnext
    exact hlength

end StandsIn

end Token

section Standing

variable {rest cs : List Char} {offset : Nat} {tokens : List Token}

/-- The tokens that are read stand in the text, whatever comes before it. -/
theorem Reads.standsIn (h : Reads rest offset cs tokens) {before : List Char}
    (hoffset : offset = Text.byteCount before) :
    ∀ t ∈ tokens, t.StandsIn (before ++ cs ++ rest) := by
  induction h generalizing before with
  | nil => exact List.forall_mem_nil _
  | @blank offset c cs tokens _ _ ih =>
    have hnext := @ih (before ++ [c]) (by rw [hoffset, Text.byteCount_append]; rfl)
    simpa using hnext
  | @comment offset body cs tokens _ _ _ ih =>
    have hnext := @ih (before ++ '#' :: body) (by rw [hoffset, Text.byteCount_append])
    simpa using hnext
  | @token offset kind text cs tokens htext hends _ ih =>
    subst hoffset
    have hnext := @ih (before ++ text) (Text.byteCount_append before text).symm
    rw [List.forall_mem_cons]
    refine ⟨⟨before, cs ++ rest, ?_, ?_, ?_, hends⟩, ?_⟩
    · simp
    · simp
    · simpa using htext
    · simpa using hnext

theorem Token.standsIn_of_scan {text : String} (h : Token.scan text = .ok tokens) :
    ∀ t ∈ tokens, t.StandsIn text.toList := by
  simpa using @Reads.standsIn [] text.toList 0 tokens (scanFrom_eq_ok_iff.mp h) [] rfl

/-- The tokens that are read come one after the other. -/
theorem Reads.ordered (h : Reads rest offset cs tokens) :
    (∀ t ∈ tokens, offset ≤ t.span.start) ∧
      tokens.Pairwise fun t next => t.span.stop ≤ next.span.start := by
  induction h with
  | nil => exact ⟨List.forall_mem_nil _, List.Pairwise.nil⟩
  | blank _ _ ih => exact ⟨fun t ht => Nat.le_of_add_right_le (ih.1 t ht), ih.2⟩
  | comment _ _ _ ih => exact ⟨fun t ht => Nat.le_of_add_right_le (ih.1 t ht), ih.2⟩
  | token _ _ _ ih =>
    refine ⟨List.forall_mem_cons.mpr ⟨Nat.le_refl _, ?_⟩, List.pairwise_cons.mpr ⟨ih.1, ih.2⟩⟩
    exact fun t ht => Nat.le_of_add_right_le (ih.1 t ht)

/-- What is not read as a token is filler. Before it stands `before`, and since then only `gap` was
skipped. -/
theorem Reads.gaps (h : Reads rest offset cs tokens) {before gap : List Char}
    (hoffset : offset = Text.byteCount before + Text.byteCount gap) (hgap : gap ∈ Pattern.filler) :
    ∀ span ∈ Token.gaps (Text.byteCount before) (offset + Text.byteCount cs) tokens,
      ∃ w ∈ Pattern.filler, Text.slice? (before ++ gap ++ cs ++ rest) span = some w := by
  induction h generalizing before gap with
  | @nil offset =>
    rw [Token.gaps, List.forall_mem_singleton]
    refine ⟨gap, hgap, ?_⟩
    rw [hoffset, List.append_nil]
    exact Text.slice?_append before gap rest
  | @blank offset c cs tokens hc _ ih =>
    have hblank : [c] ∈ Pattern.blanks :=
      Pattern.mem_blanks.mpr ⟨List.cons_ne_nil c [], List.forall_mem_singleton.mpr hc⟩
    have hnext := @ih before (gap ++ [c])
      (by rw [hoffset, Text.byteCount_append, Nat.add_assoc]; rfl)
      (Pattern.append_mem_filler hgap (.inl hblank))
    simpa [Text.byteCount, Nat.add_assoc] using hnext
  | @comment offset body cs tokens hbody _ _ ih =>
    have hnext := @ih before (gap ++ '#' :: body)
      (by rw [hoffset, Text.byteCount_append, Nat.add_assoc])
      (Pattern.append_mem_filler hgap (.inr (Pattern.mem_comment.mpr ⟨body, hbody, rfl⟩)))
    simpa [Text.byteCount, Text.byteCount_append, Nat.add_assoc] using hnext
  | @token offset kind text cs tokens _ _ _ ih =>
    have hnext := @ih (before ++ gap ++ text) []
      (by rw [hoffset, Text.byteCount_append, Text.byteCount_append]; rfl)
      (Language.nil_mem_kstar _)
    rw [Token.gaps, List.forall_mem_cons]
    refine ⟨⟨gap, hgap, ?_⟩, ?_⟩
    · rw [List.append_assoc (before ++ gap), hoffset]
      exact Text.slice?_append before gap (text ++ cs ++ rest)
    · simpa [hoffset, Text.byteCount_append, Nat.add_assoc] using hnext

end Standing

/-! ## Scanning a text -/

/-- **What tokens have to do with the text that is scanned.** -/
structure Cuts (cs : List Char) (tokens : List Token) : Prop where
  /-- no token is empty -/
  nonempty : ∀ t ∈ tokens, t.span.start < t.span.stop
  /-- each token ends before the next begins, or where it does -/
  ordered : tokens.Pairwise fun t next => t.span.stop ≤ next.span.start
  /-- before, between and after the tokens there are only blanks and comments -/
  filler : ∀ gap ∈ Token.gaps 0 (Text.byteCount cs) tokens,
    ∃ w ∈ Pattern.filler, Text.slice? cs gap = some w
  /-- the text of a token is what stands at its span -/
  text : ∀ t ∈ tokens, Text.slice? cs t.span = some t.text.toList
  /-- it matches the pattern of the token's kind -/
  pattern : ∀ t ∈ tokens, t.text.toList ∈ Pattern.ofKind t.kind
  /-- nothing longer that matches a pattern begins where the token does -/
  longest : ∀ t ∈ tokens, ∀ kind, ∀ w ∈ Pattern.ofKind kind,
    w <+: Text.dropBytes t.span.start cs → w.length ≤ t.text.toList.length

/-- **What an error has to do with the text that is scanned.** -/
structure Blocked (cs : List Char) (found : String) (span : Span) : Prop where
  /-- the error is about at least one character -/
  nonempty : span.start < span.stop
  /-- the characters of the error are those at its span -/
  text : Text.slice? cs span = some found.toList
  /-- what stands before it can be scanned -/
  before : ∃ tokens, Token.scan (String.ofList (Text.takeBytes span.start cs)) = .ok tokens
  /-- nothing that could be read begins there -/
  nothing : ∀ w ∈ Pattern.piece, ¬ w <+: Text.dropBytes span.start cs

theorem Reads.cuts {cs : List Char} {tokens : List Token} (h : Reads [] 0 cs tokens) :
    Cuts cs tokens := by
  have hstands : ∀ t ∈ tokens, t.StandsIn cs := by
    simpa using @Reads.standsIn [] cs 0 tokens h [] rfl
  have hgaps := @Reads.gaps [] cs 0 tokens h [] [] rfl (Language.nil_mem_kstar _)
  exact {
    nonempty := fun t ht => (hstands t ht).start_lt_stop
    ordered := h.ordered.2
    filler := by simpa [Text.byteCount] using hgaps
    text := fun t ht => (hstands t ht).slice?
    pattern := by
      intro t ht
      obtain ⟨before, after, -, hbetween⟩ := hstands t ht
      exact hbetween.mem_ofKind
    longest := fun t ht kind w hw hbegins => (hstands t ht).longest hw hbegins }

theorem StuckAt.blocked {c : Char} {before after text : List Char} {tokens : List Token}
    (hread : Reads (c :: after) 0 before tokens) (h : StuckAt c after text) :
    Blocked (before ++ c :: after) (String.ofList text)
      ⟨Text.byteCount before, Text.byteCount before + Text.byteCount text⟩ := by
  obtain ⟨hne, rest, hcut⟩ := Pattern.prefix_of_nextLexeme_eq_stuck h.stuck
  exact {
    nonempty := Nat.lt_add_of_pos_right (Text.byteCount_pos hne)
    text := by
      rw [← hcut, ← List.append_assoc, String.toList_ofList]
      exact Text.slice?_append before text rest
    before := by
      refine ⟨tokens, ?_⟩
      rw [Text.takeBytes_byteCount_append, Token.scan, String.toList_ofList]
      exact hread.truncate.scanFrom_eq
    nothing := by
      intro w hw
      rw [Text.dropBytes_byteCount_append]
      exact h.not_begins hw }

/-- **Scanning a text.** It succeeds exactly if the text can be cut, in some way, into blanks,
comments and texts that match the pattern of a token. The tokens are then the longest ones, and
only blanks and comments are left out; otherwise the error points at the first place where nothing
can be read. -/
theorem Token.scan_cuts_into_longest (text : String) :
    ((∃ tokens, Token.scan text = .ok tokens) ↔ text.toList ∈ Pattern.piece∗) ∧
      (∀ tokens, Token.scan text = .ok tokens → Cuts text.toList tokens) ∧
      ∀ e, Token.scan text = .error e →
        ∃ found span, e = .unexpectedCharacter found span ∧ Blocked text.toList found span := by
  refine ⟨exists_scanFrom_eq_ok_iff, ?_, ?_⟩
  · intro tokens h
    exact (scanFrom_eq_ok_iff.mp h).cuts
  · intro e h
    obtain ⟨before, c, after, tokens, found, hcut, hread, hstuck, rfl⟩ :=
      scanFrom_eq_error_iff.mp h
    rw [hcut, Nat.zero_add]
    exact ⟨_, _, rfl, hstuck.blocked hread⟩

/-- A text that is cut into a word, two colons that are one token, a range and a literal with an
escaped quote; and one that can be read only up to a pattern between slashes, which is empty. -/
theorem Token.scan_cuts_both_ways :
    (∃ tokens, Token.scan "a::(s?)'\\''#" = .ok tokens ∧ Cuts "a::(s?)'\\''#".toList tokens) ∧
      ∃ found span, Token.scan "a: //" = .error (.unexpectedCharacter found span) ∧
        Blocked "a: //".toList found span := by
  have hok : Token.scan "a::(s?)'\\''#" =
      .ok [⟨.word, ⟨0, 1⟩, "a"⟩, ⟨.doubleColon, ⟨1, 3⟩, "::"⟩, ⟨.quantifier, ⟨3, 7⟩, "(s?)"⟩,
        ⟨.stringLiteral, ⟨7, 11⟩, "'\\''"⟩] := by
    decide +kernel
  have herror : Token.scan "a: //" = .error (.unexpectedCharacter "/" ⟨3, 4⟩) := by
    decide +kernel
  obtain ⟨found, span, heq, hblocked⟩ := (Token.scan_cuts_into_longest "a: //").2.2 _ herror
  exact ⟨⟨_, hok, (Token.scan_cuts_into_longest _).2.1 _ hok⟩, found, span, by rw [herror, heq],
    hblocked⟩

end FanServer
