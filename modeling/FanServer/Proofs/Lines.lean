import FanServer.Proofs.Scan

/-!
# Lines are scanned one by one

Neither a comment nor a token goes on to another line. What is less plain is that **a token which
cannot be completed** stops at the end of its line, too: an opening quote, a backslash before the
line feed, an open parenthesis or a run of modifiers is refused in the same way, and as far, whether
the text ends there or goes on on another line.

* `Lexeme.continued` — what is read at a place, if the text goes on further down;
* `nextLexeme_append_newline` — one token is read without looking at the next line, for each reader;
* `scanFrom_append_newline` — so is a whole text, by induction along the scanner;
* `Reads.shift`, `scanFrom_add` — a text that stands further on is scanned in the same way, and its
  tokens or its error are moved.

Main result: `Token.scan_lines_eq`.
-/

namespace FanServer

/-! ## One token -/

section Run

variable {c : Char} (cs more : List Char)

/-- A run of characters goes no further than the first character that is not of their class. -/
theorem Pattern.takeWhile_append_stop {p : Char → Bool} (hc : ¬ p c = true) :
    (cs ++ c :: more).takeWhile p = cs.takeWhile p := by
  induction cs with
  | nil => exact List.takeWhile_cons_of_neg hc
  | cons d cs ih => rw [List.cons_append, List.takeWhile_cons, List.takeWhile_cons, ih]

theorem Pattern.dropWhile_append_stop {p : Char → Bool} (hc : ¬ p c = true) :
    (cs ++ c :: more).dropWhile p = cs.dropWhile p ++ c :: more := by
  induction cs with
  | nil => exact List.dropWhile_cons_of_neg hc
  | cons d cs ih =>
    rw [List.cons_append, List.dropWhile_cons, List.dropWhile_cons, ih]
    split <;> rfl

end Run

namespace Lexeme

/-- What is read if the text goes on: `more` comes after what is left. -/
def continued (more : List Char) : Lexeme → Lexeme
  | token kind text rest => token kind text (rest ++ more)
  | stuck text => stuck text

section Readers

variable (cs more : List Char)

theorem doubled_append_newline {two one : TokenKind} {c : Char} (hc : c ≠ '\n') :
    doubled two one c (cs ++ '\n' :: more) = (doubled two one c cs).continued ('\n' :: more) := by
  cases cs with
  | nil => simp [doubled, continued, hc.symm]
  | cons d cs =>
    rw [List.cons_append, doubled, doubled]
    split <;> rfl

theorem range_append_newline :
    range (cs ++ '\n' :: more) = (range cs).continued ('\n' :: more) := by
  have hstop : ¬ Text.isRangeChar '\n' = true := by decide
  rw [range, range, Pattern.takeWhile_append_stop cs more hstop,
    Pattern.dropWhile_append_stop cs more hstop]
  rcases cs.dropWhile Text.isRangeChar with _ | ⟨d, rest⟩
  · simp [continued]
  · simp only [List.cons_append]
    split <;> rfl

/-- The body of a literal ends at the line feed, and a backslash before that is not part of it. -/
theorem literalBody_append_newline (delimiter : Char) :
    Text.literalBody delimiter (cs ++ '\n' :: more) =
      ((Text.literalBody delimiter cs).1, (Text.literalBody delimiter cs).2 ++ '\n' :: more) := by
  have hnil : Text.literalBody delimiter ('\n' :: more) = ([], '\n' :: more) := by
    cases more <;> simp [Text.literalBody]
  fun_induction Text.literalBody delimiter cs with
  | case1 => exact hnil
  | case2 c hend =>
    by_cases hc : c = '\\'
    · simp [Text.literalBody, hc]
    · have hend' : c = delimiter ∨ c = '\n' := hend.imp_right fun h => h.resolve_left hc
      simp [Text.literalBody, hc, hend']
  | case3 c hend =>
    obtain ⟨hdelimiter, hend⟩ := not_or.mp hend
    obtain ⟨hc, hnewline⟩ := not_or.mp hend
    simp [Text.literalBody, hdelimiter, hc, hnewline, hnil]
  | case4 cs => simp [Text.literalBody]
  | case5 d cs hd ih => simp [Text.literalBody, hd, ih]
  | case6 c d cs hc hend => simp [Text.literalBody, hc, hend]
  | case7 c d cs hc hend ih =>
    rw [List.cons_append] at ih
    simp [Text.literalBody, hc, hend, ih]

theorem literal_append_newline {kind : TokenKind} {bodyNeeded : Bool} {delimiter : Char}
    (hdelimiter : delimiter ≠ '\n') :
    literal kind bodyNeeded delimiter (cs ++ '\n' :: more) =
      (literal kind bodyNeeded delimiter cs).continued ('\n' :: more) := by
  rw [literal, literal, literalBody_append_newline]
  rcases Text.literalBody delimiter cs with ⟨body, _ | ⟨d, rest⟩⟩
  · simp [continued, hdelimiter.symm]
  · simp only [List.cons_append]
    split <;> rfl

theorem word_append_newline :
    word (cs ++ '\n' :: more) = (word cs).continued ('\n' :: more) := by
  have hmodifier : ¬ Text.isModifier '\n' = true := by decide
  have hname : ¬ Text.isIdentRest '\n' = true := by decide
  rw [word, word, Pattern.takeWhile_append_stop cs more hmodifier,
    Pattern.dropWhile_append_stop cs more hmodifier]
  rcases cs.dropWhile Text.isModifier with _ | ⟨d, rest⟩
  · have hstart : ¬ Text.isIdentStart '\n' = true := by decide
    simp [continued, hstart]
  · simp only [List.cons_append, Pattern.takeWhile_append_stop rest more hname,
      Pattern.dropWhile_append_stop rest more hname]
    split <;> rfl

end Readers

end Lexeme

/-- **One token is read without looking at the next line**, whether it can be completed or not. -/
theorem nextLexeme_append_newline (c : Char) (cs more : List Char) :
    nextLexeme c (cs ++ '\n' :: more) = (nextLexeme c cs).continued ('\n' :: more) := by
  rw [nextLexeme, nextLexeme]
  cases Lexeme.sign? c with
  | some kind => rfl
  | none =>
    dsimp only
    split_ifs with hcolon hpercent hopen hquote hslash hword
    · exact Lexeme.doubled_append_newline cs more (by rw [hcolon]; decide)
    · exact Lexeme.doubled_append_newline cs more (by rw [hpercent]; decide)
    · exact Lexeme.range_append_newline cs more
    · exact Lexeme.literal_append_newline cs more (by rcases hquote with rfl | rfl <;> decide)
    · exact Lexeme.literal_append_newline cs more (by rw [hslash]; decide)
    · exact Lexeme.word_append_newline (c :: cs) more
    · rfl

/-! ## A whole text -/

section Scan

variable {offset : Nat} {c : Char} {cs : List Char}

/-- The token at the beginning of a text is read first if the text goes on on another line, too. -/
theorem scanFrom_cons_append_newline {text after : List Char} {kind : TokenKind}
    (hlayout : ¬ Text.isLayout c = true) (hhash : c ≠ '#')
    (hnext : nextLexeme c cs = .token kind text after) (more : List Char) :
    scanFrom offset (c :: cs ++ '\n' :: more) =
      (scanFrom (offset + Text.byteCount text) (after ++ '\n' :: more)).map fun tokens =>
        ⟨kind, ⟨offset, offset + Text.byteCount text⟩, String.ofList text⟩ :: tokens := by
  rw [List.cons_append]
  refine scanFrom_cons_token hlayout hhash ?_
  rw [nextLexeme_append_newline, hnext]
  rfl

theorem byteCount_of_nextLexeme {text after : List Char} {kind : TokenKind}
    (hnext : nextLexeme c cs = .token kind text after) :
    Text.byteCount (c :: cs) = Text.byteCount text + Text.byteCount after := by
  rw [(nextLexeme_eq_token hnext).1, Text.byteCount_append]

/-- **A text is scanned without looking at the next line.** If that succeeds, what follows the line
feed is scanned from its own beginning. -/
theorem scanFrom_append_newline (offset : Nat) (cs more : List Char) :
    scanFrom offset (cs ++ '\n' :: more) = do
      let earlier ← scanFrom offset cs
      let later ← scanFrom (offset + Text.byteCount cs + 1) more
      return earlier ++ later := by
  fun_induction scanFrom offset cs with
  | case1 offset =>
    rw [List.nil_append, scanFrom, if_pos (by decide)]
    exact (bind_pure _).symm
  | case2 offset c cs hlayout ih =>
    rw [List.cons_append, scanFrom, if_pos hlayout, ih, Text.byteCount, Nat.add_assoc offset]
  | case3 offset cs hlayout ih =>
    have hstop : ¬ isCommentChar '\n' = true := by decide
    have hcount : Text.byteCount cs = Text.byteCount (cs.takeWhile isCommentChar) +
        Text.byteCount (cs.dropWhile isCommentChar) := by
      rw [← Text.byteCount_append, List.takeWhile_append_dropWhile]
    rw [List.cons_append, scanFrom, if_neg hlayout, if_pos rfl,
      Pattern.takeWhile_append_stop cs more hstop, Pattern.dropWhile_append_stop cs more hstop, ih,
      Text.byteCount, hcount, ← Nat.add_assoc, ← Nat.add_assoc]
  | case4 offset c cs hlayout hhash kind text after hnext stop tokens hscan ih =>
    rw [scanFrom_cons_append_newline hlayout hhash hnext, ih, hscan, byteCount_of_nextLexeme hnext,
      ← Nat.add_assoc]
    rcases scanFrom (stop + Text.byteCount after + 1) more with e | later <;> rfl
  | case5 offset c cs hlayout hhash kind text after hnext stop e hscan ih =>
    rw [scanFrom_cons_append_newline hlayout hhash hnext, ih, hscan]
    rfl
  | case6 offset c cs hlayout hhash text hnext =>
    have hstuck : StuckAt c (cs ++ '\n' :: more) text := by
      refine ⟨hlayout, hhash, ?_⟩
      rw [nextLexeme_append_newline, hnext]
      rfl
    exact hstuck.scanFrom_cons offset

end Scan

/-! ## Moving tokens and errors -/

/-- The token moved `n` bytes to the right. -/
def Token.shift (n : Nat) (t : Token) : Token :=
  ⟨t.kind, t.span.shift n, t.text⟩

section Tokens

variable (n : Nat) (t : Token)

@[simp]
theorem Token.kind_shift : (t.shift n).kind = t.kind := rfl

@[simp]
theorem Token.text_shift : (t.shift n).text = t.text := rfl

@[simp]
theorem Token.span_shift : (t.shift n).span = t.span.shift n := rfl

@[simp]
theorem Span.start_shift (span : Span) : (span.shift n).start = span.start + n := rfl

@[simp]
theorem Span.stop_shift (span : Span) : (span.shift n).stop = span.stop + n := rfl

end Tokens

/-- **What is read further on is read in the same way.** -/
theorem Reads.shift {rest cs : List Char} {offset : Nat} {tokens : List Token}
    (h : Reads rest offset cs tokens) (n : Nat) :
    Reads rest (offset + n) cs (tokens.map (Token.shift n)) := by
  induction h with
  | nil => exact .nil
  | blank hc _ ih =>
    rw [Nat.add_right_comm] at ih
    exact .blank hc ih
  | comment hbody hstop _ ih =>
    rw [Nat.add_right_comm] at ih
    exact .comment hbody hstop ih
  | @token offset kind text cs tokens htext hends _ ih =>
    rw [Nat.add_right_comm] at ih
    rw [List.map_cons, Token.shift, Span.shift, Nat.add_right_comm offset]
    exact .token htext hends ih

/-- The error moved `n` bytes to the right: it points at the same text further on. -/
def SyntaxError.shift (n : Nat) : SyntaxError → SyntaxError
  | unexpectedCharacter text span => unexpectedCharacter text (span.shift n)
  | unexpectedToken expected found span => unexpectedToken expected found (span.shift n)
  | unexpectedEnd expected offset => unexpectedEnd expected (offset + n)
  | missingHeader => missingHeader
  | detachedQuantifier span => detachedQuantifier (span.shift n)
  | nestingTooDeep limit span => nestingTooDeep limit (span.shift n)

/-- **A text that stands further on is scanned in the same way**, and its tokens, or its error, are
moved. -/
theorem scanFrom_add (offset n : Nat) (cs : List Char) :
    scanFrom (offset + n) cs =
      ((scanFrom offset cs).mapError (SyntaxError.shift n)).map (List.map (Token.shift n)) := by
  cases h : scanFrom offset cs with
  | ok tokens => exact ((scanFrom_eq_ok_iff.mp h).shift n).scanFrom_eq
  | error e =>
    obtain ⟨before, c, after, tokens, text, rfl, hread, hstuck, rfl⟩ := scanFrom_eq_error_iff.mp h
    rw [(hread.shift n).scanFrom_eq_error hstuck]
    simp only [Except.mapError, Except.map, SyntaxError.shift, Span.shift, Nat.add_right_comm _ n]

/-! ## Lines -/

theorem Token.scan_append_newline (text more : String) :
    Token.scan (text ++ "\n" ++ more) = do
      let earlier ← Token.scan text
      let later ← scanFrom (Text.byteCount text.toList + 1) more.toList
      return earlier ++ later := by
  have hcut : (text ++ "\n" ++ more).toList = text.toList ++ '\n' :: more.toList := by simp
  rw [Token.scan, Token.scan, hcut, scanFrom_append_newline, Nat.zero_add]

/-- A text can be scanned exactly if both parts can, the second one from where it stands. -/
theorem Token.scan_lines_eq_ok_iff {text more : String} {tokens : List Token} :
    Token.scan (text ++ "\n" ++ more) = .ok tokens ↔
      ∃ earlier later, Token.scan text = .ok earlier ∧
        scanFrom (Text.byteCount text.toList + 1) more.toList = .ok later ∧
        tokens = earlier ++ later := by
  rw [Token.scan_append_newline]
  rcases Token.scan text with e | earlier
  · simp [bind, Except.bind]
  · rcases scanFrom (Text.byteCount text.toList + 1) more.toList with e | later
    · simp [bind, Except.bind]
    · simp [bind, Except.bind, pure, Except.pure, eq_comm]

/-- **Lines are scanned one by one.** Where a text can be scanned, its tokens come first if it goes
on on another line, and after them comes what scanning the rest gives, with the spans of its tokens,
or that of its error, moved behind the line feed. Where a text cannot be scanned, the error is the
same, whatever follows on another line. -/
theorem Token.scan_lines_eq (text more : String) :
    Token.scan (text ++ "\n" ++ more) = do
      let earlier ← Token.scan text
      let later ← (Token.scan more).mapError (SyntaxError.shift (Text.byteCount text.toList + 1))
      return earlier ++ later.map (Token.shift (Text.byteCount text.toList + 1)) := by
  have hmore := scanFrom_add 0 (Text.byteCount text.toList + 1) more.toList
  rw [Nat.zero_add, ← Token.scan] at hmore
  rw [Token.scan_append_newline, hmore]
  -- the later tokens may as well be moved when they are put behind the earlier ones
  cases Token.scan text <;> cases Token.scan more <;> rfl

/-- The quote on the second line does not close the literal, and the backslash does not join the two
lines. -/
example : Token.scan "a: '\\\n'" = .error (.unexpectedCharacter "'" ⟨3, 4⟩) := by decide +kernel

end FanServer
