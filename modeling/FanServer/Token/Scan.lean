import FanServer.SyntaxError
import FanServer.Text.Bytes
import FanServer.Token

/-!
# Scanning a text into tokens

`Token.scan` cuts a text into tokens from left to right. The first character of a token decides
its kind, and each token is **as long as its kind allows**. Blanks and comments (from `#` to the
end of the line) are skipped.

Where a token begins but cannot be completed, scanning stops: the error covers what the token
could still take, for instance an opening quote and the part of the literal that was read.

* `nextLexeme` reads one token;
* `nextLexeme_eq_token` says that nothing is lost in doing so: the token's text and what is left
  are the text that was there.
-/

namespace FanServer

namespace Text

/-- The part of a literal before the closing `delimiter`, and what is left. A backslash takes the
character after it along, unless that is a line feed or missing. -/
def literalBody (delimiter : Char) : List Char → List Char × List Char
  | [] => ([], [])
  | [c] => if c = delimiter ∨ c = '\\' ∨ c = '\n' then ([], [c]) else ([c], [])
  | c :: d :: cs =>
    if c = '\\' then
      if d = '\n' then ([], c :: d :: cs)
      else (c :: d :: (literalBody delimiter cs).1, (literalBody delimiter cs).2)
    else if c = delimiter ∨ c = '\n' then ([], c :: d :: cs)
    else (c :: (literalBody delimiter (d :: cs)).1, (literalBody delimiter (d :: cs)).2)

/-- The character may stand inside a repetition range. -/
def isRangeChar (c : Char) : Bool :=
  c != '(' && c != ')' && c != '\n'

theorem literalBody_append (delimiter : Char) (cs : List Char) :
    (literalBody delimiter cs).1 ++ (literalBody delimiter cs).2 = cs := by
  fun_induction literalBody delimiter cs <;> simp_all

end Text

/-- What begins at a place where neither a blank nor a comment stands. -/
inductive Lexeme where
  /-- a token of a kind, its text, and the text after it -/
  | token (kind : TokenKind) (text rest : List Char)
  /-- a token that cannot be completed, as far as it goes -/
  | stuck (text : List Char)
  deriving DecidableEq, Repr

namespace Lexeme

/-- A sign that is a token by itself whatever follows. -/
def sign? (c : Char) : Option TokenKind :=
  if c = ';' then some .semicolon
  else if c = '|' then some .pipe
  else if c = '[' then some .openBracket
  else if c = ']' then some .closeBracket
  else if c = '+' then some .plus
  else if c = '-' then some .minus
  else none

/-- A sign that is one token where it stands alone and another where it stands twice. -/
def doubled (two one : TokenKind) (c : Char) (cs : List Char) : Lexeme :=
  match cs with
  | d :: rest => if d = c then .token two [c, d] rest else .token one [c] cs
  | [] => .token one [c] cs

/-- A literal after its opening `delimiter`. Where `bodyNeeded`, it must not be empty. -/
def literal (kind : TokenKind) (bodyNeeded : Bool) (delimiter : Char) (cs : List Char) : Lexeme :=
  let body := (Text.literalBody delimiter cs).1
  match (Text.literalBody delimiter cs).2 with
  | c :: rest =>
    if c = delimiter ∧ (bodyNeeded → body ≠ []) then .token kind (delimiter :: body ++ [c]) rest
    else .stuck (delimiter :: body)
  | [] => .stuck (delimiter :: body)

/-- A repetition range after its opening parenthesis. -/
def range (cs : List Char) : Lexeme :=
  let body := cs.takeWhile Text.isRangeChar
  match cs.dropWhile Text.isRangeChar with
  | c :: rest =>
    if c = ')' then .token .quantifier ('(' :: body ++ [c]) rest else .stuck ('(' :: body)
  | [] => .stuck ('(' :: body)

/-- A word: modifiers, if there are any, and an identifier right after them. -/
def word (cs : List Char) : Lexeme :=
  let modifiers := cs.takeWhile Text.isModifier
  match cs.dropWhile Text.isModifier with
  | c :: rest =>
    if Text.isIdentStart c then
      .token .word (modifiers ++ c :: rest.takeWhile Text.isIdentRest)
        (rest.dropWhile Text.isIdentRest)
    else .stuck modifiers
  | [] => .stuck modifiers

end Lexeme

open Lexeme in
/-- The token that begins with the character `c`, where `cs` is what follows. -/
def nextLexeme (c : Char) (cs : List Char) : Lexeme :=
  match sign? c with
  | some kind => .token kind [c] cs
  | none =>
    if c = ':' then doubled .doubleColon .colon c cs
    else if c = '%' then doubled .doublePercent .percent c cs
    else if c = '(' then range cs
    else if c = '\'' ∨ c = '"' then literal .stringLiteral false c cs
    else if c = '/' then literal .regexLiteral true c cs
    else if Text.isModifier c ∨ Text.isIdentStart c then word (c :: cs)
    else .stuck [c]

theorem Lexeme.doubled_eq_token {two one kind : TokenKind} {c : Char} {cs text rest : List Char}
    (h : doubled two one c cs = .token kind text rest) : c :: cs = text ++ rest ∧ text ≠ [] := by
  unfold doubled at h
  split at h
  · split at h <;> cases h <;> simp
  · cases h; simp

theorem Lexeme.literal_eq_token {kind kind' : TokenKind} {bodyNeeded : Bool} {d : Char}
    {cs text rest : List Char} (h : literal kind bodyNeeded d cs = .token kind' text rest) :
    d :: cs = text ++ rest ∧ text ≠ [] := by
  unfold literal at h
  have hbody := Text.literalBody_append d cs
  revert h
  dsimp only
  split
  · next c rest' hrest =>
    rw [hrest] at hbody
    split
    · rintro ⟨⟩
      refine ⟨?_, by simp⟩
      conv => lhs; rw [← hbody]
      simp
    · simp
  · simp

theorem Lexeme.range_eq_token {kind : TokenKind} {cs text rest : List Char}
    (h : range cs = .token kind text rest) : '(' :: cs = text ++ rest ∧ text ≠ [] := by
  unfold range at h
  have hcut := List.takeWhile_append_dropWhile (p := Text.isRangeChar) (l := cs)
  revert h
  dsimp only
  split
  · next c rest' hrest =>
    rw [hrest] at hcut
    split
    · rintro ⟨⟩
      refine ⟨?_, by simp⟩
      conv => lhs; rw [← hcut]
      simp
    · simp
  · simp

theorem Lexeme.word_eq_token {kind : TokenKind} {cs text rest : List Char}
    (h : word cs = .token kind text rest) : cs = text ++ rest ∧ text ≠ [] := by
  unfold word at h
  have hcut := List.takeWhile_append_dropWhile (p := Text.isModifier) (l := cs)
  revert h
  dsimp only
  split
  · next c rest' hrest =>
    rw [hrest] at hcut
    split
    · rintro ⟨⟩
      refine ⟨?_, by simp⟩
      conv => lhs; rw [← hcut]
      simp
    · simp
  · simp

/-- **Nothing is lost.** A token's text and what is left are the text that was there, and a token
is never empty. -/
theorem nextLexeme_eq_token {c : Char} {cs text rest : List Char} {kind : TokenKind}
    (h : nextLexeme c cs = .token kind text rest) : c :: cs = text ++ rest ∧ text ≠ [] := by
  unfold nextLexeme at h
  split at h
  · cases h; simp
  · split at h
    · exact Lexeme.doubled_eq_token h
    split at h
    · exact Lexeme.doubled_eq_token h
    split at h
    · next hc => subst hc; exact Lexeme.range_eq_token h
    split at h
    · exact Lexeme.literal_eq_token h
    split at h
    · exact Lexeme.literal_eq_token h
    split at h
    · exact Lexeme.word_eq_token h
    · cases h

theorem nextLexeme_length {c : Char} {cs text rest : List Char} {kind : TokenKind}
    (h : nextLexeme c cs = .token kind text rest) : rest.length < (c :: cs).length := by
  obtain ⟨hcut, hne⟩ := nextLexeme_eq_token h
  rw [hcut, List.length_append]
  have := List.length_pos_iff.2 hne
  omega

/-- The characters of a comment, after its `#`. -/
def isCommentChar (c : Char) : Bool :=
  c != '\n'

/-- The tokens of the text `cs`, which begins at `offset` in its document. -/
def scanFrom (offset : Nat) (cs : List Char) : Except SyntaxError (List Token) :=
  match cs with
  | [] => .ok []
  | c :: rest =>
    if Text.isLayout c then scanFrom (offset + c.utf8Size) rest
    else if c = '#' then
      scanFrom (offset + c.utf8Size + Text.byteCount (rest.takeWhile isCommentChar))
        (rest.dropWhile isCommentChar)
    else
      match _h : nextLexeme c rest with
      | .token kind text rest' =>
        let stop := offset + Text.byteCount text
        match scanFrom stop rest' with
        | .ok tokens => .ok (⟨kind, ⟨offset, stop⟩, String.ofList text⟩ :: tokens)
        | .error e => .error e
      | .stuck text =>
        .error (.unexpectedCharacter (String.ofList text) ⟨offset, offset + Text.byteCount text⟩)
termination_by cs.length
decreasing_by
  · simp
  · have := (List.dropWhile_suffix isCommentChar (l := rest)).length_le
    simp only [List.length_cons]
    omega
  · exact nextLexeme_length _h

/-- The tokens of a text, or the first place where no token can be read. -/
def Token.scan (text : String) : Except SyntaxError (List Token) :=
  scanFrom 0 text.toList

end FanServer
