import FanServer.Token.Scan
import Mathlib.Computability.Language
import Mathlib.Data.List.TakeWhile

/-!
# The patterns of tokens

What a token may look like is laid down by one regular expression for each kind, here as a
language: a set of texts, with concatenation, union and repetition.

* `ofKind` — the pattern of each kind;
* `blanks`, `comment` — the patterns of what lies between tokens;
* `Ends` — what may follow a token that cannot be made longer;
* `nextLexeme_eq_token_iff` — **one token is read exactly if** its text matches the pattern of its
  kind and cannot be made longer. So the first character of a text need not be looked at again: any
  question about which texts match a pattern can be answered by reading one token
  (`mem_ofKind_iff`).
-/

open Computability

namespace FanServer.Pattern

/-! ## Patterns -/

/-- One character of a class. -/
def one (p : Char → Prop) : Language Char :=
  {w | ∃ c, p c ∧ w = [c]}

/-- A text as it is. -/
def sign (text : String) : Language Char :=
  {text.toList}

/-- What stands between delimiters, with a delimiter before and after it. -/
def delimited (delimiter : Char) (body : Language Char) : Language Char :=
  {[delimiter]} * body * {[delimiter]}

/-- An element of a literal: any character but the delimiter, a backslash or a line feed, or a
backslash and any character but a line feed. -/
def element (delimiter : Char) : Language Char :=
  one (fun c => c ≠ delimiter ∧ c ≠ '\\' ∧ c ≠ '\n') + sign "\\" * one (· ≠ '\n')

/-- The pattern of the tokens of a kind. -/
def ofKind : TokenKind → Language Char
  | .semicolon => sign ";"
  | .doubleColon => sign "::"
  | .colon => sign ":"
  | .pipe => sign "|"
  | .openBracket => sign "["
  | .closeBracket => sign "]"
  | .plus => sign "+"
  | .minus => sign "-"
  | .doublePercent => sign "%%"
  | .percent => sign "%"
  | .quantifier => sign "(" * (one fun c => c ≠ '(' ∧ c ≠ ')' ∧ c ≠ '\n')∗ * sign ")"
  | .word =>
    (one (· ∈ ".!&?".toList))∗ *
      one (fun c => 'A' ≤ c ∧ c ≤ 'Z' ∨ 'a' ≤ c ∧ c ≤ 'z' ∨ c = '_') *
      (one fun c => 'A' ≤ c ∧ c ≤ 'Z' ∨ 'a' ≤ c ∧ c ≤ 'z' ∨ '0' ≤ c ∧ c ≤ '9' ∨ c = '_')∗
  | .stringLiteral => delimited '\'' (element '\'')∗ + delimited '"' (element '"')∗
  | .regexLiteral => delimited '/' (element '/' * (element '/')∗)

/-- Blanks between tokens, at least one. -/
def blanks : Language Char :=
  one (· ∈ " \t\r\n\x0c".toList) * (one (· ∈ " \t\r\n\x0c".toList))∗

/-- A comment, up to the end of its line or to a place before that. -/
def comment : Language Char :=
  sign "#" * (one (· ≠ '\n'))∗

/-- What may follow a token of a kind, so that it cannot be made longer. -/
def Ends : TokenKind → List Char → Prop
  | .word, rest => ∀ c ∈ rest.head?, ¬ Text.isIdentRest c
  | .colon, rest => rest.head? ≠ some ':'
  | .percent, rest => rest.head? ≠ some '%'
  | _, _ => True

theorem ends_nil (kind : TokenKind) : Ends kind [] := by
  cases kind <;> simp [Ends]

/-- Only the next character matters for where a token ends. -/
theorem Ends.of_append {kind : TokenKind} {cs rest : List Char} (h : Ends kind (cs ++ rest)) :
    Ends kind cs := by
  cases cs with
  | nil => exact ends_nil kind
  | cons c cs => cases kind <;> exact h

/-! ## Runs of characters -/

section Run

variable {p : Char → Bool} {run rest : List Char}

/-- A run of characters of a class is taken whole, and nothing after it. -/
theorem takeWhile_run (hrun : ∀ c ∈ run, p c) (hrest : ∀ c ∈ rest.head?, ¬ p c = true) :
    (run ++ rest).takeWhile p = run := by
  rw [List.takeWhile_append_of_pos hrun]
  cases rest with
  | nil => exact List.append_nil run
  | cons c rest => rw [List.takeWhile_cons_of_neg (hrest c rfl), List.append_nil]

theorem dropWhile_run (hrun : ∀ c ∈ run, p c) (hrest : ∀ c ∈ rest.head?, ¬ p c = true) :
    (run ++ rest).dropWhile p = rest := by
  rw [List.dropWhile_append_of_pos hrun]
  cases rest with
  | nil => rfl
  | cons c rest => exact List.dropWhile_cons_of_neg (hrest c rfl)

/-- What is left after a run does not go on with it. -/
theorem head?_dropWhile (p : Char → Bool) (cs : List Char) :
    ∀ c ∈ (cs.dropWhile p).head?, ¬ p c = true := by
  intro c hc
  have hstop := List.head?_dropWhile_not p cs
  rw [Option.mem_def.mp hc] at hstop
  simpa using hstop

end Run

/-! ## Repetition -/

section Repetition

variable {l : Language Char} {a b w : List Char}

theorem append_mem_kstar (ha : a ∈ l) (hb : b ∈ l∗) : a ++ b ∈ l∗ := by
  obtain ⟨pieces, rfl, h⟩ := hb
  exact ⟨a :: pieces, rfl, List.forall_mem_cons.mpr ⟨ha, h⟩⟩

/-- A repetition is nothing, or one text of the language and a repetition after it. -/
@[elab_as_elim]
theorem kstar_induction {motive : (w : List Char) → w ∈ l∗ → Prop}
    (nil : motive [] (Language.nil_mem_kstar l))
    (append : ∀ a b (ha : a ∈ l) (hb : b ∈ l∗),
      motive b hb → motive (a ++ b) (append_mem_kstar ha hb))
    (h : w ∈ l∗) : motive w h := by
  obtain ⟨pieces, rfl, hpieces⟩ := id h
  induction pieces with
  | nil => exact nil
  | cons a pieces ih =>
    obtain ⟨ha, hrest⟩ := List.forall_mem_cons.mp hpieces
    exact append a _ ha (Language.join_mem_kstar hrest) (ih hrest _)

/-- Where no text of the language is empty, a repetition that begins with `c` has a first text that
does. -/
theorem exists_of_cons_mem_kstar (hl : [] ∉ l) {c : Char} {cs : List Char} (h : c :: cs ∈ l∗) :
    ∃ a b, c :: a ∈ l ∧ b ∈ l∗ ∧ cs = a ++ b := by
  obtain ⟨pieces, heq, hpieces⟩ := h
  cases pieces with
  | nil => cases heq
  | cons piece pieces =>
    obtain ⟨hpiece, hrest⟩ := List.forall_mem_cons.mp hpieces
    cases piece with
    | nil => exact absurd hpiece hl
    | cons d a =>
      cases heq
      exact ⟨a, pieces.flatten, hpiece, Language.join_mem_kstar hrest, rfl⟩

/-- A repetition of one character at a time. -/
theorem mem_kstar_one {p : Char → Prop} : w ∈ (one p)∗ ↔ ∀ c ∈ w, p c := by
  refine ⟨?_, ?_⟩
  · intro h
    induction h using kstar_induction with
    | nil => exact List.forall_mem_nil _
    | append a b ha _ ih =>
      obtain ⟨c, hc, rfl⟩ := ha
      exact List.forall_mem_cons.mpr ⟨hc, ih⟩
  · intro h
    induction w with
    | nil => exact Language.nil_mem_kstar _
    | cons c w ih =>
      obtain ⟨hc, hw⟩ := List.forall_mem_cons.mp h
      have hone : [c] ∈ one p := ⟨c, hc, rfl⟩
      exact append_mem_kstar hone (ih hw)

/-- The same with at least one character. -/
theorem mem_one_mul_kstar {p : Char → Prop} : w ∈ one p * (one p)∗ ↔ w ≠ [] ∧ ∀ c ∈ w, p c := by
  simp only [Language.mem_mul, mem_kstar_one]
  refine ⟨?_, ?_⟩
  · rintro ⟨_, ⟨c, hc, rfl⟩, rest, hrest, rfl⟩
    exact ⟨List.cons_ne_nil _ _, List.forall_mem_cons.mpr ⟨hc, hrest⟩⟩
  · rintro ⟨hne, hw⟩
    obtain ⟨c, rest, rfl⟩ := List.exists_cons_of_ne_nil hne
    obtain ⟨hc, hrest⟩ := List.forall_mem_cons.mp hw
    exact ⟨[c], ⟨c, hc, rfl⟩, rest, hrest, rfl⟩

end Repetition

/-! ## Classes of characters -/

theorem isModifier_iff {c : Char} : Text.isModifier c = true ↔ c ∈ ".!&?".toList := by
  simp [Text.isModifier, or_assoc]

theorem isAlpha_iff {c : Char} :
    c.isAlpha = true ↔ 'A' ≤ c ∧ c ≤ 'Z' ∨ 'a' ≤ c ∧ c ≤ 'z' := by
  have hupper : c.isUpper = true ↔ 'A' ≤ c ∧ c ≤ 'Z' := decide_eq_true_iff
  have hlower : c.isLower = true ↔ 'a' ≤ c ∧ c ≤ 'z' :=
    Bool.and_eq_true_iff.trans (and_congr decide_eq_true_iff decide_eq_true_iff)
  exact Bool.or_eq_true_iff.trans (or_congr hupper hlower)

theorem isAlphanum_iff {c : Char} :
    c.isAlphanum = true ↔ ('A' ≤ c ∧ c ≤ 'Z' ∨ 'a' ≤ c ∧ c ≤ 'z') ∨ '0' ≤ c ∧ c ≤ '9' := by
  have hdigit : c.isDigit = true ↔ '0' ≤ c ∧ c ≤ '9' :=
    Bool.and_eq_true_iff.trans (and_congr decide_eq_true_iff decide_eq_true_iff)
  exact Bool.or_eq_true_iff.trans (or_congr isAlpha_iff hdigit)

theorem isIdentStart_iff {c : Char} :
    Text.isIdentStart c = true ↔ 'A' ≤ c ∧ c ≤ 'Z' ∨ 'a' ≤ c ∧ c ≤ 'z' ∨ c = '_' := by
  simp [Text.isIdentStart, isAlpha_iff, or_assoc]

theorem isIdentRest_iff {c : Char} :
    Text.isIdentRest c = true ↔
      'A' ≤ c ∧ c ≤ 'Z' ∨ 'a' ≤ c ∧ c ≤ 'z' ∨ '0' ≤ c ∧ c ≤ '9' ∨ c = '_' := by
  simp [Text.isIdentRest, isAlphanum_iff, or_assoc]

theorem isRangeChar_iff {c : Char} :
    Text.isRangeChar c = true ↔ c ≠ '(' ∧ c ≠ ')' ∧ c ≠ '\n' := by
  simp [Text.isRangeChar, and_assoc]

theorem isLayout_iff {c : Char} : Text.isLayout c = true ↔ c ∈ " \t\r\n\x0c".toList := by
  simp [Text.isLayout, or_assoc]

theorem isCommentChar_iff {c : Char} : isCommentChar c = true ↔ c ≠ '\n' := by
  simp [isCommentChar]

/-! ## Texts that match -/

section Match

variable {w : List Char} {d : Char}

theorem mem_sign {text : String} : w ∈ sign text ↔ w = text.toList :=
  Iff.rfl

theorem mem_one {p : Char → Prop} : w ∈ one p ↔ ∃ c, p c ∧ w = [c] :=
  Iff.rfl

theorem mem_blanks : w ∈ blanks ↔ w ≠ [] ∧ ∀ c ∈ w, Text.isLayout c := by
  simp only [blanks, mem_one_mul_kstar, isLayout_iff]

theorem mem_comment :
    w ∈ comment ↔ ∃ body : List Char, (∀ c ∈ body, isCommentChar c) ∧ w = '#' :: body := by
  simp only [comment, Language.mem_mul, mem_sign, mem_kstar_one, isCommentChar_iff]
  refine ⟨?_, ?_⟩
  · rintro ⟨_, rfl, body, hbody, rfl⟩
    exact ⟨body, hbody, rfl⟩
  · rintro ⟨body, hbody, rfl⟩
    exact ⟨_, rfl, body, hbody, rfl⟩

theorem mem_quantifier :
    w ∈ ofKind .quantifier ↔
      ∃ body : List Char, (∀ c ∈ body, Text.isRangeChar c) ∧ w = '(' :: body ++ [')'] := by
  simp only [ofKind, Language.mem_mul, mem_sign, mem_kstar_one, isRangeChar_iff]
  refine ⟨?_, ?_⟩
  · rintro ⟨_, ⟨_, rfl, body, hbody, rfl⟩, _, rfl, rfl⟩
    exact ⟨body, hbody, rfl⟩
  · rintro ⟨body, hbody, rfl⟩
    exact ⟨_, ⟨_, rfl, body, hbody, rfl⟩, _, rfl, rfl⟩

theorem mem_word :
    w ∈ ofKind .word ↔
      ∃ (modifiers : List Char) (c : Char) (rest : List Char),
        (∀ m ∈ modifiers, Text.isModifier m) ∧ Text.isIdentStart c ∧
          (∀ d ∈ rest, Text.isIdentRest d) ∧ w = modifiers ++ c :: rest := by
  simp only [ofKind, Language.mem_mul, mem_kstar_one, mem_one, isModifier_iff, isIdentStart_iff,
    isIdentRest_iff]
  refine ⟨?_, ?_⟩
  · rintro ⟨_, ⟨modifiers, hmodifiers, _, ⟨c, hc, rfl⟩, rfl⟩, rest, hrest, rfl⟩
    exact ⟨modifiers, c, rest, hmodifiers, hc, hrest, by simp⟩
  · rintro ⟨modifiers, c, rest, hmodifiers, hc, hrest, rfl⟩
    exact ⟨_, ⟨modifiers, hmodifiers, _, ⟨c, hc, rfl⟩, rfl⟩, rest, hrest, by simp⟩

theorem mem_delimited {body : Language Char} :
    w ∈ delimited d body ↔ ∃ b ∈ body, w = d :: b ++ [d] := by
  simp only [delimited, Language.mem_mul]
  refine ⟨?_, ?_⟩
  · rintro ⟨_, ⟨_, rfl, b, hb, rfl⟩, _, rfl, rfl⟩
    exact ⟨b, hb, rfl⟩
  · rintro ⟨b, hb, rfl⟩
    exact ⟨_, ⟨_, rfl, b, hb, rfl⟩, _, rfl, rfl⟩

theorem mem_element :
    w ∈ element d ↔
      (∃ c, (c ≠ d ∧ c ≠ '\\' ∧ c ≠ '\n') ∧ w = [c]) ∨ ∃ c, c ≠ '\n' ∧ w = ['\\', c] := by
  simp only [element, Language.mem_add, mem_one, Language.mem_mul, mem_sign]
  refine or_congr Iff.rfl ⟨?_, ?_⟩
  · rintro ⟨_, rfl, _, ⟨c, hc, rfl⟩, rfl⟩
    exact ⟨c, hc, rfl⟩
  · rintro ⟨c, hc, rfl⟩
    exact ⟨_, rfl, _, ⟨c, hc, rfl⟩, rfl⟩

theorem nil_notMem_element (d : Char) : [] ∉ element d := by
  intro h
  rcases mem_element.mp h with ⟨c, -, hc⟩ | ⟨c, -, hc⟩ <;> cases hc

theorem mem_elements_nonempty :
    w ∈ element d * (element d)∗ ↔ w ∈ (element d)∗ ∧ w ≠ [] := by
  refine ⟨?_, ?_⟩
  · intro h
    obtain ⟨a, ha, b, hb, rfl⟩ := Language.mem_mul.mp h
    refine ⟨append_mem_kstar ha hb, ?_⟩
    intro hnil
    rw [(List.append_eq_nil_iff.mp hnil).1] at ha
    exact nil_notMem_element d ha
  · rintro ⟨h, hne⟩
    induction h using kstar_induction with
    | nil => exact absurd rfl hne
    | append a b ha hb _ => exact Language.append_mem_mul ha hb

theorem mem_stringLiteral :
    w ∈ ofKind .stringLiteral ↔
      ∃ d, (d = '\'' ∨ d = '"') ∧ ∃ body ∈ (element d)∗, w = d :: body ++ [d] := by
  simp only [ofKind, Language.mem_add, mem_delimited, or_and_right, exists_or, exists_eq_left]

theorem mem_regexLiteral :
    w ∈ ofKind .regexLiteral ↔
      ∃ body ∈ (element '/')∗, body ≠ [] ∧ w = '/' :: body ++ ['/'] := by
  simp only [ofKind, mem_delimited, mem_elements_nonempty, and_assoc]

/-- A token is never empty. -/
theorem nil_notMem_ofKind (kind : TokenKind) : [] ∉ ofKind kind := by
  intro h
  cases kind with
  | quantifier =>
    obtain ⟨body, -, hbody⟩ := mem_quantifier.mp h
    cases hbody
  | word =>
    obtain ⟨modifiers, c, name, -, -, -, hword⟩ := mem_word.mp h
    simp at hword
  | stringLiteral =>
    obtain ⟨d, -, body, -, hbody⟩ := mem_stringLiteral.mp h
    cases hbody
  | regexLiteral =>
    obtain ⟨body, -, -, hbody⟩ := mem_regexLiteral.mp h
    cases hbody
  | _ => cases h

theorem newline_notMem_elements {body : List Char} (h : body ∈ (element d)∗) : '\n' ∉ body := by
  induction h using kstar_induction with
  | nil => exact List.not_mem_nil
  | append a b ha _ ih =>
    rcases mem_element.mp ha with ⟨c, ⟨-, -, hc⟩, rfl⟩ | ⟨c, hc, rfl⟩
    · simp [hc.symm, ih]
    · simp [hc.symm, ih]

theorem isIdentRest_of_isIdentStart {c : Char} (h : Text.isIdentStart c) : Text.isIdentRest c := by
  simp only [Text.isIdentStart, Text.isIdentRest, Char.isAlphanum, Bool.or_eq_true] at h ⊢
  tauto

/-- A word is made of modifiers and of the characters of names. -/
theorem isModifier_or_isIdentRest_of_mem {c : Char} (h : w ∈ ofKind .word) (hc : c ∈ w) :
    Text.isModifier c ∨ Text.isIdentRest c := by
  obtain ⟨modifiers, d, name, hmodifiers, hd, hname, rfl⟩ := mem_word.mp h
  rcases List.mem_append.mp hc with hc | hc
  · exact .inl (hmodifiers c hc)
  · rcases List.mem_cons.mp hc with rfl | hc
    · exact .inr (isIdentRest_of_isIdentStart hd)
    · exact .inr (hname c hc)

/-- A token never goes on to another line. -/
theorem newline_notMem {kind : TokenKind} (h : w ∈ ofKind kind) : '\n' ∉ w := by
  cases kind with
  | quantifier =>
    obtain ⟨body, hbody, rfl⟩ := mem_quantifier.mp h
    have hnot : '\n' ∉ body := fun hmem => absurd (hbody _ hmem) (by decide)
    simp [hnot]
  | word =>
    intro hmem
    exact absurd (isModifier_or_isIdentRest_of_mem h hmem) (by decide)
  | stringLiteral =>
    obtain ⟨d, hd, body, hbody, rfl⟩ := mem_stringLiteral.mp h
    rcases hd with rfl | rfl <;> simp [newline_notMem_elements hbody]
  | regexLiteral =>
    obtain ⟨body, hbody, -, rfl⟩ := mem_regexLiteral.mp h
    simp [newline_notMem_elements hbody]
  | _ =>
    cases h
    decide

end Match

/-! ## One token is read -/

section Readers

open Lexeme

variable {cs text rest : List Char}

/-- A sign is a token by itself. -/
theorem mem_ofKind_of_sign? {c : Char} {kind : TokenKind} (h : sign? c = some kind)
    (rest : List Char) : [c] ∈ ofKind kind ∧ Ends kind rest := by
  unfold sign? at h
  split_ifs at h with hc hc hc hc hc hc <;> cases h <;> subst hc <;> exact ⟨rfl, trivial⟩

theorem doubled_eq_token_iff {two one kind : TokenKind} {c : Char} :
    doubled two one c cs = .token kind text rest ↔
      kind = two ∧ text = [c, c] ∧ cs = c :: rest ∨
        kind = one ∧ text = [c] ∧ cs = rest ∧ rest.head? ≠ some c := by
  cases cs with
  | nil => simp [doubled]; grind
  | cons d cs => by_cases hd : d = c <;> simp [doubled, hd] <;> grind

theorem range_eq_token_iff {kind : TokenKind} :
    range cs = .token kind text rest ↔
      kind = .quantifier ∧ '(' :: cs = text ++ rest ∧ text ∈ ofKind .quantifier := by
  rw [mem_quantifier]
  refine ⟨?_, ?_⟩
  · intro h
    have hcut := (range_eq_token h).1
    unfold range at h
    dsimp only at h
    split at h
    · split at h
      · next hc =>
        cases h
        exact ⟨rfl, hcut, _, fun c hmem => List.mem_takeWhile_imp hmem, by rw [hc]⟩
      · cases h
    · cases h
  · rintro ⟨rfl, hcut, body, hbody, rfl⟩
    obtain rfl : cs = body ++ ')' :: rest := by simpa using hcut
    have hstop : ∀ c ∈ (')' :: rest).head?, ¬ Text.isRangeChar c = true := by
      rintro c ⟨⟩
      decide
    rw [range, takeWhile_run hbody hstop, dropWhile_run hbody hstop]
    exact if_pos rfl

theorem literalBody_begins (d : Char) (cs : List Char) : (Text.literalBody d cs).1 <+: cs :=
  ⟨_, Text.literalBody_append d cs⟩

/-- What is read as the part of a literal before its end is made of elements. -/
theorem literalBody_mem (d : Char) (cs : List Char) :
    (Text.literalBody d cs).1 ∈ (element d)∗ := by
  have hchar : ∀ {c rest}, ¬ c = '\\' → ¬ (c = d ∨ c = '\n') → rest ∈ (element d)∗ →
      c :: rest ∈ (element d)∗ := by
    intro c rest hescape hc hrest
    rw [not_or] at hc
    exact append_mem_kstar (mem_element.mpr (.inl ⟨c, ⟨hc.1, hescape, hc.2⟩, rfl⟩)) hrest
  fun_induction Text.literalBody d cs with
  | case1 => exact Language.nil_mem_kstar _
  | case2 c h => exact Language.nil_mem_kstar _
  | case3 c h =>
    rw [not_or, not_or] at h
    exact hchar h.2.1 (not_or.mpr ⟨h.1, h.2.2⟩) (Language.nil_mem_kstar _)
  | case4 => exact Language.nil_mem_kstar _
  | case5 e cs hnewline ih =>
    exact append_mem_kstar (mem_element.mpr (.inr ⟨e, hnewline, rfl⟩)) ih
  | case6 => exact Language.nil_mem_kstar _
  | case7 c e cs hescape hc ih => exact hchar hescape hc ih

/-- Elements up to a delimiter are read as they are: no other cut of them is possible. -/
theorem literalBody_append_delimiter {d : Char} (hd : d ≠ '\\') {body : List Char}
    (h : body ∈ (element d)∗) (rest : List Char) :
    Text.literalBody d (body ++ d :: rest) = (body, d :: rest) := by
  induction h using kstar_induction with
  | nil => cases rest <;> simp [Text.literalBody, hd]
  | append a b ha _ ih =>
    -- something follows the element, if only the delimiter
    obtain ⟨c, cs, hcs⟩ : ∃ c cs, b ++ d :: rest = c :: cs := List.exists_cons_of_ne_nil (by simp)
    rw [hcs] at ih
    rw [List.append_assoc, hcs]
    rcases mem_element.mp ha with ⟨e, ⟨he, hescape, hnewline⟩, rfl⟩ | ⟨e, hnewline, rfl⟩
    · simp [Text.literalBody, he, hescape, hnewline, ih]
    · simp [Text.literalBody, hnewline, ih]

theorem literal_eq_token_iff {kind kind' : TokenKind} {bodyNeeded : Bool} {d : Char}
    (hd : d ≠ '\\') :
    literal kind bodyNeeded d cs = .token kind' text rest ↔
      kind' = kind ∧ d :: cs = text ++ rest ∧
        ∃ body ∈ (element d)∗, (bodyNeeded → body ≠ []) ∧ text = d :: body ++ [d] := by
  refine ⟨?_, ?_⟩
  · intro h
    have hcut := (literal_eq_token h).1
    unfold literal at h
    dsimp only at h
    split at h
    · split at h
      · next hc =>
        cases h
        exact ⟨rfl, hcut, _, literalBody_mem d cs, hc.2, by rw [hc.1]⟩
      · cases h
    · cases h
  · rintro ⟨rfl, hcut, body, hbody, hneeded, rfl⟩
    obtain rfl : cs = body ++ d :: rest := by simpa using hcut
    rw [literal, literalBody_append_delimiter hd hbody]
    exact if_pos ⟨rfl, hneeded⟩

theorem not_isModifier_of_isIdentStart {c : Char} (h : Text.isIdentStart c) :
    ¬ Text.isModifier c = true := by
  intro hmodifier
  simp only [Text.isModifier, Bool.or_eq_true, beq_iff_eq] at hmodifier
  rcases hmodifier with ((rfl | rfl) | rfl) | rfl <;> revert h <;> decide

theorem word_eq_token_iff {kind : TokenKind} :
    word cs = .token kind text rest ↔
      kind = .word ∧ cs = text ++ rest ∧ text ∈ ofKind .word ∧ Ends .word rest := by
  rw [mem_word]
  refine ⟨?_, ?_⟩
  · intro h
    have hcut := (word_eq_token h).1
    unfold word at h
    dsimp only at h
    split at h
    · next c rest' hrest =>
      split at h
      · next hc =>
        cases h
        exact ⟨rfl, hcut, ⟨_, c, _, fun m hm => List.mem_takeWhile_imp hm, hc,
          fun d hd => List.mem_takeWhile_imp hd, rfl⟩, head?_dropWhile Text.isIdentRest rest'⟩
      · cases h
    · cases h
  · rintro ⟨rfl, rfl, ⟨modifiers, c, name, hmodifiers, hc, hname, rfl⟩, hrest⟩
    have hstop : ∀ d ∈ (c :: name ++ rest).head?, ¬ Text.isModifier d = true := by
      rintro d ⟨⟩
      exact not_isModifier_of_isIdentStart hc
    rw [word, List.append_assoc, takeWhile_run hmodifiers hstop, dropWhile_run hmodifiers hstop]
    dsimp only [List.cons_append]
    rw [if_pos hc, takeWhile_run hname hrest, dropWhile_run hname hrest]

theorem nextLexeme_of_word {c : Char} (h : Text.isModifier c ∨ Text.isIdentStart c)
    (cs : List Char) : nextLexeme c cs = word (c :: cs) := by
  -- no sign and no delimiter is a character that a word begins with
  have hne : ∀ d, Text.isModifier d = false → Text.isIdentStart d = false → (c = d) = False := by
    intro d hmodifier hstart
    refine eq_false ?_
    rintro rfl
    simp [hmodifier, hstart] at h
  simp (disch := decide) only [nextLexeme, sign?, hne, h, if_false, if_true, or_self]

/-- What is read as a token matches the pattern of its kind, and cannot be made longer. -/
theorem mem_ofKind_of_nextLexeme {c : Char} {kind : TokenKind}
    (h : nextLexeme c cs = .token kind text rest) : text ∈ ofKind kind ∧ Ends kind rest := by
  unfold nextLexeme at h
  split at h
  · next hsign =>
    cases h
    exact mem_ofKind_of_sign? hsign cs
  · split_ifs at h with hcolon hpercent hopen hquote hslash hword
    · subst hcolon
      rcases doubled_eq_token_iff.mp h with ⟨rfl, rfl, -⟩ | ⟨rfl, rfl, -, hrest⟩
      · exact ⟨rfl, trivial⟩
      · exact ⟨rfl, hrest⟩
    · subst hpercent
      rcases doubled_eq_token_iff.mp h with ⟨rfl, rfl, -⟩ | ⟨rfl, rfl, -, hrest⟩
      · exact ⟨rfl, trivial⟩
      · exact ⟨rfl, hrest⟩
    · obtain ⟨rfl, -, htext⟩ := range_eq_token_iff.mp h
      exact ⟨htext, trivial⟩
    · have hescape : c ≠ '\\' := by rcases hquote with rfl | rfl <;> decide
      obtain ⟨rfl, -, body, hbody, -, rfl⟩ := (literal_eq_token_iff hescape).mp h
      exact ⟨mem_stringLiteral.mpr ⟨c, hquote, body, hbody, rfl⟩, trivial⟩
    · subst hslash
      obtain ⟨rfl, -, body, hbody, hne, rfl⟩ := (literal_eq_token_iff (by decide)).mp h
      exact ⟨mem_regexLiteral.mpr ⟨body, hbody, hne rfl, rfl⟩, trivial⟩
    · obtain ⟨rfl, -, htext, hrest⟩ := word_eq_token_iff.mp h
      exact ⟨htext, hrest⟩

/-- **Reading one token.** A token is read exactly if its text matches the pattern of its kind and
cannot be made longer. -/
theorem nextLexeme_eq_token_iff {c : Char} {kind : TokenKind} :
    nextLexeme c cs = .token kind text rest ↔
      c :: cs = text ++ rest ∧ text ∈ ofKind kind ∧ Ends kind rest := by
  refine ⟨fun h => ⟨(nextLexeme_eq_token h).1, mem_ofKind_of_nextLexeme h⟩, ?_⟩
  rintro ⟨hcut, htext, hrest⟩
  cases kind with
  | colon =>
    cases htext
    cases hcut
    exact doubled_eq_token_iff.mpr (.inr ⟨rfl, rfl, rfl, hrest⟩)
  | percent =>
    cases htext
    cases hcut
    exact doubled_eq_token_iff.mpr (.inr ⟨rfl, rfl, rfl, hrest⟩)
  | quantifier =>
    obtain rfl : c = '(' := by
      obtain ⟨body, -, rfl⟩ := mem_quantifier.mp htext
      exact (List.cons.inj hcut).1
    exact range_eq_token_iff.mpr ⟨rfl, hcut, htext⟩
  | word =>
    have hc : Text.isModifier c ∨ Text.isIdentStart c := by
      obtain ⟨modifiers, d, name, hmodifiers, hd, -, rfl⟩ := mem_word.mp htext
      cases modifiers with
      | nil =>
        cases hcut
        exact .inr hd
      | cons m modifiers =>
        cases hcut
        exact .inl (hmodifiers c List.mem_cons_self)
    rw [nextLexeme_of_word hc]
    exact word_eq_token_iff.mpr ⟨rfl, hcut, htext, hrest⟩
  | stringLiteral =>
    obtain ⟨d, hd, body, hbody, rfl⟩ := mem_stringLiteral.mp htext
    obtain rfl : c = d := (List.cons.inj hcut).1
    rcases hd with rfl | rfl
    · exact (literal_eq_token_iff (by decide)).mpr ⟨rfl, hcut, body, hbody, nofun, rfl⟩
    · exact (literal_eq_token_iff (by decide)).mpr ⟨rfl, hcut, body, hbody, nofun, rfl⟩
  | regexLiteral =>
    obtain ⟨body, hbody, hne, rfl⟩ := mem_regexLiteral.mp htext
    obtain rfl : c = '/' := (List.cons.inj hcut).1
    exact (literal_eq_token_iff (by decide)).mpr ⟨rfl, hcut, body, hbody, fun _ => hne, rfl⟩
  | _ =>
    -- the other signs are read whatever follows
    cases htext
    cases hcut
    rfl

theorem doubled_ne_stuck (two one : TokenKind) (c : Char) : doubled two one c cs ≠ .stuck text := by
  unfold doubled
  split
  · split <;> nofun
  · nofun

theorem range_eq_stuck (h : range cs = .stuck text) :
    text = '(' :: cs.takeWhile Text.isRangeChar := by
  unfold range at h
  dsimp only at h
  split at h
  · split at h
    · cases h
    · cases h; rfl
  · cases h; rfl

theorem literal_eq_stuck {kind : TokenKind} {bodyNeeded : Bool} {d : Char}
    (h : literal kind bodyNeeded d cs = .stuck text) :
    text = d :: (Text.literalBody d cs).1 := by
  unfold literal at h
  dsimp only at h
  split at h
  · split at h
    · cases h
    · cases h; rfl
  · cases h; rfl

theorem word_eq_stuck (h : word cs = .stuck text) : text = cs.takeWhile Text.isModifier := by
  unfold word at h
  dsimp only at h
  split at h
  · split at h
    · cases h
    · cases h; rfl
  · cases h; rfl

/-- A word that cannot be completed has modifiers: what begins with a name is a word. -/
theorem isModifier_of_word_eq_stuck {c : Char} (hc : Text.isModifier c ∨ Text.isIdentStart c)
    (h : word (c :: cs) = .stuck text) : Text.isModifier c := by
  rcases hc with hmodifier | hstart
  · exact hmodifier
  · have hname : word (c :: cs) =
        .token .word (c :: cs.takeWhile Text.isIdentRest) (cs.dropWhile Text.isIdentRest) := by
      refine word_eq_token_iff.mpr ⟨rfl, ?_, ?_, head?_dropWhile _ cs⟩
      · rw [List.cons_append, List.takeWhile_append_dropWhile]
      · exact mem_word.mpr ⟨[], c, _, List.forall_mem_nil _, hstart,
          fun d hd => List.mem_takeWhile_imp hd, rfl⟩
    rw [hname] at h
    cases h

/-- A token that cannot be completed has begun, and what was read of it stands in the text. -/
theorem prefix_of_nextLexeme_eq_stuck {c : Char} (h : nextLexeme c cs = .stuck text) :
    text ≠ [] ∧ text <+: c :: cs := by
  unfold nextLexeme at h
  split at h
  · cases h
  · split_ifs at h with hcolon hpercent hopen hquote hslash hword
    · exact absurd h (doubled_ne_stuck _ _ c)
    · exact absurd h (doubled_ne_stuck _ _ c)
    · rw [range_eq_stuck h, hopen]
      exact ⟨List.cons_ne_nil _ _,
        List.cons_prefix_cons.mpr ⟨rfl, _, List.takeWhile_append_dropWhile⟩⟩
    · rw [literal_eq_stuck h]
      exact ⟨List.cons_ne_nil _ _, List.cons_prefix_cons.mpr ⟨rfl, literalBody_begins c cs⟩⟩
    · rw [literal_eq_stuck h]
      exact ⟨List.cons_ne_nil _ _, List.cons_prefix_cons.mpr ⟨rfl, literalBody_begins c cs⟩⟩
    · have hmodifier := isModifier_of_word_eq_stuck hword h
      rw [word_eq_stuck h]
      refine ⟨?_, ⟨_, List.takeWhile_append_dropWhile⟩⟩
      rw [List.takeWhile_cons_of_pos hmodifier]
      exact List.cons_ne_nil _ _
    · cases h
      exact ⟨List.cons_ne_nil c [], List.prefix_append [c] cs⟩

end Readers

/-! ## Patterns by reading -/

section ByReading

open Lexeme

variable {w rest : List Char} {c : Char} {kind : TokenKind}

/-- A text matches a pattern exactly if it is read as one token. -/
theorem mem_ofKind_iff : c :: w ∈ ofKind kind ↔ nextLexeme c w = .token kind (c :: w) [] := by
  rw [nextLexeme_eq_token_iff, List.append_nil]
  exact ⟨fun h => ⟨rfl, h, ends_nil kind⟩, fun h => h.2.1⟩

/-- No token begins with a blank. -/
theorem not_isLayout_of_mem (h : c :: w ∈ ofKind kind) : ¬ Text.isLayout c = true := by
  intro hlayout
  rw [mem_ofKind_iff] at h
  simp only [Text.isLayout, Bool.or_eq_true, beq_iff_eq] at hlayout
  rcases hlayout with (((rfl | rfl) | rfl) | rfl) | rfl <;> cases h

/-- A token that begins with a character of a name is a name. -/
theorem forall_isIdentRest (h : c :: w ∈ ofKind kind) (hc : Text.isIdentRest c) :
    ∀ d ∈ c :: w, Text.isIdentRest d := by
  have hne : ∀ d, Text.isIdentRest d = false → (c = d) = False := by
    intro d hd
    refine eq_false ?_
    rintro rfl
    simp [hc] at hd
  have hmodifier : Text.isModifier c = false := by
    simp (disch := decide) [Text.isModifier, hne]
  rw [mem_ofKind_iff] at h
  by_cases hstart : Text.isIdentStart c
  · rw [nextLexeme_of_word (.inr hstart), word_eq_token_iff, mem_word] at h
    obtain ⟨-, -, ⟨modifiers, d, name, hmodifiers, -, hname, heq⟩, -⟩ := h
    cases modifiers with
    | nil =>
      cases heq
      exact List.forall_mem_cons.mpr ⟨hc, hname⟩
    | cons m modifiers =>
      cases heq
      have hm := hmodifiers c List.mem_cons_self
      rw [hmodifier] at hm
      cases hm
  · -- a digit begins no token
    simp (disch := decide) [nextLexeme, sign?, hne, hmodifier, hstart] at h

/-- A token that begins with a sign which may stand twice is that sign, once or twice. -/
theorem eq_of_doubled_mem (hc : c = ':' ∨ c = '%') (h : c :: w ∈ ofKind kind) :
    w = [] ∨ w = [c] := by
  obtain ⟨two, one, hread⟩ : ∃ two one, nextLexeme c w = doubled two one c w := by
    rcases hc with rfl | rfl <;> exact ⟨_, _, rfl⟩
  rw [mem_ofKind_iff, hread] at h
  rcases doubled_eq_token_iff.mp h with ⟨-, heq, -⟩ | ⟨-, heq, -, -⟩
  · exact .inr (List.cons.inj heq).2
  · exact .inl (List.cons.inj heq).2

end ByReading

end FanServer.Pattern
