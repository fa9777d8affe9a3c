import FanServer.Document
import FanServer.Proofs.Methods
import FanServer.Proofs.Pattern
import FanServer.Proofs.Position

/-!
# Declarations by their patterns

A document says what it is by a declaration at the beginning of a line. What a declaration looks
like is laid down by a regular expression for each kind of document, which is matched **at the
beginning of any line**; here, as a form (`Header.Form`) with a language of names.

* `Text.mem_lines_iff` — the lines of a text are what stands between its line feeds;
* `Header.grammar?_eq_some_iff`, `Header.actions?_eq_some_iff` — a line is recognised exactly if it
  begins with a declaration, and the name that is found is the one in it;
* `Header.Form.Declares` — a line of a text declares a name;
* `Header.kind?_eq_grammar_iff`, `Header.kind?_eq_action_iff` — the kind of a text is a matter of
  what its lines declare.
-/

open Computability

namespace FanServer

/-! ## Lines -/

namespace Text

/-- The first line goes up to the first line feed, and every other line starts behind one. -/
theorem exists_linesFrom (offset : Nat) (cs : List Char) :
    ∃ others, linesFrom offset cs = ⟨offset, cs.takeWhile (· != '\n')⟩ :: others ∧
      ∀ line, line ∈ others ↔ ∃ before rest, cs = before ++ '\n' :: rest ∧
        line = ⟨offset + byteCount (before ++ ['\n']), rest.takeWhile (· != '\n')⟩ := by
  induction cs generalizing offset with
  | nil => exact ⟨[], rfl, by simp⟩
  | cons c cs ih =>
    obtain ⟨others, hlines, hothers⟩ := ih (offset + c.utf8Size)
    by_cases hc : c = '\n'
    · subst hc
      refine ⟨linesFrom (offset + '\n'.utf8Size) cs, by simp [linesFrom], fun line => ?_⟩
      rw [hlines, List.mem_cons, hothers]
      constructor
      · rintro (rfl | ⟨before, rest, rfl, rfl⟩)
        · exact ⟨[], cs, rfl, by simp [byteCount]⟩
        · exact ⟨'\n' :: before, rest, rfl, by simp [byteCount, Nat.add_assoc]⟩
      · rintro ⟨before, rest, hcut, rfl⟩
        cases before with
        | nil =>
          obtain ⟨-, rfl⟩ := List.cons.inj hcut
          exact .inl (by simp [byteCount])
        | cons b before =>
          obtain ⟨rfl, rfl⟩ := List.cons.inj hcut
          exact .inr ⟨before, rest, rfl, by simp [byteCount, Nat.add_assoc]⟩
    · -- the first line grows to the left by one character, and the others stay
      refine ⟨others, by simp [linesFrom, hc, hlines], fun line => ?_⟩
      rw [hothers]
      constructor
      · rintro ⟨before, rest, rfl, rfl⟩
        exact ⟨c :: before, rest, rfl, by simp [byteCount, Nat.add_assoc]⟩
      · rintro ⟨before, rest, hcut, rfl⟩
        cases before with
        | nil => exact absurd (List.cons.inj hcut).1 hc
        | cons b before =>
          obtain ⟨rfl, rfl⟩ := List.cons.inj hcut
          exact ⟨before, rest, rfl, by simp [byteCount, Nat.add_assoc]⟩

/-- **A line of a text** starts at its beginning or behind a line feed, and goes up to the next
one. -/
theorem mem_lines_iff {text : String} {line : Line} :
    line ∈ lines text ↔ ∃ before rest, text.toList = before ++ rest ∧ EndsLine before ∧
      line = ⟨byteCount before, rest.takeWhile (· != '\n')⟩ := by
  obtain ⟨others, hlines, hothers⟩ := exists_linesFrom 0 text.toList
  rw [lines, hlines, List.mem_cons, hothers]
  constructor
  · rintro (rfl | ⟨before, rest, hcut, rfl⟩)
    · exact ⟨[], text.toList, rfl, .inl rfl, rfl⟩
    · exact ⟨before ++ ['\n'], rest, by simpa using hcut, .inr ⟨before, rfl⟩,
        by rw [Nat.zero_add]⟩
  · rintro ⟨_, rest, hcut, rfl | ⟨before, rfl⟩, rfl⟩
    · exact .inl (by rw [hcut]; rfl)
    · exact .inr ⟨before, rest, by simpa using hcut, by rw [Nat.zero_add]⟩

/-- A line stands in its text where it starts. -/
theorem exists_of_mem_lines {text : String} {line : Line} (h : line ∈ lines text) :
    ∃ before rest, text.toList = before ++ line.chars ++ rest ∧ line.start = byteCount before := by
  obtain ⟨before, rest, hcut, -, rfl⟩ := mem_lines_iff.mp h
  refine ⟨before, rest.dropWhile (· != '\n'), ?_, rfl⟩
  rw [List.append_assoc, List.takeWhile_append_dropWhile, hcut]

theorem EndsLine.right {before rest : List Char} (h : EndsLine (before ++ rest)) :
    EndsLine rest := by
  rcases List.eq_nil_or_concat rest with rfl | ⟨most, last, rfl⟩
  · exact .inl rfl
  · rcases h with hnil | ⟨init, hinit⟩
    · simp at hnil
    · have hlast : last = '\n' := by
        simpa [List.concat_eq_append] using congrArg List.getLast? hinit
      exact .inr ⟨most, by rw [hlast, List.concat_eq_append]⟩

theorem EndsLine.eq_nil {cs : List Char} (h : EndsLine cs) (hfree : '\n' ∉ cs) : cs = [] := by
  rcases h with rfl | ⟨init, rfl⟩
  · rfl
  · simp at hfree

/-- A part of a text has one last line. -/
theorem EndsLine.eq_of_append_eq {before before' line line' : List Char} (h : EndsLine before)
    (h' : EndsLine before') (hline : '\n' ∉ line) (hline' : '\n' ∉ line')
    (heq : before ++ line = before' ++ line') : before = before' ∧ line = line' := by
  obtain ⟨between, rfl, rfl⟩ | ⟨between, rfl, rfl⟩ := List.append_eq_append_iff.mp heq
  · obtain rfl := h'.right.eq_nil fun hmem => hline (List.mem_append_left _ hmem)
    simp
  · obtain rfl := h.right.eq_nil fun hmem => hline' (List.mem_append_left _ hmem)
    simp

end Text

/-! ## The patterns of declarations -/

namespace Pattern

/-- An identifier. -/
def identifier : Language Char :=
  one (fun c => 'A' ≤ c ∧ c ≤ 'Z' ∨ 'a' ≤ c ∧ c ≤ 'z' ∨ c = '_') *
    (one fun c => 'A' ≤ c ∧ c ≤ 'Z' ∨ 'a' ≤ c ∧ c ≤ 'z' ∨ '0' ≤ c ∧ c ≤ '9' ∨ c = '_')∗

/-- The name of a grammar: identifiers joined by `::`. -/
def grammarName : Language Char :=
  identifier * (sign "::" * identifier)∗

/-- The name of an action class: letters, digits, `:`, `_` and `-`, at least one. -/
def className : Language Char :=
  one (fun c => 'a' ≤ c ∧ c ≤ 'z' ∨ 'A' ≤ c ∧ c ≤ 'Z' ∨ c = ':' ∨ '0' ≤ c ∧ c ≤ '9' ∨ c = '_' ∨
    c = '-') *
    (one fun c => 'a' ≤ c ∧ c ≤ 'z' ∨ 'A' ≤ c ∧ c ≤ 'Z' ∨ c = ':' ∨ '0' ≤ c ∧ c ≤ '9' ∨ c = '_' ∨
      c = '-')∗

section Names

variable {w : List Char}

theorem mem_identifier :
    w ∈ identifier ↔ ∃ (c : Char) (rest : List Char), Text.isIdentStart c ∧
      (∀ d ∈ rest, Text.isIdentRest d) ∧ w = c :: rest := by
  simp only [identifier, Language.mem_mul, mem_one, mem_kstar_one, isIdentStart_iff,
    isIdentRest_iff]
  constructor
  · rintro ⟨_, ⟨c, hc, rfl⟩, rest, hrest, rfl⟩
    exact ⟨c, rest, hc, hrest, rfl⟩
  · rintro ⟨c, rest, hc, hrest, rfl⟩
    exact ⟨[c], ⟨c, hc, rfl⟩, rest, hrest, rfl⟩

theorem isClassChar_iff {c : Char} :
    Header.isClassChar c = true ↔
      'a' ≤ c ∧ c ≤ 'z' ∨ 'A' ≤ c ∧ c ≤ 'Z' ∨ c = ':' ∨ '0' ≤ c ∧ c ≤ '9' ∨ c = '_' ∨ c = '-' := by
  simp only [Header.isClassChar, isAlphanum_iff, Bool.or_eq_true, beq_iff_eq]
  tauto

theorem mem_className : w ∈ className ↔ w ≠ [] ∧ ∀ c ∈ w, Header.isClassChar c := by
  simp only [className, mem_one_mul_kstar, isClassChar_iff]

theorem identifier_mem_grammarName (h : w ∈ identifier) : w ∈ grammarName := by
  rw [← List.append_nil w]
  exact Language.append_mem_mul h (Language.nil_mem_kstar _)

theorem join_mem_grammarName {first others : List Char} (hfirst : first ∈ identifier)
    (hothers : others ∈ grammarName) : first ++ "::".toList ++ others ∈ grammarName := by
  obtain ⟨second, hsecond, rest, hrest, rfl⟩ := Language.mem_mul.mp hothers
  have hjoined : "::".toList ++ second ++ rest ∈ (sign "::" * identifier)∗ :=
    append_mem_kstar (Language.append_mem_mul rfl hsecond) hrest
  have hname : first ++ ("::".toList ++ second ++ rest) ∈ grammarName :=
    Language.append_mem_mul hfirst hjoined
  simpa using hname

/-- The name of a grammar is one identifier, or an identifier, `::` and the rest of the name. -/
@[elab_as_elim]
theorem grammarName_induction {motive : (w : List Char) → w ∈ grammarName → Prop}
    (identifier : ∀ w (hw : w ∈ identifier), motive w (identifier_mem_grammarName hw))
    (join : ∀ first others (hfirst : first ∈ Pattern.identifier) (hothers : others ∈ grammarName),
      motive others hothers →
      motive (first ++ "::".toList ++ others) (join_mem_grammarName hfirst hothers))
    (h : w ∈ grammarName) : motive w h := by
  obtain ⟨first, hfirst, others, hothers, rfl⟩ := Language.mem_mul.mp (id h)
  induction hothers using kstar_induction generalizing first with
  | nil =>
    have hone := identifier first hfirst
    simpa using hone
  | append a b ha hb ih =>
    obtain ⟨_, rfl, second, hsecond, rfl⟩ := Language.mem_mul.mp ha
    have hrest : second ++ b ∈ grammarName := Language.append_mem_mul hsecond hb
    have hjoin := join first (second ++ b) hfirst hrest (ih second hsecond hrest)
    simpa using hjoin

end Names

end Pattern

namespace Header

/-! ## Recognising a declaration -/

section Recognise

variable {cs name rest line : List Char}

theorem identifier?_eq_some_iff :
    identifier? cs = some (name, rest) ↔
      cs = name ++ rest ∧ name ∈ Pattern.identifier ∧ ∀ c ∈ rest.head?, ¬ Text.isIdentRest c := by
  rw [Pattern.mem_identifier]
  constructor
  · intro h
    cases cs with
    | nil => cases h
    | cons c cs =>
      simp only [identifier?] at h
      split_ifs at h with hc
      cases h
      refine ⟨?_, ⟨c, _, hc, fun d hd => List.mem_takeWhile_imp hd, rfl⟩,
        Pattern.head?_dropWhile _ cs⟩
      rw [List.cons_append, List.takeWhile_append_dropWhile]
  · rintro ⟨rfl, ⟨c, others, hc, hothers, rfl⟩, hrest⟩
    simp only [List.cons_append, identifier?, if_pos hc, Pattern.takeWhile_run hothers hrest,
      Pattern.dropWhile_run hothers hrest]

/-- A name ends at the semicolon after an identifier. -/
theorem grammarName?_of_semicolon (h : identifier? cs = some (name, ';' :: rest)) :
    grammarName? cs = some name := by
  rw [grammarName?]
  split <;> rename_i hread <;> rw [h] at hread <;> cases hread
  · rfl
  · next hother _ => exact absurd rfl (hother name rest)

/-- A name goes on with what follows two colons after an identifier. -/
theorem grammarName?_of_colons (h : identifier? cs = some (name, ':' :: ':' :: rest)) :
    grammarName? cs = (grammarName? rest).map (name ++ "::".toList ++ ·) := by
  rw [grammarName?]
  split <;> rename_i hread <;> rw [h] at hread <;> cases hread
  · rfl
  · next hother => exact absurd rfl (hother name rest)

/-- **The name of a grammar** is recognised up to the semicolon after it. -/
theorem grammarName?_eq_some_iff :
    grammarName? cs = some name ↔
      name ∈ Pattern.grammarName ∧ ∃ after, cs = name ++ ';' :: after := by
  constructor
  · intro h
    fun_induction grammarName? cs generalizing name with
    | case1 cs hnone => cases h
    | case2 cs first after hfirst =>
      cases h
      obtain ⟨rfl, hmem, -⟩ := identifier?_eq_some_iff.mp hfirst
      exact ⟨Pattern.identifier_mem_grammarName hmem, after, rfl⟩
    | case3 cs first rest hfirst ih =>
      obtain ⟨others, hothers, rfl⟩ := Option.map_eq_some_iff.mp h
      obtain ⟨rfl, hmem, -⟩ := identifier?_eq_some_iff.mp hfirst
      obtain ⟨hmem', after, rfl⟩ := ih hothers
      exact ⟨Pattern.join_mem_grammarName hmem hmem', after, by simp⟩
    | case4 => cases h
  · rintro ⟨hname, after, rfl⟩
    induction hname using Pattern.grammarName_induction with
    | identifier w hw =>
      refine grammarName?_of_semicolon (identifier?_eq_some_iff.mpr ⟨rfl, hw, ?_⟩)
      rintro c ⟨⟩
      decide
    | join first others hfirst _ ih =>
      have hread : identifier? (first ++ "::".toList ++ others ++ ';' :: after) =
          some (first, ':' :: ':' :: (others ++ ';' :: after)) := by
        refine identifier?_eq_some_iff.mpr ⟨by simp, hfirst, ?_⟩
        rintro c ⟨⟩
        decide
      rw [grammarName?_of_colons hread, ih, Option.map_some]

theorem grammar?_eq_some_iff :
    grammar? line = some name ↔ name ∈ Pattern.grammarName ∧
      ∃ after, line = "unit grammar ".toList ++ name ++ ';' :: after := by
  simp only [grammar?, Option.bind_eq_bind, Option.bind_eq_some_iff, Text.after?_eq_some_iff,
    grammarName?_eq_some_iff]
  constructor
  · rintro ⟨_, rfl, hname, after, rfl⟩
    exact ⟨hname, after, by simp⟩
  · rintro ⟨hname, after, rfl⟩
    exact ⟨name ++ ';' :: after, by simp, hname, after, rfl⟩

theorem actions?_eq_some_iff :
    actions? line = some name ↔ name ∈ Pattern.className ∧
      ∃ after, line = "unit class ".toList ++ name ++ " is Actions".toList ++ ';' :: after := by
  simp only [actions?, Option.bind_eq_bind, Option.bind_eq_some_iff, Text.after?_eq_some_iff,
    Pattern.mem_className, Option.pure_def, Option.some.injEq]
  constructor
  · rintro ⟨rest, rfl, ⟨⟩, hne, after, hafter, rfl⟩
    have hcut := List.takeWhile_append_dropWhile (p := isClassChar) (l := rest)
    rw [hafter] at hcut
    refine ⟨⟨by simpa [guard] using hne, fun c hc => List.mem_takeWhile_imp hc⟩, after, ?_⟩
    conv_lhs => rw [← hcut]
    simp
  · rintro ⟨⟨hne, hchars⟩, after, rfl⟩
    have hstop : ∀ c ∈ (" is Actions".toList ++ ';' :: after).head?, ¬ isClassChar c = true := by
      rintro c ⟨⟩
      decide
    refine ⟨name ++ (" is Actions".toList ++ ';' :: after), by simp, ?_⟩
    rw [Pattern.takeWhile_run hchars hstop, Pattern.dropWhile_run hchars hstop]
    exact ⟨(), by simp [hne], after, by simp, rfl⟩

end Recognise

/-! ## Forms of declarations -/

/-- The character may stand in a declaration. No such character begins a comment, a literal or a
range, and none ends a line or a declaration. -/
def isPlain (c : Char) : Bool :=
  isClassChar c || c == ' '

/-- **The form of a declaration**: what stands before the name, what may be a name, and what stands
between the name and the semicolon. -/
structure Form where
  /-- what stands before the name -/
  opening : String
  /-- the names -/
  names : Language Char
  /-- what stands between the name and the semicolon -/
  ending : String
  /-- all characters before the semicolon are plain -/
  plain : ∀ name ∈ names, ∀ c ∈ opening.toList ++ name ++ ending.toList, isPlain c

theorem isPlain_of_isIdentRest {c : Char} (h : Text.isIdentRest c) : isPlain c := by
  rw [Text.isIdentRest, Bool.or_eq_true] at h
  rcases h with h | h <;> simp [isPlain, isClassChar, h]

theorem isPlain_of_mem_identifier {name : List Char} (h : name ∈ Pattern.identifier) :
    ∀ c ∈ name, isPlain c := by
  obtain ⟨c, rest, hc, hrest, rfl⟩ := Pattern.mem_identifier.mp h
  refine List.forall_mem_cons.mpr ⟨isPlain_of_isIdentRest ?_, ?_⟩
  · exact Pattern.isIdentRest_of_isIdentStart hc
  · exact fun d hd => isPlain_of_isIdentRest (hrest d hd)

theorem isPlain_of_mem_grammarName {name : List Char} (h : name ∈ Pattern.grammarName) :
    ∀ c ∈ name, isPlain c := by
  induction h using Pattern.grammarName_induction with
  | identifier w hw => exact isPlain_of_mem_identifier hw
  | join first others hfirst _ ih =>
    have hcolons := List.all_eq_true.mp (by decide : "::".toList.all isPlain = true)
    simp only [List.forall_mem_append]
    exact ⟨⟨isPlain_of_mem_identifier hfirst, hcolons⟩, ih⟩

namespace Form

/-- The declaration of a grammar. -/
def grammar : Form where
  opening := "unit grammar "
  names := Pattern.grammarName
  ending := ""
  plain := by
    intro name hname
    have hopening := List.all_eq_true.mp (by decide : "unit grammar ".toList.all isPlain = true)
    simp only [List.forall_mem_append]
    exact ⟨⟨hopening, isPlain_of_mem_grammarName hname⟩, List.forall_mem_nil _⟩

/-- The declaration of an action class. -/
def actions : Form where
  opening := "unit class "
  names := Pattern.className
  ending := " is Actions"
  plain := by
    intro name hname
    have hopening := List.all_eq_true.mp (by decide : "unit class ".toList.all isPlain = true)
    have hending := List.all_eq_true.mp (by decide : " is Actions".toList.all isPlain = true)
    simp only [List.forall_mem_append]
    refine ⟨⟨hopening, fun c hc => ?_⟩, hending⟩
    simp [isPlain, (Pattern.mem_className.mp hname).2 c hc]

/-- A declaration up to its semicolon. -/
def written (form : Form) (name : List Char) : List Char :=
  form.opening.toList ++ name ++ form.ending.toList

/-- **A line declares `name`**: behind `before` a line of the text starts, and it begins with a
declaration of the form. -/
structure Declares (form : Form) (cs before name : List Char) : Prop where
  /-- a line starts there -/
  endsLine : Text.EndsLine before
  /-- the name is one of the form's names -/
  name_mem : name ∈ form.names
  /-- the declaration stands there -/
  begins : ∃ after, cs = before ++ (form.written name ++ ';' :: after)

variable {form : Form} {cs before name : List Char}

theorem newline_notMem_written (h : name ∈ form.names) : '\n' ∉ form.written name :=
  fun hmem => absurd (form.plain name h _ hmem) (by decide)

/-- A line declares a name exactly if a recogniser of the form finds it on that line. -/
theorem exists_mem_lines_iff {text : String} {recognise : List Char → Option (List Char)}
    (hrecognise : ∀ {line name}, recognise line = some name ↔
      name ∈ form.names ∧ ∃ after, line = form.written name ++ ';' :: after) :
    (∃ line ∈ Text.lines text, recognise line.chars = some name) ↔
      ∃ before, form.Declares text.toList before name := by
  simp only [Text.mem_lines_iff, hrecognise]
  constructor
  · rintro ⟨_, ⟨before, rest, hcut, hbefore, rfl⟩, hname, after, hline⟩
    refine ⟨before, hbefore, hname, after ++ rest.dropWhile (· != '\n'), ?_⟩
    calc text.toList = before ++ rest := hcut
      _ = before ++ (rest.takeWhile (· != '\n') ++ rest.dropWhile (· != '\n')) := by
          rw [List.takeWhile_append_dropWhile]
      _ = before ++ (form.written name ++ ';' :: after ++ rest.dropWhile (· != '\n')) := by
          rw [← hline]
      _ = _ := by simp
  · rintro ⟨before, hbefore, hname, after, hcut⟩
    refine ⟨_, ⟨before, form.written name ++ ';' :: after, hcut, hbefore, rfl⟩, hname,
      after.takeWhile (· != '\n'), ?_⟩
    have hline : ∀ c ∈ form.written name, (c != '\n') = true := by
      intro c hc
      rw [bne_iff_ne]
      rintro rfl
      exact newline_notMem_written hname hc
    dsimp only
    rw [List.takeWhile_append_of_pos hline, List.takeWhile_cons_of_pos (by decide)]

end Form

/-! ## Detection -/

theorem any_lines_iff {form : Form} {text : String} {recognise : List Char → Option (List Char)}
    (hrecognise : ∀ {line name}, recognise line = some name ↔
      name ∈ form.names ∧ ∃ after, line = form.written name ++ ';' :: after) :
    ((Text.lines text).any fun line => (recognise line.chars).isSome) = true ↔
      ∃ before name, form.Declares text.toList before name := by
  rw [exists_comm]
  simp only [← Form.exists_mem_lines_iff hrecognise, List.any_eq_true, Option.isSome_iff_exists]
  constructor
  · rintro ⟨line, hline, name, hname⟩
    exact ⟨name, line, hline, hname⟩
  · rintro ⟨name, line, hline, hname⟩
    exact ⟨line, hline, name, hname⟩

theorem any_grammar?_iff {text : String} :
    ((Text.lines text).any fun line => (grammar? line.chars).isSome) = true ↔
      ∃ before name, Form.grammar.Declares text.toList before name := by
  refine any_lines_iff ?_
  intro line name
  rw [grammar?_eq_some_iff]
  simp [Form.written, Form.grammar]

theorem any_actions?_iff {text : String} :
    ((Text.lines text).any fun line => (actions? line.chars).isSome) = true ↔
      ∃ before name, Form.actions.Declares text.toList before name :=
  any_lines_iff actions?_eq_some_iff

theorem kind?_eq_grammar_iff {text : String} :
    kind? text = some .grammar ↔ ∃ before name, Form.grammar.Declares text.toList before name := by
  rw [← any_grammar?_iff, kind?]
  split_ifs with hgrammar <;> simp [hgrammar]

theorem kind?_eq_action_iff {text : String} :
    kind? text = some .action ↔
      (¬ ∃ before name, Form.grammar.Declares text.toList before name) ∧
        ∃ before name, Form.actions.Declares text.toList before name := by
  rw [← any_grammar?_iff, ← any_actions?_iff, kind?]
  split_ifs with hgrammar hactions <;> simp_all

end Header

end FanServer
