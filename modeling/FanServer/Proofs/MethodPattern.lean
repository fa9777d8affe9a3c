import FanServer.Proofs.Declaration

/-!
# Methods by their pattern

A line declares a method if it matches a regular expression as a whole, and the name of the method
is the part of the line that stands in the place of the name. The program does not search for such a
part: it takes the parts of the line one by one, each **as long as it can be**, and the end of the
line backwards. Nothing is lost by that, because no part can begin with a character that may
continue the part before it.

* `Pattern.methodOpening`, `Pattern.methodName`, `Pattern.methodRest` — the parts of the pattern;
* `Method.Declares` — a line matches, with a name behind some opening;
* `Method.declared?_eq_some_iff` — the program finds exactly that, so a line has one name at most;
* `Method.DeclaredAt` — a method as it ought to be listed for its line.

Main result: `Method.ofText_lists_declarations`.
-/

open Computability

namespace FanServer

/-! ## The pattern of a declaration -/

namespace Pattern

/-- A blank between the parts of a declaration. -/
def gap : Language Char :=
  one (· ∈ " \t".toList)

/-- What stands before the name of a method: the word `method`, which may be indented, and gaps. -/
def methodOpening : Language Char :=
  gap∗ * sign "method" * (gap * gap∗)

/-- The name of a method: letters, digits, `_` and `-`, at least one. -/
def methodName : Language Char :=
  one (fun c => 'A' ≤ c ∧ c ≤ 'Z' ∨ 'a' ≤ c ∧ c ≤ 'z' ∨ '0' ≤ c ∧ c ≤ '9' ∨ c = '_' ∨ c = '-') *
    (one fun c => 'A' ≤ c ∧ c ≤ 'Z' ∨ 'a' ≤ c ∧ c ≤ 'z' ∨ '0' ≤ c ∧ c ≤ '9' ∨ c = '_' ∨ c = '-')∗

/-- What follows the parenthesis that opens the signature: any text, the parenthesis that closes the
signature, and the brace that opens the body, with a carriage return at most at the end. -/
def methodEnding : Language Char :=
  (one fun _ => True)∗ * sign ")" * gap∗ * sign "\x7b" * gap∗ * (1 + sign "\r")

/-- What follows the name of a method. -/
def methodRest : Language Char :=
  gap∗ * sign "(" * methodEnding

section Parts

variable {c : Char} {w : List Char}

theorem isGap_iff : Method.isGap c = true ↔ c ∈ " \t".toList := by
  simp [Method.isGap]

theorem isNameChar_iff :
    Method.isNameChar c = true ↔
      'A' ≤ c ∧ c ≤ 'Z' ∨ 'a' ≤ c ∧ c ≤ 'z' ∨ '0' ≤ c ∧ c ≤ '9' ∨ c = '_' ∨ c = '-' := by
  simp only [Method.isNameChar, isAlphanum_iff, Bool.or_eq_true, beq_iff_eq]
  tauto

theorem mem_gaps : w ∈ gap∗ ↔ ∀ c ∈ w, Method.isGap c := by
  simp only [gap, mem_kstar_one, isGap_iff]

theorem mem_gap_gaps : w ∈ gap * gap∗ ↔ w ≠ [] ∧ ∀ c ∈ w, Method.isGap c := by
  simp only [gap, mem_one_mul_kstar, isGap_iff]

theorem mem_methodOpening :
    w ∈ methodOpening ↔ ∃ indent gaps : List Char, (∀ c ∈ indent, Method.isGap c) ∧
      gaps ≠ [] ∧ (∀ c ∈ gaps, Method.isGap c) ∧ w = indent ++ "method".toList ++ gaps := by
  refine ⟨fun h => ?_, ?_⟩
  · obtain ⟨_, ⟨indent, hindent, _, rfl, rfl⟩, gaps, hgaps, rfl⟩ := h
    obtain ⟨hne, hgaps⟩ := mem_gap_gaps.mp hgaps
    exact ⟨indent, gaps, mem_gaps.mp hindent, hne, hgaps, rfl⟩
  · rintro ⟨indent, gaps, hindent, hne, hgaps, rfl⟩
    have hword : indent ++ "method".toList ∈ gap∗ * sign "method" :=
      Language.append_mem_mul (mem_gaps.mpr hindent) rfl
    exact Language.append_mem_mul hword (mem_gap_gaps.mpr ⟨hne, hgaps⟩)

theorem mem_methodName : w ∈ methodName ↔ w ≠ [] ∧ ∀ c ∈ w, Method.isNameChar c := by
  simp only [methodName, mem_one_mul_kstar, isNameChar_iff]

theorem mem_methodEnding :
    w ∈ methodEnding ↔ ∃ signature gaps gaps' cr : List Char, (∀ c ∈ gaps, Method.isGap c) ∧
      (∀ c ∈ gaps', Method.isGap c) ∧ (cr = [] ∨ cr = ['\r']) ∧
      w = signature ++ ')' :: gaps ++ '\x7b' :: gaps' ++ cr := by
  simp only [methodEnding, Language.mem_mul, mem_sign, mem_gaps, Language.mem_add, Language.mem_one]
  refine ⟨?_, ?_⟩
  · rintro ⟨_, ⟨_, ⟨_, ⟨_, ⟨signature, -, _, rfl, rfl⟩, gaps, hgaps, rfl⟩, _, rfl, rfl⟩, gaps',
      hgaps', rfl⟩, cr, hcr, rfl⟩
    exact ⟨signature, gaps, gaps', cr, hgaps, hgaps', hcr, by simp⟩
  · rintro ⟨signature, gaps, gaps', cr, hgaps, hgaps', hcr, rfl⟩
    exact ⟨_, ⟨_, ⟨_, ⟨_, ⟨signature, mem_kstar_one.mpr fun _ _ => trivial, _, rfl, rfl⟩, gaps,
      hgaps, rfl⟩, _, rfl, rfl⟩, gaps', hgaps', rfl⟩, cr, hcr, by simp⟩

theorem mem_methodRest :
    w ∈ methodRest ↔ ∃ gaps ending : List Char, (∀ c ∈ gaps, Method.isGap c) ∧
      ending ∈ methodEnding ∧ w = gaps ++ '(' :: ending := by
  simp only [methodRest, Language.mem_mul, mem_sign, mem_gaps]
  refine ⟨?_, ?_⟩
  · rintro ⟨_, ⟨gaps, hgaps, _, rfl, rfl⟩, ending, hending, rfl⟩
    exact ⟨gaps, ending, hgaps, hending, by simp⟩
  · rintro ⟨gaps, ending, hgaps, hending, rfl⟩
    exact ⟨_, ⟨gaps, hgaps, _, rfl, rfl⟩, ending, hending, by simp⟩

end Parts

end Pattern

namespace Method

/-! ## The end of a line, read backwards -/

section Ending

variable {cs : List Char}

/-- Without a carriage return, the end of a declaration is a brace and a parenthesis before it. -/
theorem closesReversed_iff_of_ne (hcs : cs.head? ≠ some '\r') :
    closesReversed cs = true ↔ ∃ gaps gaps' signature : List Char, (∀ c ∈ gaps, isGap c) ∧
      (∀ c ∈ gaps', isGap c) ∧ cs = gaps ++ '\x7b' :: (gaps' ++ ')' :: signature) := by
  refine ⟨fun h => ?_, ?_⟩
  · unfold closesReversed at h
    split at h
    · exact absurd rfl hcs
    · dsimp only at h
      split at h
      · next brace rest hbrace =>
        rw [Bool.and_eq_true, beq_iff_eq] at h
        obtain ⟨rfl, h⟩ := h
        split at h
        · next parenthesis signature hparenthesis =>
          obtain rfl := beq_iff_eq.mp h
          refine ⟨cs.takeWhile isGap, rest.takeWhile isGap, signature,
            fun c hc => List.mem_takeWhile_imp hc, fun c hc => List.mem_takeWhile_imp hc, ?_⟩
          rw [← hparenthesis, List.takeWhile_append_dropWhile, ← hbrace,
            List.takeWhile_append_dropWhile]
        · cases h
      · cases h
  · rintro ⟨gaps, gaps', signature, hgaps, hgaps', rfl⟩
    have hbrace : (gaps ++ '\x7b' :: (gaps' ++ ')' :: signature)).dropWhile isGap =
        '\x7b' :: (gaps' ++ ')' :: signature) := by
      refine Pattern.dropWhile_run hgaps ?_
      rintro c ⟨⟩
      decide
    have hparenthesis : (gaps' ++ ')' :: signature).dropWhile isGap = ')' :: signature := by
      refine Pattern.dropWhile_run hgaps' ?_
      rintro c ⟨⟩
      decide
    unfold closesReversed
    split
    · next heq =>
      rw [heq] at hcs
      exact absurd rfl hcs
    · simp only [hbrace, hparenthesis, beq_self_eq_true, Bool.and_self]

/-- One carriage return may stand at the end, and no second one. -/
theorem closesReversed_return_iff :
    closesReversed ('\r' :: cs) = true ↔ cs.head? ≠ some '\r' ∧ closesReversed cs = true := by
  by_cases hcs : cs.head? = some '\r'
  · obtain ⟨rest, rfl⟩ := List.head?_eq_some_iff.mp hcs
    simp [closesReversed, isGap]
  · have hsame : closesReversed ('\r' :: cs) = closesReversed cs := by
      conv_rhs => unfold closesReversed
      split
      · exact absurd rfl hcs
      · rfl
    rw [hsame]
    exact (and_iff_right hcs).symm

theorem closesReversed_iff :
    closesReversed cs = true ↔ ∃ cr gaps gaps' signature : List Char, (cr = [] ∨ cr = ['\r']) ∧
      (∀ c ∈ gaps, isGap c) ∧ (∀ c ∈ gaps', isGap c) ∧
      cs = cr ++ (gaps ++ '\x7b' :: (gaps' ++ ')' :: signature)) := by
  refine ⟨fun h => ?_, ?_⟩
  · by_cases hcs : cs.head? = some '\r'
    · obtain ⟨body, rfl⟩ := List.head?_eq_some_iff.mp hcs
      obtain ⟨hbody, h⟩ := closesReversed_return_iff.mp h
      obtain ⟨gaps, gaps', signature, hgaps, hgaps', rfl⟩ := (closesReversed_iff_of_ne hbody).mp h
      exact ⟨['\r'], gaps, gaps', signature, .inr rfl, hgaps, hgaps', rfl⟩
    · obtain ⟨gaps, gaps', signature, hgaps, hgaps', rfl⟩ := (closesReversed_iff_of_ne hcs).mp h
      exact ⟨[], gaps, gaps', signature, .inl rfl, hgaps, hgaps', rfl⟩
  · rintro ⟨cr, gaps, gaps', signature, hcr, hgaps, hgaps', rfl⟩
    have hhead : (gaps ++ '\x7b' :: (gaps' ++ ')' :: signature)).head? ≠ some '\r' := by
      cases gaps with
      | nil => simp
      | cons c gaps =>
        rintro ⟨⟩
        exact absurd (hgaps '\r' List.mem_cons_self) (by decide)
    have hbare := (closesReversed_iff_of_ne hhead).mpr ⟨gaps, gaps', signature, hgaps, hgaps', rfl⟩
    rcases hcr with rfl | rfl
    · exact hbare
    · exact closesReversed_return_iff.mpr ⟨hhead, hbare⟩

/-- **The end of a declaration is recognised backwards.** -/
theorem closesReversed_reverse_iff :
    closesReversed cs.reverse = true ↔ cs ∈ Pattern.methodEnding := by
  rw [closesReversed_iff, Pattern.mem_methodEnding]
  refine ⟨?_, ?_⟩
  · rintro ⟨cr, gaps, gaps', signature, hcr, hgaps, hgaps', hcs⟩
    refine ⟨signature.reverse, gaps'.reverse, gaps.reverse, cr, ?_, ?_, hcr, ?_⟩
    · exact fun c hc => hgaps' c (List.mem_reverse.mp hc)
    · exact fun c hc => hgaps c (List.mem_reverse.mp hc)
    · rw [List.reverse_eq_iff.mp hcs]
      rcases hcr with rfl | rfl <;> simp
  · rintro ⟨signature, gaps, gaps', cr, hgaps, hgaps', hcr, rfl⟩
    refine ⟨cr, gaps'.reverse, gaps.reverse, signature.reverse, hcr, ?_, ?_, ?_⟩
    · exact fun c hc => hgaps' c (List.mem_reverse.mp hc)
    · exact fun c hc => hgaps c (List.mem_reverse.mp hc)
    · rcases hcr with rfl | rfl <;> simp

end Ending

/-! ## A line with a declaration -/

/-- **The line declares a method**: behind `before` stands its name, and the rest of the line is
what may follow a name. -/
structure Declares (line before name : List Char) : Prop where
  /-- the word `method` stands before the name -/
  opening : before ∈ Pattern.methodOpening
  /-- the name is one of a method -/
  name_mem : name ∈ Pattern.methodName
  /-- the line goes on with a signature and the beginning of a body -/
  line_eq : ∃ rest ∈ Pattern.methodRest, line = before ++ name ++ rest

section Line

variable {line before name : List Char}

theorem not_isGap_of_isNameChar {c : Char} (h : isNameChar c = true) : ¬ isGap c = true := by
  intro hgap
  rw [isGap, Bool.or_eq_true, beq_iff_eq, beq_iff_eq] at hgap
  obtain rfl | rfl := hgap
  · exact absurd h (by decide)
  · exact absurd h (by decide)

/-- A name ends where the rest of the declaration begins. -/
theorem not_isNameChar_of_mem_methodRest {rest : List Char} (h : rest ∈ Pattern.methodRest) :
    ∀ c ∈ rest.head?, ¬ isNameChar c = true := by
  obtain ⟨gaps, ending, hgaps, -, rfl⟩ := Pattern.mem_methodRest.mp h
  rintro c hc hname
  cases gaps with
  | nil =>
    obtain rfl : c = '(' := by simpa using hc.symm
    exact absurd hname (by decide)
  | cons d gaps =>
    obtain rfl : c = d := by simpa using hc.symm
    exact not_isGap_of_isNameChar hname (hgaps c List.mem_cons_self)

theorem declares_of_declared? (h : declared? line = some (before, name)) :
    Declares line before name := by
  obtain ⟨indent, gaps, gaps', ending, rfl, hindent, hgaps_ne, hgaps, hname_ne, hchars, hgaps',
    hending, hline⟩ := exists_of_declared? h
  refine ⟨?_, ?_, gaps' ++ '(' :: ending, ?_, hline⟩
  · exact Pattern.mem_methodOpening.mpr ⟨indent, gaps, hindent, hgaps_ne, hgaps, rfl⟩
  · exact Pattern.mem_methodName.mpr ⟨hname_ne, hchars⟩
  · exact Pattern.mem_methodRest.mpr
      ⟨gaps', ending, hgaps', closesReversed_reverse_iff.mp hending, rfl⟩

theorem Declares.declared?_eq (h : Declares line before name) :
    declared? line = some (before, name) := by
  obtain ⟨hopening, hname, rest, hrest, rfl⟩ := h
  have hstop := not_isNameChar_of_mem_methodRest hrest
  obtain ⟨indent, gaps, hindent, hgaps_ne, hgaps, rfl⟩ := Pattern.mem_methodOpening.mp hopening
  obtain ⟨hname_ne, hchars⟩ := Pattern.mem_methodName.mp hname
  obtain ⟨gaps', ending, hgaps', hending, rfl⟩ := Pattern.mem_methodRest.mp hrest
  -- each part is taken whole, for the next one does not go on with it
  have hword : ∀ c ∈ ("method".toList ++ (gaps ++ (name ++ (gaps' ++ '(' :: ending)))).head?,
      ¬ isGap c = true := by
    rintro c ⟨⟩
    decide
  have hbegin : ∀ c ∈ (name ++ (gaps' ++ '(' :: ending)).head?, ¬ isGap c = true := by
    obtain ⟨first, others, rfl⟩ := List.exists_cons_of_ne_nil hname_ne
    rintro c ⟨⟩
    exact not_isGap_of_isNameChar (hchars first List.mem_cons_self)
  have hopen : ∀ c ∈ ('(' :: ending).head?, ¬ isGap c = true := by
    rintro c ⟨⟩
    decide
  have hafter : Text.after? "method".toList
      ("method".toList ++ (gaps ++ (name ++ (gaps' ++ '(' :: ending)))) =
        some (gaps ++ (name ++ (gaps' ++ '(' :: ending))) := Text.after?_eq_some_iff.mpr rfl
  have hcloses := closesReversed_reverse_iff.mpr hending
  simp only [declared?, List.append_assoc, Pattern.takeWhile_run hindent hword,
    Pattern.dropWhile_run hindent hword, hafter, Option.bind_eq_bind, Option.bind_some,
    Pattern.takeWhile_run hgaps hbegin, Pattern.dropWhile_run hgaps hbegin,
    Pattern.takeWhile_run hchars hstop, Pattern.dropWhile_run hchars hstop,
    Pattern.dropWhile_run hgaps' hopen]
  simp [guard, hgaps_ne, hname_ne, hcloses]

/-- **The program finds the name of a declaration**, and finds none elsewhere. -/
theorem declared?_eq_some_iff :
    declared? line = some (before, name) ↔ Declares line before name :=
  ⟨declares_of_declared?, Declares.declared?_eq⟩

/-- A line declares one method at most. -/
theorem Declares.unique {before' name' : List Char} (h : Declares line before name)
    (h' : Declares line before' name') : before = before' ∧ name = name' := by
  have heq := h.declared?_eq.symm.trans h'.declared?_eq
  rwa [Option.some.injEq, Prod.mk.injEq] at heq

end Line

/-- The line declares a method. -/
def IsDeclaration (line : List Char) : Prop :=
  ∃ before name, Declares line before name

theorem isSome_declared?_iff {line : List Char} :
    (declared? line).isSome = true ↔ IsDeclaration line := by
  rw [Option.isSome_iff_exists, Prod.exists]
  simp only [declared?_eq_some_iff]
  rfl

instance (line : List Char) : Decidable (IsDeclaration line) :=
  decidable_of_iff _ isSome_declared?_iff

/-! ## The methods of a text -/

/-- **A method as its line declares it**: it has the name on the line, and its span is where that
name stands in the text. -/
structure DeclaredBy (text : String) (line : Text.Line) (method : Method) : Prop where
  /-- the name is the one that the line declares, and the span is its place on the line -/
  declares : ∃ before, Declares line.chars before method.name.toList ∧
    method.span = ⟨line.start + Text.byteCount before,
      line.start + Text.byteCount before + Text.byteCount method.name.toList⟩
  /-- at the span, the text reads the name -/
  slice : Text.slice? text.toList method.span = some method.name.toList

section Text

variable {text : String} {line : Text.Line} {method : Method}

theorem declaredBy_of_ofLine? (hline : line ∈ Text.lines text) (h : ofLine? line = some method) :
    DeclaredBy text line method := by
  obtain ⟨⟨before, name⟩, hdeclared, rfl⟩ := Option.map_eq_some_iff.mp h
  have hdeclares := declares_of_declared? hdeclared
  obtain ⟨after, -, hchars⟩ := hdeclares.line_eq
  obtain ⟨above, below, hcut, hstart⟩ := Text.exists_of_mem_lines hline
  have htext : text.toList = (above ++ before) ++ name ++ (after ++ below) := by
    rw [hcut, hchars]
    simp only [List.append_assoc]
  refine ⟨⟨before, ?_, ?_⟩, ?_⟩
  · rwa [String.toList_ofList]
  · rw [String.toList_ofList]
  · have hslice := Text.slice?_append (above ++ before) name (after ++ below)
    rw [← htext, Text.byteCount_append, ← hstart] at hslice
    rw [String.toList_ofList]
    exact hslice

theorem DeclaredBy.start_lt_stop (h : DeclaredBy text line method) :
    method.span.start < method.span.stop := by
  obtain ⟨before, hdeclares, hspan⟩ := h.declares
  have hpos := Text.byteCount_pos (Pattern.mem_methodName.mp hdeclares.name_mem).1
  rw [hspan]
  exact Nat.lt_add_of_pos_right hpos

theorem ofLine?_eq_none (h : ¬ IsDeclaration line.chars) : ofLine? line = none := by
  rw [← isSome_declared?_iff, Option.not_isSome_iff_eq_none] at h
  rw [ofLine?, h, Option.map_none]

theorem exists_ofLine? (h : IsDeclaration line.chars) : ∃ method, ofLine? line = some method := by
  obtain ⟨before, name, hdeclares⟩ := h
  rw [ofLine?, hdeclares.declared?_eq]
  exact ⟨_, rfl⟩

/-- Line by line, there is one method for each declaration. -/
theorem forall₂_declaredBy {lines : List Text.Line}
    (hlines : ∀ line ∈ lines, line ∈ Text.lines text) :
    List.Forall₂ (DeclaredBy text) (lines.filter fun line => IsDeclaration line.chars)
      (lines.filterMap ofLine?) := by
  induction lines with
  | nil => exact .nil
  | cons line lines ih =>
    obtain ⟨hline, hlines⟩ := List.forall_mem_cons.mp hlines
    by_cases h : IsDeclaration line.chars
    · obtain ⟨method, hmethod⟩ := exists_ofLine? h
      rw [List.filter_cons_of_pos (by simpa using h), List.filterMap_cons_some hmethod]
      exact .cons (declaredBy_of_ofLine? hline hmethod) (ih hlines)
    · rw [List.filter_cons_of_neg (by simpa using h), List.filterMap_cons_none (ofLine?_eq_none h)]
      exact ih hlines

end Text

/-- **The methods of a text are the declarations on its lines.** In order, there is one for each
line that matches the pattern and there is no other, each with the name on its line and the place of
that name. The name is the only one that the line can be read to declare. The places come one behind
the other with something between them, so no offset lies on two of them, not even at their ends; and
the method at an offset is the one on whose name the offset lies, if there is one. -/
theorem ofText_lists_declarations (text : String) :
    List.Forall₂ (DeclaredBy text)
        ((Text.lines text).filter fun line => IsDeclaration line.chars) (ofText text) ∧
      (∀ line ∈ Text.lines text, ∀ before name before' name', Declares line.chars before name →
        Declares line.chars before' name' → before = before' ∧ name = name') ∧
      (∀ method ∈ ofText text, method.span.start < method.span.stop) ∧
      ((ofText text).Pairwise fun method next => method.span.stop < next.span.start) ∧
      ((ofText text).Pairwise fun method next =>
        ∀ offset, ¬ (method.span.contains offset ∧ next.span.contains offset)) ∧
      ∀ (name : String) (span : Span) (offset : Nat) (method : Method),
        Actions.methodAt? ⟨name, span, ofText text⟩ offset = some method ↔
          method ∈ ofText text ∧ method.span.contains offset := by
  have happart := pairwise_ofText text
  refine ⟨forall₂_declaredBy fun _ hline => hline, ?_, ?_, happart, ?_, ?_⟩
  · intro line _ before name before' name' h h'
    exact h.unique h'
  · intro method hmethod
    obtain ⟨line, hline, hmethod⟩ := List.mem_filterMap.mp hmethod
    exact (declaredBy_of_ofLine? hline hmethod).start_lt_stop
  · refine happart.imp fun hlt offset hboth => ?_
    rw [Span.contains_iff, Span.contains_iff] at hboth
    omega
  · intro name span offset method
    exact Actions.methodAt?_eq_some_iff rfl

/-- A text with two declarations: one is indented, with parentheses and a brace inside its signature
and a carriage return at its end; the other comes after a line with something behind the brace. -/
def signatureText : String :=
  "\tmethod m-1 (f(x) \x7b) \x7b\r\nmethod n() \x7b 1 \x7d\nmethod o()\x7b"

/-- The first line can be read in one way only, and right behind its name the method is found. -/
theorem ofText_lists_declarations_of_signature :
    ⟨0, "\tmethod m-1 (f(x) \x7b) \x7b\r".toList⟩ ∈ Text.lines signatureText ∧
      Declares "\tmethod m-1 (f(x) \x7b) \x7b\r".toList "\tmethod ".toList "m-1".toList ∧
      (∀ before name, Declares "\tmethod m-1 (f(x) \x7b) \x7b\r".toList before name →
        "\tmethod ".toList = before ∧ "m-1".toList = name) ∧
      ofText signatureText = [⟨"m-1", ⟨8, 11⟩⟩, ⟨"o", ⟨48, 49⟩⟩] ∧
      Actions.methodAt? ⟨"A", ⟨0, 52⟩, ofText signatureText⟩ 11 = some ⟨"m-1", ⟨8, 11⟩⟩ := by
  have hline : ⟨0, "\tmethod m-1 (f(x) \x7b) \x7b\r".toList⟩ ∈ Text.lines signatureText := by
    decide +kernel
  have hmethods : ofText signatureText = [⟨"m-1", ⟨8, 11⟩⟩, ⟨"o", ⟨48, 49⟩⟩] := by decide +kernel
  have hdeclares : Declares "\tmethod m-1 (f(x) \x7b) \x7b\r".toList "\tmethod ".toList
      "m-1".toList := declared?_eq_some_iff.mp (by decide +kernel)
  obtain ⟨-, hunique, -, -, -, hfound⟩ := ofText_lists_declarations signatureText
  refine ⟨hline, hdeclares, ?_, hmethods, ?_⟩
  · exact fun before name h => hunique _ hline _ _ before name hdeclares h
  · refine (hfound "A" ⟨0, 52⟩ 11 _).mpr ⟨?_, by decide⟩
    rw [hmethods]
    exact List.mem_cons_self

end Method

end FanServer
