import FanServer.Proofs.Locate

/-!
# References and the offsets they are found at

A reference is reported by walking through a grammar, and asked about by an offset. The walk goes
into every element, also into the one in a separator. The search for the node at an offset takes a
separator **as one node**, which names what its element refers to. So the two agree on

* a reference that no separator is around (`Rule.Shows`, through parts alone);
* a reference that is itself the element in a separator;

and they differ on a reference inside a group in a separator (`Rule.Hides`): there the search comes
to the separator, which names nothing. A reference is one or the other, because the element in a
separator has no repetition of its own (`Rule.Spelled`).

Main results: `Grammar.name_at_reference` and `Grammar.reference_may_be_out_of_reach`.
-/

open FanServer.Derivation

namespace FanServer

/-! ## The walk -/

namespace Rule

variable {rule inner : Rule}

theorem mem_walkAll {rules : List Rule} :
    inner ∈ walkAll rules ↔ ∃ rule ∈ rules, inner ∈ rule.walk := by
  induction rules with
  | nil => simp [walkAll]
  | cons rule rules ih => rw [walkAll, List.mem_append, ih, List.exists_mem_cons_iff]

/-- The walk visits the element, what is in its parts, and what is in its separator. -/
theorem mem_walk_iff :
    inner ∈ rule.walk ↔ inner = rule ∨ (∃ part ∈ rule.parts, inner ∈ part.walk) ∨
      ∃ clause ∈ rule.separator?, inner ∈ clause.rule.walk := by
  obtain ⟨kind, span, quantifier⟩ := rule
  have hkind : inner ∈ walkKind kind ↔
      ∃ part ∈ Rule.parts ⟨kind, span, quantifier⟩, inner ∈ part.walk := by
    cases kind with
    | sequence parts => exact mem_walkAll
    | _ => simp [walkKind, Rule.parts]
  have hquantifier : inner ∈ walkQuantifier quantifier ↔
      ∃ clause ∈ Rule.separator? ⟨kind, span, quantifier⟩, inner ∈ clause.rule.walk := by
    rcases quantifier with _ | ⟨span, range, _ | ⟨span', marker, rule⟩⟩
    · simp [walkQuantifier, separator?]
    · simp [walkQuantifier, separator?]
    · simp [walkQuantifier, separator?]
  rw [walk, List.mem_cons, List.mem_append, hkind, hquantifier]

theorem mem_walk_self : rule ∈ rule.walk :=
  mem_walk_iff.mpr (.inl rfl)

theorem mem_walk_of_part {part : Rule} (hpart : part ∈ rule.parts) (h : inner ∈ part.walk) :
    inner ∈ rule.walk :=
  mem_walk_iff.mpr (.inr (.inl ⟨part, hpart, h⟩))

theorem mem_walk_of_separator {clause : Separator} (hclause : clause ∈ rule.separator?)
    (h : inner ∈ clause.rule.walk) : inner ∈ rule.walk :=
  mem_walk_iff.mpr (.inr (.inr ⟨clause, hclause, h⟩))

/-- What holds throughout an element holds throughout each element that the walk visits. -/
theorem Throughout.of_mem_walk {P : Rule → Prop} (h : rule.Throughout P) :
    ∀ inner ∈ rule.walk, inner.Throughout P := by
  induction h with
  | @intro rule self parts separator ihparts ihseparator =>
    intro inner hinner
    rcases mem_walk_iff.mp hinner with rfl | ⟨part, hpart, hinner⟩ | ⟨clause, hclause, hinner⟩
    · exact .intro self parts separator
    · exact ihparts part hpart inner hinner
    · exact ihseparator clause hclause inner hinner

/-- Each element that the walk visits lies within the element it begins with. -/
theorem Throughout.encloses_walk {cs : List Char} (h : rule.Throughout (Placed cs)) :
    ∀ inner ∈ rule.walk, rule.span.encloses inner.span := by
  induction h with
  | @intro rule self parts separator ihparts ihseparator =>
    intro inner hinner
    rcases mem_walk_iff.mp hinner with rfl | ⟨part, hpart, hinner⟩ | ⟨clause, hclause, hinner⟩
    · exact Span.encloses_refl _
    · exact Span.encloses_trans (self.encloses part hpart) (ihparts part hpart inner hinner)
    · obtain ⟨_, -, -, hseparator⟩ := self.exists_quantifier hclause
      exact Span.encloses_trans (self.encloses_separator hclause)
        (Span.encloses_trans hseparator.encloses (ihseparator clause hclause inner hinner))

end Rule

/-! ## How references are spelled -/

namespace Rule

/-- Where the element ends, its repetition apart. -/
def bodyStop (rule : Rule) : Nat :=
  (rule.quantifier.map fun quantifier => quantifier.span.start).getD rule.span.stop

/-- A reference is as long as its modifiers and its target, and the element in a separator is not
repeated. -/
structure Spelled (rule : Rule) : Prop where
  /-- a reference ends behind its modifiers and its target -/
  reference : ∀ target modifiers, rule.kind = .reference target modifiers →
    rule.span.start + Text.byteCount modifiers.toList + Text.byteCount target.toList = rule.bodyStop
  /-- the element in the separator is not repeated -/
  separator : ∀ clause ∈ rule.separator?, clause.rule.quantifier = none

end Rule

namespace Derivation

@[simp]
theorem Term.quantifier_rule (term : Term) : term.rule.quantifier = none := by
  cases term <;> rfl

/-- A term that is a reference is a word. -/
theorem Term.stop_of_reference {cs : List Char} {term : Term} (hvalid : term.Valid)
    (hstands : ∀ t ∈ term.tokens, t.StandsIn cs) {target modifiers : String}
    (hkind : term.rule.kind = .reference target modifiers) :
    term.rule.span.start + Text.byteCount modifiers.toList + Text.byteCount target.toList =
      term.stop := by
  cases term with
  | leaf t kind =>
    have hleaf : Leaf t kind := hvalid
    obtain ⟨before, after, -, hbetween⟩ := hstands t List.mem_cons_self
    cases hleaf with
    | word =>
      obtain ⟨rfl, rfl⟩ := RuleKind.reference.inj hkind
      have hcut : Text.byteCount (t.text.toList.takeWhile Text.isModifier) +
          Text.byteCount (t.text.toList.dropWhile Text.isModifier) =
            Text.byteCount t.text.toList := by
        rw [← Text.byteCount_append, List.takeWhile_append_dropWhile]
      simp only [Term.rule, Rule.plain, Term.stop, hbetween.span_eq, String.toList_ofList]
      omega
    | _ => cases hkind
  | group opening items closing => cases hkind

/-- A repetition that begins where its term ends leaves the start of the term as it is. -/
theorem Term.start_repeated {lo hi : Nat} {term : Term} (hrow : Token.InRow lo hi term.tokens)
    {quantifier : Quantifier} (hstart : quantifier.span.start = term.stop) :
    (term.rule.repeated quantifier).span.start = term.rule.span.start := by
  have hlt := (Term.within_rule hrow).start_lt_stop
  rw [Parse.stop_rule, ← hstart] at hlt
  exact Nat.min_eq_left hlt.le

/-- It leaves the length of a reference as it is, too. -/
theorem Term.bodyStop_repeated {cs : List Char} {lo hi : Nat} {term : Term} (hvalid : term.Valid)
    (hrow : Token.InRow lo hi term.tokens) (hstands : ∀ t ∈ term.tokens, t.StandsIn cs)
    {quantifier : Quantifier} (hstart : quantifier.span.start = term.stop)
    {target modifiers : String} (hkind : term.rule.kind = .reference target modifiers) :
    (term.rule.repeated quantifier).span.start + Text.byteCount modifiers.toList +
      Text.byteCount target.toList = (term.rule.repeated quantifier).bodyStop := by
  rw [Term.start_repeated hrow hstart, Term.stop_of_reference hvalid hstands hkind, ← hstart]
  rfl

theorem Item.spelled_rule {cs : List Char} {lo hi : Nat} {item : Item} (hvalid : item.Valid)
    (hrow : Token.InRow lo hi item.tokens) (hstands : ∀ t ∈ item.tokens, t.StandsIn cs) :
    item.rule.Spelled := by
  cases item with
  | plain term =>
    refine ⟨?_, ?_⟩
    · intro target modifiers hkind
      rw [Item.rule, Term.stop_of_reference hvalid hstands hkind, Rule.bodyStop,
        Term.quantifier_rule, Option.map_none, Option.getD_none, Parse.stop_rule]
    · simp [Item.rule, Rule.separator?]
  | repeated term range =>
    obtain ⟨hterm, -, hstart⟩ := hvalid
    obtain ⟨mid, hrow, -⟩ := Token.InRow.append_iff.mp hrow
    obtain ⟨hstands, -⟩ := List.forall_mem_append.mp hstands
    refine ⟨?_, ?_⟩
    · intro target modifiers hkind
      exact Term.bodyStop_repeated hterm hrow hstands hstart hkind
    · simp [Item.rule, Rule.repeated, Rule.separator?]
  | separated term range marker separator =>
    obtain ⟨hterm, ⟨-, hstart⟩, -⟩ := hvalid
    obtain ⟨mid, hrow, -⟩ := Token.InRow.append_iff.mp hrow
    obtain ⟨hstands, -⟩ := List.forall_mem_append.mp hstands
    refine ⟨?_, ?_⟩
    · intro target modifiers hkind
      exact Term.bodyStop_repeated hterm hrow hstands hstart hkind
    · intro clause hclause
      obtain rfl := Option.some.inj hclause
      exact Term.quantifier_rule separator

/-- References are spelled as they should be throughout the model of a tree. -/
theorem Document.throughout_spelled {text : String} {document : Document} (hvalid : document.Valid)
    (hscan : Token.scan text = .ok document.tokens) :
    ∀ definition ∈ (document.grammar text).rules, ∀ alternative ∈ definition.alternatives,
      alternative.Throughout Rule.Spelled := by
  have hrow := Token.inRow_of_scan hscan
  have hstands := Token.standsIn_of_scan hscan
  refine Document.throughout hvalid ?_ ?_
  · intro item hitem htokens
    obtain ⟨lo, hi, hrow'⟩ := hrow.of_isInfix htokens
    exact Item.spelled_rule hitem hrow' fun t ht => hstands t (htokens.subset ht)
  · intro items anchor
    refine ⟨?_, ?_⟩
    · intro target modifiers hkind
      cases hkind
    · simp [Items.alternative, Rule.plain, Rule.separator?]

end Derivation

/-! ## What is shown and what is hidden -/

namespace Rule

/-- The reference stands in the element, and not inside a group in a separator. -/
inductive Shows (reference : Rule) : Rule → Prop where
  /-- it is the element -/
  | self : Shows reference reference
  /-- it stands in a part of the element -/
  | part {rule part : Rule} (mem : part ∈ rule.parts) (shows : Shows reference part) :
      Shows reference rule
  /-- it is the element in the separator -/
  | separator {rule : Rule} {clause : Separator} (mem : clause ∈ rule.separator?)
      (eq : clause.rule = reference) : Shows reference rule

/-- The reference stands inside a group in a separator, and that separator stands in no group of
another one. -/
inductive Hides (clause : Separator) (reference : Rule) : Rule → Prop where
  /-- it stands inside a group in the separator of the element -/
  | separator {rule part : Rule} (mem : clause ∈ rule.separator?)
      (mem_parts : part ∈ clause.rule.parts) (mem_walk : reference ∈ part.walk) :
      Hides clause reference rule
  /-- it stands so in a part of the element -/
  | part {rule part : Rule} (mem : part ∈ rule.parts) (hides : Hides clause reference part) :
      Hides clause reference rule

variable {rule reference : Rule} {clause : Separator}

theorem Shows.mem_walk (h : Shows reference rule) : reference ∈ rule.walk := by
  induction h with
  | self => exact mem_walk_self
  | part mem _ ih => exact mem_walk_of_part mem ih
  | separator mem eq =>
    subst eq
    exact mem_walk_of_separator mem mem_walk_self

theorem Hides.mem_walk (h : Hides clause reference rule) : reference ∈ rule.walk := by
  induction h with
  | separator mem mem_parts mem_walk =>
    exact mem_walk_of_separator mem (mem_walk_of_part mem_parts mem_walk)
  | part mem _ ih => exact mem_walk_of_part mem ih

/-- A reference that the walk visits is shown or hidden. -/
theorem Throughout.shows_or_hides (h : rule.Throughout Spelled) (hmem : reference ∈ rule.walk) :
    Shows reference rule ∨ ∃ clause, Hides clause reference rule := by
  induction h with
  | @intro rule self parts separator ihparts ihseparator =>
    rcases mem_walk_iff.mp hmem with rfl | ⟨part, hpart, hmem⟩ | ⟨clause, hclause, hmem⟩
    · exact .inl .self
    · rcases ihparts part hpart hmem with hshows | ⟨clause, hhides⟩
      · exact .inl (.part hpart hshows)
      · exact .inr ⟨clause, .part hpart hhides⟩
    · rcases mem_walk_iff.mp hmem with rfl | ⟨part, hpart, hmem⟩ | ⟨inner, hinner, -⟩
      · exact .inl (.separator hclause rfl)
      · exact .inr ⟨clause, .separator hclause hpart hmem⟩
      · -- the element in a separator is not repeated, so it has no separator itself
        rw [separator?, self.separator clause hclause] at hinner
        cases hinner

end Rule

/-! ## What is found -/

namespace Rule

variable {cs : List Char} {rule part reference : Rule} {clause : Separator} {node : Node}
  {offset : Nat}

/-- What is found in one of several elements in a row, behind its start, is found in all of them. -/
theorem firstAt?_candidatesAll {rules : List Rule}
    (hencloses : ∀ rule ∈ rules, ∀ node ∈ rule.candidates, rule.span.encloses node.span)
    (hrow : rules.Pairwise fun rule next => rule.span.stop ≤ next.span.start)
    (hmem : rule ∈ rules) (hlt : rule.span.start < offset)
    (hfirst : Node.firstAt? offset rule.candidates = some node) :
    Node.firstAt? offset (candidatesAll rules) = some node := by
  induction rules with
  | nil => cases hmem
  | cons earlier rules ih =>
    obtain ⟨hearlier, hencloses⟩ := List.forall_mem_cons.mp hencloses
    obtain ⟨hbehind, hrow⟩ := List.pairwise_cons.mp hrow
    rw [candidatesAll, Node.firstAt?_append]
    rcases List.mem_cons.mp hmem with rfl | hmem
    · rw [hfirst, Option.some_or]
    · have hnone : Node.firstAt? offset earlier.candidates = none := by
        refine Node.firstAt?_eq_none ?_
        intro node hnode
        have hstop := (Span.encloses_iff.mp (hearlier node hnode)).2
        exact .inr ((hstop.trans (hbehind rule hmem)).trans_lt hlt)
      rw [hnone, Option.none_or, ih hencloses hrow hmem]

theorem isLeaf_eq_false_of_mem_parts (h : part ∈ rule.parts) : rule.isLeaf = false := by
  obtain ⟨kind, span, quantifier⟩ := rule
  cases kind with
  | sequence parts => rfl
  | _ => cases h

/-- What is found in a part, behind its start, is found in the element. -/
theorem Throughout.firstAt?_of_part (h : rule.Throughout (Placed cs)) (hpart : part ∈ rule.parts)
    (hlt : part.span.start < offset) (hfirst : Node.firstAt? offset part.candidates = some node) :
    Node.firstAt? offset rule.candidates = some node := by
  have hencloses := fun part hpart => (h.parts part hpart).encloses_candidates
  rw [candidates_of_sequence (isLeaf_eq_false_of_mem_parts hpart), Node.firstAt?_append,
    firstAt?_candidatesAll hencloses h.self.inRow hpart hlt hfirst, Option.some_or]

/-- Behind its start and up to its end, the separator of an element is found. -/
theorem Throughout.firstAt?_of_separator (h : rule.Throughout (Placed cs))
    (hclause : clause ∈ rule.separator?) (hlt : clause.span.start < offset)
    (hle : offset ≤ clause.span.stop) :
    Node.firstAt? offset rule.candidates = some (.separator clause) := by
  have hcontains : (Node.separator clause).span.contains offset :=
    Span.contains_iff.mpr ⟨hlt.le, hle⟩
  have hfirst : Node.firstAt? offset rule.separatorNodes = some (.separator clause) := by
    rw [separatorNodes, Option.mem_def.mp hclause]
    exact List.find?_cons_of_pos hcontains
  cases hleaf : rule.isLeaf with
  | true => rw [candidates_of_isLeaf hleaf, Node.firstAt?_append, hfirst, Option.some_or]
  | false =>
    -- the parts have ended before the separator begins
    have hnone : Node.firstAt? offset (candidatesAll rule.parts) = none := by
      refine Node.firstAt?_eq_none ?_
      intro node hnode
      obtain ⟨part, hpart, hnode⟩ := mem_candidatesAll.mp hnode
      have hstop := (Span.encloses_iff.mp ((h.parts part hpart).encloses_candidates node hnode)).2
      have hend := h.self.stop_lt_separator hclause hpart
      exact .inr ((hstop.trans_lt hend).trans hlt)
    rw [candidates_of_sequence hleaf, Node.firstAt?_append, hnone, hfirst, Option.none_or]

instance (kind : RuleKind) (target modifiers : String) :
    Decidable (kind = .reference target modifiers) :=
  match kind with
  | .reference target' modifiers' =>
    decidable_of_iff (target' = target ∧ modifiers' = modifiers)
      (iff_of_eq (RuleKind.reference.injEq _ _ _ _).symm)
  | .sequence _ => isFalse RuleKind.noConfusion
  | .marker _ => isFalse RuleKind.noConfusion
  | .literal _ _ => isFalse RuleKind.noConfusion

/-- The element is a reference, and the offset lies on its modifiers or on its target, behind the
start of them. -/
@[mk_iff]
structure RefersAt (reference : Rule) (target modifiers : String) (offset : Nat) : Prop where
  /-- the element is a reference -/
  kind : reference.kind = .reference target modifiers
  /-- the offset lies behind its start -/
  lt : reference.span.start < offset
  /-- it lies no further than the end of the target -/
  le : offset ≤ reference.span.start + Text.byteCount modifiers.toList +
    Text.byteCount target.toList

variable {target modifiers : String}

instance : Decidable (reference.RefersAt target modifiers offset) :=
  decidable_of_iff _ (refersAt_iff reference target modifiers offset).symm

theorem Placed.bodyStop_le (h : rule.Placed cs) : rule.bodyStop ≤ rule.span.stop := by
  rw [bodyStop]
  cases hquantifier : rule.quantifier with
  | none => exact Nat.le_refl _
  | some quantifier =>
    have hplaced := h.quantifier quantifier hquantifier
    exact hplaced.marks.le.trans hplaced.stop_eq.le

theorem RefersAt.le_stop (h : reference.RefersAt target modifiers offset)
    (hplaced : reference.Placed cs) (hspelled : reference.Spelled) :
    offset ≤ reference.span.stop := by
  have hle := h.le
  rw [hspelled.reference target modifiers h.kind] at hle
  exact hle.trans hplaced.bodyStop_le

theorem RefersAt.le_stop_of_mem_walk (hat : reference.RefersAt target modifiers offset)
    (h : rule.Throughout (Placed cs)) (hspelled : rule.Throughout Spelled)
    (hmem : reference ∈ rule.walk) : offset ≤ reference.span.stop :=
  hat.le_stop (h.of_mem_walk reference hmem).self (hspelled.of_mem_walk reference hmem).self

theorem RefersAt.target?_eq (h : reference.RefersAt target modifiers offset) :
    reference.target? = some target := by
  rw [target?, h.kind]

/-- On its modifiers and its target, a reference is found itself and not its separator. -/
theorem RefersAt.firstAt?_eq (h : reference.RefersAt target modifiers offset)
    (hplaced : reference.Placed cs) (hspelled : reference.Spelled) :
    Node.firstAt? offset reference.candidates = some (.rule reference) := by
  have hleaf : reference.isLeaf = true := by rw [isLeaf, h.kind]
  have hle := h.le
  rw [hspelled.reference target modifiers h.kind] at hle
  have hnone : Node.firstAt? offset reference.separatorNodes = none := by
    refine Node.firstAt?_eq_none ?_
    intro node hnode
    obtain ⟨clause, hclause, rfl⟩ := mem_separatorNodes.mp hnode
    obtain ⟨quantifier, hquantifier, -, hseparator⟩ := hplaced.exists_quantifier hclause
    have hstop : reference.bodyStop = quantifier.span.start := by
      rw [bodyStop, Option.mem_def.mp hquantifier, Option.map_some, Option.getD_some]
    exact .inl ((hle.trans hstop.le).trans_lt hseparator.lt_start)
  have hcontains : (Node.rule reference).span.contains offset :=
    Span.contains_iff.mpr ⟨h.lt.le, h.le_stop hplaced hspelled⟩
  rw [candidates_of_isLeaf hleaf, Node.firstAt?_append, hnone, Option.none_or]
  exact List.find?_cons_of_pos hcontains

/-- An element inside a separator begins behind the separator's start. -/
theorem Throughout.bounds_of_separator (h : rule.Throughout (Placed cs))
    (hclause : clause ∈ rule.separator?) (hmem : reference ∈ clause.rule.walk) :
    clause.span.start < reference.span.start ∧ reference.span.stop ≤ clause.span.stop := by
  obtain ⟨hstart, hstop⟩ :=
    Span.encloses_iff.mp ((h.separator clause hclause).encloses_walk reference hmem)
  obtain ⟨_, -, -, hseparator⟩ := h.self.exists_quantifier hclause
  exact ⟨hseparator.start_lt.trans_le hstart, hstop.trans hseparator.stop_eq.ge⟩

/-- Where a reference is shown, what is found names its target. -/
theorem Shows.exists_firstAt? (hshows : Shows reference rule) (h : rule.Throughout (Placed cs))
    (hspelled : rule.Throughout Spelled) (hat : reference.RefersAt target modifiers offset) :
    ∃ node, Node.firstAt? offset rule.candidates = some node ∧ node.name? = some target := by
  induction hshows with
  | self => exact ⟨_, hat.firstAt?_eq h.self hspelled.self, hat.target?_eq⟩
  | @part rule part mem shows ih =>
    obtain ⟨node, hfirst, hname⟩ := ih (h.parts part mem) (hspelled.parts part mem)
    have hwithin := (h.parts part mem).encloses_walk reference shows.mem_walk
    have hle := (Span.encloses_iff.mp hwithin).1
    exact ⟨node, h.firstAt?_of_part mem (hle.trans_lt hat.lt) hfirst, hname⟩
  | @separator rule clause mem eq =>
    subst eq
    obtain ⟨hlt, hle⟩ := h.bounds_of_separator mem mem_walk_self
    have hstop := hat.le_stop (h.separator clause mem).self (hspelled.separator clause mem).self
    exact ⟨_, h.firstAt?_of_separator mem (hlt.trans hat.lt) (hstop.trans hle), hat.target?_eq⟩

/-- Where a reference is hidden, the separator is found. -/
theorem Hides.firstAt?_eq (hhides : Hides clause reference rule) (h : rule.Throughout (Placed cs))
    (hlt : reference.span.start < offset) (hle : offset ≤ reference.span.stop) :
    Node.firstAt? offset rule.candidates = some (.separator clause) := by
  induction hhides with
  | separator mem mem_parts mem_walk =>
    obtain ⟨hlt', hle'⟩ := h.bounds_of_separator mem (mem_walk_of_part mem_parts mem_walk)
    exact h.firstAt?_of_separator mem (hlt'.trans hlt) (hle.trans hle')
  | @part rule part mem hides ih =>
    have hwithin := (h.parts part mem).encloses_walk reference hides.mem_walk
    have hstart := (Span.encloses_iff.mp hwithin).1
    exact h.firstAt?_of_part mem (hstart.trans_lt hlt) (ih (h.parts part mem))

/-- A separator that hides a reference has a group in it, so it names nothing. -/
theorem Hides.name?_eq_none (h : Hides clause reference rule) :
    (Node.separator clause).name? = none := by
  induction h with
  | separator mem mem_parts mem_walk =>
    have hleaf := isLeaf_eq_false_of_mem_parts mem_parts
    rw [Node.name?, target?]
    rw [isLeaf] at hleaf
    split at hleaf
    · next parts hkind => rw [hkind]
    · cases hleaf
  | part mem hides ih => exact ih

end Rule

namespace Grammar

variable {text : String} {grammar : Grammar} {definition : RuleDef} {offset : Nat}

/-- The reference stands in the grammar, and not inside a group in a separator. -/
def Shows (grammar : Grammar) (reference : Rule) : Prop :=
  ∃ definition ∈ grammar.rules, ∃ alternative ∈ definition.alternatives,
    Rule.Shows reference alternative

/-- The reference stands inside a group in the separator, which stands in no group of another
separator. -/
def Hides (grammar : Grammar) (clause : Separator) (reference : Rule) : Prop :=
  ∃ definition ∈ grammar.rules, ∃ alternative ∈ definition.alternatives,
    Rule.Hides clause reference alternative

/-- What is found in an alternative, behind the start of an element of it, is what the search comes
to. -/
theorem Nested.locate?_of_alternative (h : grammar.Nested text)
    (hdefinition : definition ∈ grammar.rules) {alternative inner : Rule}
    (halternative : alternative ∈ definition.alternatives) (hmem : inner ∈ alternative.walk)
    (hlt : inner.span.start < offset) (hle : offset ≤ inner.span.stop) {node : Node}
    (hfirst : Node.firstAt? offset alternative.candidates = some node) :
    grammar.locate? offset = some node := by
  have hnested := h.rules definition hdefinition
  have hwithin := Span.encloses_iff.mp
    ((hnested.throughout alternative halternative).encloses_walk inner hmem)
  have houter := Span.encloses_iff.mp (hnested.encloses alternative halternative)
  have hname := hnested.name_lt alternative halternative
  have hcontains : definition.span.contains offset := by
    rw [Span.contains_iff]
    omega
  have houtside : ¬ definition.name.span.contains offset = true := by
    rw [Span.contains_iff]
    omega
  rw [h.locate?_of_contains hdefinition hcontains ?_, hnested.locate?_eq, RuleDef.exhaustive?,
    if_neg houtside]
  · refine Rule.firstAt?_candidatesAll ?_ ?_ halternative (hwithin.1.trans_lt hlt) hfirst
    · exact fun rule hrule => (hnested.throughout rule hrule).encloses_candidates
    · exact hnested.inRow.imp fun hlt => hlt.le
  · intro other _ _
    omega

/-- **Names at references.** A reference that the walk visits is shown, or it is hidden in a
separator. At an offset on it, behind its start: if it is shown, the search comes to a node that
names its target. If it is hidden, the search comes to the separator, which names nothing. -/
theorem name_at_reference (h : Grammar.parse text = .ok grammar) {reference : Rule}
    (hmem : reference ∈ grammar.walk) {target modifiers : String}
    (hat : reference.RefersAt target modifiers offset) :
    (grammar.Shows reference ∨ ∃ clause, grammar.Hides clause reference) ∧
      (grammar.Shows reference →
        ∃ node, grammar.locate? offset = some node ∧ node.name? = some target) ∧
      ∀ clause, grammar.Hides clause reference →
        grammar.locate? offset = some (.separator clause) ∧
          (Node.separator clause).name? = none := by
  obtain ⟨document, hvalid, hscan, rfl⟩ := Grammar.exists_document_of_parse h
  have hnested := Document.nested_grammar hvalid hscan
  have hspelled := @Document.throughout_spelled text document hvalid hscan
  refine ⟨?_, ?_, ?_⟩
  · obtain ⟨definition, hdefinition, hmem⟩ := List.mem_flatMap.mp hmem
    obtain ⟨alternative, halternative, hmem⟩ := Rule.mem_walkAll.mp hmem
    have hthroughout := hspelled definition hdefinition alternative halternative
    rcases hthroughout.shows_or_hides hmem with hshows | ⟨clause, hhides⟩
    · exact .inl ⟨definition, hdefinition, alternative, halternative, hshows⟩
    · exact .inr ⟨clause, definition, hdefinition, alternative, halternative, hhides⟩
  · rintro ⟨definition, hdefinition, alternative, halternative, hshows⟩
    have hplaced := (hnested.rules definition hdefinition).throughout alternative halternative
    have hthroughout := hspelled definition hdefinition alternative halternative
    obtain ⟨node, hfirst, hname⟩ := hshows.exists_firstAt? hplaced hthroughout hat
    have hle := hat.le_stop_of_mem_walk hplaced hthroughout hshows.mem_walk
    exact ⟨node, hnested.locate?_of_alternative hdefinition halternative hshows.mem_walk hat.lt hle
      hfirst, hname⟩
  · rintro clause ⟨definition, hdefinition, alternative, halternative, hhides⟩
    have hplaced := (hnested.rules definition hdefinition).throughout alternative halternative
    have hthroughout := hspelled definition hdefinition alternative halternative
    have hle := hat.le_stop_of_mem_walk hplaced hthroughout hhides.mem_walk
    have hfirst := hhides.firstAt?_eq hplaced hat.lt hle
    exact ⟨hnested.locate?_of_alternative hdefinition halternative hhides.mem_walk hat.lt hle
      hfirst, hhides.name?_eq_none⟩

/-- A reference inside a group in a separator is hidden, and one that is itself the element in a
separator is shown. -/
theorem name_at_references_in_separators :
    ∃ grammar b d, Grammar.parse "unit grammar G;\nm: a(s) % [b] c(s) % .d\n" = .ok grammar ∧
      (b ∈ grammar.walk ∧ b.RefersAt "b" "" 28 ∧ ∃ clause, grammar.Hides clause b ∧
        grammar.locate? 28 = some (.separator clause)) ∧
      d ∈ grammar.walk ∧ d.RefersAt "d" "." 39 ∧ grammar.Shows d ∧
        ∃ node, grammar.locate? 39 = some node ∧ node.name? = some "d" := by
  have hfacts : (Grammar.parse "unit grammar G;\nm: a(s) % [b] c(s) % .d\n").map
      (fun grammar => (grammar.walk.any fun rule => decide (rule.RefersAt "b" "" 28),
        grammar.walk.any fun rule => decide (rule.RefersAt "d" "." 39),
        (grammar.locate? 28).bind Node.name?, (grammar.locate? 39).bind Node.name?)) =
      .ok (true, true, none, some "d") := by decide +kernel
  obtain ⟨grammar, hparse, hfacts⟩ := Parse.exists_of_map_eq_ok hfacts
  simp only [Prod.mk.injEq, List.any_eq_true, decide_eq_true_eq] at hfacts
  obtain ⟨⟨b, hb, hbat⟩, ⟨d, hd, hdat⟩, hbname, hdname⟩ := hfacts
  obtain ⟨hb', hbshown, hbhidden⟩ := name_at_reference hparse hb hbat
  obtain ⟨hd', hdshown, hdhidden⟩ := name_at_reference hparse hd hdat
  refine ⟨grammar, b, d, hparse, ⟨hb, hbat, ?_⟩, hd, hdat, ?_⟩
  · rcases hb' with hshows | ⟨clause, hhides⟩
    · obtain ⟨node, hnode, hname⟩ := hbshown hshows
      rw [hnode, Option.bind_some, hname] at hbname
      cases hbname
    · exact ⟨clause, hhides, (hbhidden clause hhides).1⟩
  · rcases hd' with hshows | ⟨clause, hhides⟩
    · exact ⟨hshows, hdshown hshows⟩
    · obtain ⟨hnode, hname⟩ := hdhidden clause hhides
      rw [hnode, Option.bind_some, hname] at hdname
      cases hdname

/-- **A reference may be out of reach.** The walk visits the reference in `[b]`, but no offset on it
leads to its target. -/
theorem reference_may_be_out_of_reach :
    ¬ ∀ (text : String) (grammar : Grammar), Grammar.parse text = .ok grammar →
      ∀ reference ∈ grammar.walk, ∀ target modifiers offset,
        reference.RefersAt target modifiers offset →
        ∃ node, grammar.locate? offset = some node ∧ node.name? = some target := by
  intro h
  have hfacts : (Grammar.parse "unit grammar G;\nm: a(s) % [b]\n").map
      (fun grammar => (grammar.walk.any fun rule => decide (rule.RefersAt "b" "" 28),
        (grammar.locate? 28).bind Node.name?)) = .ok (true, none) := by decide +kernel
  obtain ⟨grammar, hparse, hfacts⟩ := Parse.exists_of_map_eq_ok hfacts
  simp only [Prod.mk.injEq, List.any_eq_true, decide_eq_true_eq] at hfacts
  obtain ⟨⟨reference, hmem, hat⟩, hname⟩ := hfacts
  obtain ⟨node, hnode, hname'⟩ := h _ grammar hparse reference hmem "b" "" 28 hat
  rw [hnode, Option.bind_some, hname'] at hname
  cases hname

end Grammar

end FanServer
