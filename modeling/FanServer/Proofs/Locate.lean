import FanServer.Grammar.Locate
import FanServer.Proofs.Nesting

/-!
# The search for the node at an offset

The search stops without a result at the first element that starts after the offset, wherever in the
tree it is, and it never asks whether a sequence contains the offset. That loses nothing, because
spans nest (`Grammar.Nested`): what comes later in the search begins later in the text.

* `Rule.candidates` — all nodes that the search can give for an element, the preferred ones first;
* `Search.Settles` — **what a search has to keep to**: it gives the first candidate that contains
  the offset, and where it stops without one, the offset lies before everything that is still to
  come. Searches that settle can be put one behind the other (`Search.Settles.orElse`), so the
  induction over an element has only one step to make at each place where the search goes on;
* `Grammar.locate?_eq_exhaustive` — the search gives what trying all candidates gives;
* `Grammar.locate?_on_defining_name` — from an offset on the name of a definition it comes back to
  that definition, except where another definition ends right before the name.
-/

open FanServer.Derivation

namespace FanServer

/-! ## Candidates -/

/-- The first of the nodes that contains the offset. -/
def Node.firstAt? (offset : Nat) (nodes : List Node) : Option Node :=
  nodes.find? fun node => node.span.contains offset

namespace Rule

/-- The separator of the element as a node, if it has one. -/
def separatorNodes (rule : Rule) : List Node :=
  rule.separator?.toList.map Node.separator

mutual

/-- All nodes that an offset in the element can point at, the preferred ones first: an element
without parts gives its separator and then itself, a sequence gives what its parts give and then its
separator. -/
def candidates : Rule → List Node
  | ⟨kind, span, quantifier⟩ =>
    match kind with
    | .sequence parts => candidatesAll parts ++ separatorNodes ⟨.sequence parts, span, quantifier⟩
    | kind => separatorNodes ⟨kind, span, quantifier⟩ ++ [.rule ⟨kind, span, quantifier⟩]

/-- The candidates of elements, one element after the other. -/
def candidatesAll : List Rule → List Node
  | [] => []
  | rule :: rules => candidates rule ++ candidatesAll rules

end

end Rule

/-- Try all nodes of a definition: its name wins, else it is the first candidate of its
alternatives. -/
def RuleDef.exhaustive? (definition : RuleDef) (offset : Nat) : Option Node :=
  if definition.name.span.contains offset then some (.ruleName definition)
  else Node.firstAt? offset (Rule.candidatesAll definition.alternatives)

/-- Try all nodes of the first definition that contains the offset. -/
def Grammar.exhaustive? (grammar : Grammar) (offset : Nat) : Option Node :=
  (grammar.rules.find? fun definition => definition.span.contains offset).bind fun definition =>
    definition.exhaustive? offset

namespace Node

variable {offset : Nat} {nodes others : List Node}

theorem firstAt?_append :
    firstAt? offset (nodes ++ others) = (firstAt? offset nodes).or (firstAt? offset others) :=
  List.find?_append

theorem firstAt?_eq_none
    (h : ∀ node ∈ nodes, offset < node.span.start ∨ node.span.stop < offset) :
    firstAt? offset nodes = none := by
  refine List.find?_eq_none.mpr ?_
  intro node hnode
  have houtside := h node hnode
  rw [Span.contains_iff]
  omega

end Node

namespace Rule

variable {rule : Rule} {node : Node} {offset : Nat}

theorem mem_separatorNodes :
    node ∈ rule.separatorNodes ↔ ∃ clause ∈ rule.separator?, .separator clause = node := by
  simp only [separatorNodes, List.mem_map, Option.mem_toList, Option.mem_def]

theorem mem_candidatesAll {rules : List Rule} :
    node ∈ candidatesAll rules ↔ ∃ rule ∈ rules, node ∈ rule.candidates := by
  induction rules with
  | nil => simp [candidatesAll]
  | cons rule rules ih => rw [candidatesAll, List.mem_append, ih, List.exists_mem_cons_iff]

theorem candidates_of_isLeaf (h : rule.isLeaf = true) :
    rule.candidates = rule.separatorNodes ++ [.rule rule] := by
  obtain ⟨kind, span, quantifier⟩ := rule
  cases kind with
  | sequence parts => cases h
  | _ => rfl

theorem candidates_of_sequence (h : rule.isLeaf = false) :
    rule.candidates = candidatesAll rule.parts ++ rule.separatorNodes := by
  obtain ⟨kind, span, quantifier⟩ := rule
  cases kind with
  | sequence parts => rfl
  | _ => cases h

theorem search_of_lt (h : offset < rule.span.start) : rule.search offset = .done none := by
  obtain ⟨kind, span, quantifier⟩ := rule
  cases kind <;> exact if_pos h

theorem search_of_isLeaf (h : rule.isLeaf = true) (hstart : rule.span.start ≤ offset) :
    rule.search offset = rule.searchLeaf offset := by
  obtain ⟨kind, span, quantifier⟩ := rule
  cases kind with
  | sequence parts => cases h
  | _ => exact if_neg (Nat.not_lt.mpr hstart)

theorem search_of_sequence (h : rule.isLeaf = false) (hstart : rule.span.start ≤ offset) :
    rule.search offset =
      (searchAll offset rule.parts).orElse fun _ => rule.searchSeparator offset := by
  obtain ⟨kind, span, quantifier⟩ := rule
  cases kind with
  | sequence parts => exact if_neg (Nat.not_lt.mpr hstart)
  | _ => cases h

section Separator

variable {cs : List Char} {clause : Separator} (h : rule.Placed cs)
  (hclause : clause ∈ rule.separator?)

include h hclause

/-- The separator of an element is that of its quantifier. -/
theorem Placed.exists_quantifier :
    ∃ quantifier ∈ rule.quantifier, quantifier.Placed cs rule ∧ clause.Placed cs quantifier := by
  obtain ⟨quantifier, hquantifier, hclause⟩ := Option.bind_eq_some_iff.mp hclause
  have hplaced := h.quantifier quantifier hquantifier
  exact ⟨quantifier, hquantifier, hplaced, hplaced.separator clause hclause⟩

theorem Placed.encloses_separator : rule.span.encloses clause.span := by
  obtain ⟨quantifier, -, hquantifier, hseparator⟩ := h.exists_quantifier hclause
  exact Span.encloses_trans hquantifier.enclosed hseparator.enclosed

theorem Placed.stop_lt_separator {part : Rule} (hpart : part ∈ rule.parts) :
    part.span.stop < clause.span.start := by
  obtain ⟨quantifier, -, hquantifier, hseparator⟩ := h.exists_quantifier hclause
  exact (hquantifier.behind part hpart).trans_lt hseparator.lt_start

end Separator

/-- There is an offset up to which the parts of an element stand, and behind which its separator
does. -/
theorem Placed.exists_mid {cs : List Char} (h : rule.Placed cs) :
    ∃ mid ≤ rule.span.stop, (∀ part ∈ rule.parts, part.span.stop ≤ mid) ∧
      ∀ node ∈ rule.separatorNodes, mid ≤ node.span.start := by
  cases hclause : rule.separator? with
  | none =>
    refine ⟨rule.span.stop, Nat.le_refl _, ?_, ?_⟩
    · exact fun part hpart => (Span.encloses_iff.mp (h.encloses part hpart)).2
    · intro node hnode
      obtain ⟨clause, hmem, -⟩ := mem_separatorNodes.mp hnode
      rw [hclause] at hmem
      cases hmem
  | some clause =>
    obtain ⟨_, -, -, hseparator⟩ := h.exists_quantifier hclause
    have hle := (Span.encloses_iff.mp (h.encloses_separator hclause)).2
    refine ⟨clause.span.start, hseparator.marks.le.trans hle, ?_, ?_⟩
    · exact fun part hpart => (h.stop_lt_separator hclause hpart).le
    · intro node hnode
      obtain ⟨clause', hmem, rfl⟩ := mem_separatorNodes.mp hnode
      rw [hclause] at hmem
      obtain rfl := Option.some.inj hmem
      exact Nat.le_refl _

/-- The candidates of an element lie within it. -/
theorem Throughout.encloses_candidates {cs : List Char} (h : rule.Throughout (Placed cs)) :
    ∀ node ∈ rule.candidates, rule.span.encloses node.span := by
  induction h with
  | @intro rule self parts separator ihparts ihseparator =>
    have hclause : ∀ node ∈ rule.separatorNodes, rule.span.encloses node.span := by
      intro node hnode
      obtain ⟨clause, hclause, rfl⟩ := mem_separatorNodes.mp hnode
      exact self.encloses_separator hclause
    intro node hnode
    cases hleaf : rule.isLeaf with
    | true =>
      rw [candidates_of_isLeaf hleaf] at hnode
      rcases List.mem_append.mp hnode with hnode | hnode
      · exact hclause node hnode
      · rw [List.mem_singleton.mp hnode]
        exact Span.encloses_refl rule.span
    | false =>
      rw [candidates_of_sequence hleaf] at hnode
      rcases List.mem_append.mp hnode with hnode | hnode
      · obtain ⟨part, hpart, hnode⟩ := mem_candidatesAll.mp hnode
        exact Span.encloses_trans (self.encloses part hpart) (ihparts part hpart node hnode)
      · exact hclause node hnode

end Rule

/-! ## Searches that settle -/

/-- **The search has settled** on what trying all `nodes` gives. If it has stopped without a result,
the offset lies before `stop`, so that nothing behind `stop` contains it either. -/
inductive Search.Settles (offset stop : Nat) (nodes : List Node) : Search → Prop where
  /-- it has found the first node that contains the offset -/
  | found {node : Node} (first : Node.firstAt? offset nodes = some node) :
      Settles offset stop nodes (.done (some node))
  /-- no node contains the offset, and the search goes on -/
  | onward (first : Node.firstAt? offset nodes = none) : Settles offset stop nodes .onward
  /-- no node contains the offset, and the search has stopped -/
  | stopped (first : Node.firstAt? offset nodes = none) (lt : offset < stop) :
      Settles offset stop nodes (.done none)

namespace Search.Settles

variable {offset mid stop : Nat} {nodes others : List Node}

theorem found?_eq {search : Search} (h : search.Settles offset stop nodes) :
    search.found? = Node.firstAt? offset nodes := by
  cases h with
  | found first => exact first.symm
  | onward first => exact first.symm
  | stopped first lt => exact first.symm

/-- A search that goes on with nodes which stand behind all it has seen settles, if both do. -/
theorem orElse {search : Search} {next : Unit → Search} (h : search.Settles offset mid nodes)
    (hnext : (next ()).Settles offset stop others) (hle : mid ≤ stop)
    (hbehind : ∀ node ∈ others, mid ≤ node.span.start) :
    (search.orElse next).Settles offset stop (nodes ++ others) := by
  have hsplit : Node.firstAt? offset (nodes ++ others) = _ := Node.firstAt?_append
  cases h with
  | found first =>
    rw [first, Option.some_or] at hsplit
    exact .found hsplit
  | onward first =>
    rw [first, Option.none_or] at hsplit
    change (next ()).Settles offset stop (nodes ++ others)
    cases hresult : next () with
    | onward =>
      rw [hresult] at hnext
      cases hnext with
      | onward first => exact .onward (hsplit.trans first)
    | done found =>
      rw [hresult] at hnext
      cases hnext with
      | found first => exact .found (hsplit.trans first)
      | stopped first lt => exact .stopped (hsplit.trans first) lt
  | stopped first lt =>
    -- the other nodes begin behind `mid`, and the offset lies before it
    have hnone : Node.firstAt? offset others = none :=
      Node.firstAt?_eq_none fun node hnode => .inl (lt.trans_le (hbehind node hnode))
    rw [first, hnone] at hsplit
    exact .stopped hsplit (lt.trans_le hle)

end Search.Settles

namespace Rule

variable {rule : Rule} {offset : Nat}

theorem separatorAt?_eq_firstAt? :
    (rule.separatorAt? offset).map Node.separator = Node.firstAt? offset rule.separatorNodes := by
  rw [separatorAt?, separatorNodes, Node.firstAt?]
  cases rule.separator? with
  | none => rfl
  | some clause =>
    cases hcontains : clause.span.contains offset <;>
      simp [Option.filter, Node.span, hcontains]

/-- The search of an element without parts settles. -/
theorem settles_searchLeaf {cs : List Char} (h : rule.Placed cs) (stop : Nat) :
    (rule.searchLeaf offset).Settles offset stop (rule.separatorNodes ++ [.rule rule]) := by
  have hsplit : Node.firstAt? offset (rule.separatorNodes ++ [.rule rule]) = _ :=
    Node.firstAt?_append
  rw [← separatorAt?_eq_firstAt?] at hsplit
  rw [searchLeaf]
  split_ifs with hcontains
  · refine .found (hsplit.trans ?_)
    cases rule.separatorAt? offset with
    | none =>
      rw [Option.map_none, Option.none_or, Node.firstAt?]
      exact List.find?_cons_of_pos hcontains
    | some clause => rfl
  · refine .onward (List.find?_eq_none.mpr ?_)
    -- what does not lie in the element does not lie in its separator
    intro node hnode hnode'
    rcases List.mem_append.mp hnode with hnode | hnode
    · obtain ⟨clause, hclause, rfl⟩ := mem_separatorNodes.mp hnode
      exact hcontains (Span.contains_of_encloses (h.encloses_separator hclause) hnode')
    · rw [List.mem_singleton.mp hnode] at hnode'
      exact hcontains hnode'

theorem settles_searchSeparator (stop : Nat) :
    (rule.searchSeparator offset).Settles offset stop rule.separatorNodes := by
  have hfirst := @separatorAt?_eq_firstAt? rule offset
  rw [searchSeparator]
  cases hclause : rule.separatorAt? offset with
  | none =>
    rw [hclause] at hfirst
    exact .onward hfirst.symm
  | some clause =>
    rw [hclause] at hfirst
    exact .found hfirst.symm

/-- The search of elements that stand one behind the other settles, if the search of each does. -/
theorem settles_searchAll {rules : List Rule} {stop : Nat}
    (hrules : ∀ rule ∈ rules, (rule.search offset).Settles offset rule.span.stop rule.candidates)
    (hencloses : ∀ rule ∈ rules, ∀ node ∈ rule.candidates, rule.span.encloses node.span)
    (hrow : rules.Pairwise fun rule next => rule.span.stop ≤ next.span.start)
    (hstop : ∀ rule ∈ rules, rule.span.stop ≤ stop) :
    (searchAll offset rules).Settles offset stop (candidatesAll rules) := by
  induction rules with
  | nil => exact .onward rfl
  | cons rule rules ih =>
    obtain ⟨hrule, hrules⟩ := List.forall_mem_cons.mp hrules
    obtain ⟨-, hencloses⟩ := List.forall_mem_cons.mp hencloses
    obtain ⟨hbehind, hrow⟩ := List.pairwise_cons.mp hrow
    obtain ⟨hle, hstop⟩ := List.forall_mem_cons.mp hstop
    refine hrule.orElse (ih hrules hencloses hrow hstop) hle ?_
    intro node hnode
    obtain ⟨next, hnext, hnode⟩ := mem_candidatesAll.mp hnode
    exact (hbehind next hnext).trans (Span.encloses_iff.mp (hencloses next hnext node hnode)).1

/-- **The search of an element settles**, if its spans nest. -/
theorem Throughout.settles_search {cs : List Char} (h : rule.Throughout (Placed cs)) :
    (rule.search offset).Settles offset rule.span.stop rule.candidates := by
  have hencloses := h.encloses_candidates
  induction h with
  | @intro rule self parts separator ihparts ihseparator =>
    rcases Nat.lt_or_ge offset rule.span.start with hlt | hge
    · rw [search_of_lt hlt]
      refine .stopped (Node.firstAt?_eq_none ?_) (hlt.trans_le self.marks.le)
      intro node hnode
      exact .inl (hlt.trans_le (Span.encloses_iff.mp (hencloses node hnode)).1)
    · cases hleaf : rule.isLeaf with
      | true =>
        rw [search_of_isLeaf hleaf hge, candidates_of_isLeaf hleaf]
        exact settles_searchLeaf self _
      | false =>
        rw [search_of_sequence hleaf hge, candidates_of_sequence hleaf]
        have hparts : ∀ part ∈ rule.parts,
            (part.search offset).Settles offset part.span.stop part.candidates :=
          fun part hpart => ihparts part hpart (parts part hpart).encloses_candidates
        have hwithin := fun part hpart => (parts part hpart).encloses_candidates
        obtain ⟨mid, hle, hstop, hbehind⟩ := self.exists_mid
        exact (settles_searchAll hparts hwithin self.inRow hstop).orElse
          (settles_searchSeparator _) hle hbehind

end Rule

/-! ## Definitions -/

namespace RuleDef

variable {cs : List Char} {definition : RuleDef} {offset : Nat}

/-- Behind its name, a definition has at least a colon. -/
theorem Nested.name_stop_lt (h : definition.Nested cs) :
    definition.name.span.stop < definition.span.stop := by
  obtain ⟨first, hfirst⟩ := List.exists_mem_of_ne_nil _ h.nonempty
  have hlt := h.name_lt first hfirst
  have hle := (h.throughout first hfirst).self.marks.le
  have hstop := (Span.encloses_iff.mp (h.encloses first hfirst)).2
  omega

/-- The search of a definition gives what trying all its nodes gives. -/
theorem Nested.locate?_eq (h : definition.Nested cs) :
    definition.locate? offset = definition.exhaustive? offset := by
  rw [locate?, exhaustive?]
  split_ifs with hname
  · rfl
  · have hsettles : (Rule.searchAll offset definition.alternatives).Settles offset
        definition.span.stop (Rule.candidatesAll definition.alternatives) := by
      refine Rule.settles_searchAll ?_ ?_ ?_ ?_
      · exact fun rule hrule => (h.throughout rule hrule).settles_search
      · exact fun rule hrule => (h.throughout rule hrule).encloses_candidates
      · exact h.inRow.imp fun hlt => hlt.le
      · exact fun rule hrule => (Span.encloses_iff.mp (h.encloses rule hrule)).2
    exact hsettles.found?_eq

/-- What is found in a definition contains the offset, and lies within the definition. -/
theorem Nested.of_exhaustive? (h : definition.Nested cs) {node : Node}
    (hnode : definition.exhaustive? offset = some node) :
    node.span.contains offset ∧ definition.span.encloses node.span := by
  rw [exhaustive?] at hnode
  split_ifs at hnode with hname
  · obtain rfl := Option.some.inj hnode
    exact ⟨hname, h.encloses_name⟩
  · refine ⟨(List.find?_eq_some_iff_append.mp hnode).1, ?_⟩
    obtain ⟨rule, hrule, hmem⟩ := Rule.mem_candidatesAll.mp (List.mem_of_find?_eq_some hnode)
    exact Span.encloses_trans (h.encloses rule hrule)
      ((h.throughout rule hrule).encloses_candidates node hmem)

/-- The search of definitions that stand one behind the other comes to the first that contains the
offset. -/
theorem locateIn?_eq_find? {definitions : List RuleDef}
    (hle : ∀ definition ∈ definitions, definition.span.start ≤ definition.span.stop)
    (hrow : definitions.Pairwise fun definition next => definition.span.stop ≤ next.span.start) :
    locateIn? offset definitions =
      (definitions.find? fun definition => definition.span.contains offset).bind fun definition =>
        definition.locate? offset := by
  induction definitions with
  | nil => rfl
  | cons definition definitions ih =>
    obtain ⟨hle, hles⟩ := List.forall_mem_cons.mp hle
    obtain ⟨hbehind, hrow⟩ := List.pairwise_cons.mp hrow
    rw [locateIn?]
    split_ifs with hlt hcontains
    · -- the definition begins behind the offset, and so do those after it
      have hnone : (definition :: definitions).find? (fun definition =>
          definition.span.contains offset) = none := by
        refine List.find?_eq_none.mpr (List.forall_mem_cons.mpr ⟨?_, ?_⟩)
        · rw [Span.contains_iff]
          omega
        · intro next hnext
          have hnext := hbehind next hnext
          rw [Span.contains_iff]
          omega
      rw [hnone, Option.bind_none]
    · simp only [List.find?_cons, hcontains, Option.bind_some]
    · simp only [List.find?_cons, hcontains, ih hles hrow]

end RuleDef

namespace Grammar

variable {text : String} {grammar : Grammar} {definition : RuleDef} {offset : Nat}

theorem Nested.locate?_eq_bind (h : grammar.Nested text) :
    grammar.locate? offset =
      (grammar.rules.find? fun definition => definition.span.contains offset).bind fun definition =>
        definition.locate? offset :=
  RuleDef.locateIn?_eq_find? (fun definition hmem => (h.rules definition hmem).marks.le) h.inRow

/-- Of two definitions that contain an offset, one ends there and the other begins there. So the
search comes to a definition, unless the offset is its start and another one ends there. -/
theorem Nested.locate?_of_contains (h : grammar.Nested text) (hmem : definition ∈ grammar.rules)
    (hcontains : definition.span.contains offset)
    (hfree : ∀ other ∈ grammar.rules, other.span.stop = definition.span.start →
      offset ≠ definition.span.start) :
    grammar.locate? offset = definition.locate? offset := by
  obtain ⟨before, after, hsplit⟩ := List.append_of_mem hmem
  have hfind : (grammar.rules.find? fun definition => definition.span.contains offset) =
      some definition := by
    refine List.find?_eq_some_iff_append.mpr ⟨hcontains, before, after, hsplit, ?_⟩
    intro earlier hearlier
    have hrow := h.inRow
    rw [hsplit, List.pairwise_append] at hrow
    have hle := hrow.2.2 earlier hearlier definition List.mem_cons_self
    have hother := hfree earlier (hsplit ▸ List.mem_append_left _ hearlier)
    have hstart := (Span.contains_iff.mp hcontains).1
    rw [Bool.not_eq_true', ← Bool.not_eq_true, Span.contains_iff]
    omega
  rw [h.locate?_eq_bind, hfind, Option.bind_some]

/-- **Stopping early loses nothing.** In a grammar that is parsed, the search gives what trying all
candidates of the first definition around the offset gives. What it gives contains the offset. -/
theorem locate?_eq_exhaustive (h : Grammar.parse text = .ok grammar) (offset : Nat) :
    grammar.locate? offset = grammar.exhaustive? offset ∧
      ∀ node, grammar.locate? offset = some node → node.span.contains offset := by
  obtain ⟨document, hvalid, hscan, rfl⟩ := Grammar.exists_document_of_parse h
  have hnested := Document.nested_grammar hvalid hscan
  have heq : (document.grammar text).locate? offset =
      (document.grammar text).exhaustive? offset := by
    rw [hnested.locate?_eq_bind, exhaustive?]
    refine Option.bind_congr ?_
    intro definition hfind
    exact (hnested.rules definition (List.mem_of_find?_eq_some hfind)).locate?_eq
  refine ⟨heq, ?_⟩
  intro node hnode
  rw [heq, exhaustive?] at hnode
  obtain ⟨definition, hfind, hnode⟩ := Option.bind_eq_some_iff.mp hnode
  exact ((hnested.rules definition (List.mem_of_find?_eq_some hfind)).of_exhaustive? hnode).1

/-- The separator of a group is found where no part of the group contains the offset. -/
theorem locate?_eq_exhaustive_behind_group :
    ∃ grammar, Grammar.parse "unit grammar G;\nk:[a b](s)%c|'x'm:" = .ok grammar ∧
      grammar.locate? 28 = grammar.exhaustive? 28 ∧
      ∃ node, grammar.locate? 28 = some node ∧ node.span = ⟨26, 28⟩ ∧ node.span.contains 28 := by
  have hspan : (Grammar.parse "unit grammar G;\nk:[a b](s)%c|'x'm:").map
      (fun grammar => (grammar.locate? 28).map Node.span) = .ok (some ⟨26, 28⟩) := by decide +kernel
  obtain ⟨grammar, hparse, hspan⟩ := Parse.exists_of_map_eq_ok hspan
  obtain ⟨node, hnode, hspan⟩ := Option.map_eq_some_iff.mp hspan
  obtain ⟨heq, hcontains⟩ := locate?_eq_exhaustive hparse 28
  exact ⟨grammar, hparse, heq, node, hnode, hspan, hcontains node hnode⟩

/-! ## The names of definitions -/

/-- From an offset on its name, the search comes to a definition, unless the offset is its start and
another one ends there. -/
theorem Nested.locate?_of_name (h : grammar.Nested text) (hmem : definition ∈ grammar.rules)
    (hname : definition.name.span.contains offset)
    (hfree : ∀ other ∈ grammar.rules, other.span.stop = definition.span.start →
      offset ≠ definition.span.start) :
    grammar.locate? offset = some (.ruleName definition) := by
  have hdefinition := h.rules definition hmem
  have hcontains := Span.contains_of_encloses hdefinition.encloses_name hname
  rw [h.locate?_of_contains hmem hcontains hfree, RuleDef.locate?, if_pos hname]

/-- Where a definition ends, the search comes to that definition. -/
theorem Nested.locate?_of_stop (h : grammar.Nested text) (hmem : definition ∈ grammar.rules) :
    grammar.locate? definition.span.stop = definition.locate? definition.span.stop := by
  have hdefinition := h.rules definition hmem
  have hle := hdefinition.marks_name.le
  have hlt := hdefinition.name_stop_lt
  rw [hdefinition.start_eq] at hle
  refine h.locate?_of_contains hmem ?_ ?_
  · exact Span.contains_iff.mpr ⟨hle.trans hlt.le, Nat.le_refl _⟩
  · intro other _ _
    omega

/-- A definition ends at the offset. -/
def EndsAt (grammar : Grammar) (offset : Nat) : Prop :=
  ∃ other ∈ grammar.rules, other.span.stop = offset

/-- **From its name back to a definition.** At an offset on the name in the first definition of a
name, both ends included, the search comes to that very name, and the name leads to its definition
again: always behind the start of the name, and at its start exactly if no definition ends there. If
one does, the search comes to that other definition. -/
theorem locate?_on_defining_name (h : Grammar.parse text = .ok grammar) {name : String}
    {span : Span} (hdefined : grammar.definitionOf? name = some span)
    (hoffset : span.contains offset) :
    ∃ definition, grammar.rule? name = some definition ∧
      (grammar.locate? offset = some (.ruleName definition) ↔
        ¬ (offset = span.start ∧ grammar.EndsAt offset)) ∧
      (¬ (offset = span.start ∧ grammar.EndsAt offset) →
        (grammar.locate? offset).bind Node.name? = some name ∧
        ((grammar.locate? offset).bind Node.name?).bind grammar.definitionOf? = some span) ∧
      ∀ other ∈ grammar.rules, other.span.stop = offset →
        grammar.locate? offset = other.locate? offset := by
  obtain ⟨definition, hrule, rfl⟩ := Option.map_eq_some_iff.mp hdefined
  have hmem := List.mem_of_find?_eq_some hrule
  have hname : definition.name.text = name :=
    beq_iff_eq.mp (List.find?_eq_some_iff_append.mp hrule).1
  have hne := ((Grammar.definitions_inRow h).2.1 definition hmem).name.start_lt_stop
  obtain ⟨document, hvalid, hscan, rfl⟩ := Grammar.exists_document_of_parse h
  have hnested := Document.nested_grammar hvalid hscan
  have hstart := (hnested.rules definition hmem).start_eq
  have hother : ∀ other ∈ (document.grammar text).rules, other.span.stop = offset →
      (document.grammar text).locate? offset = other.locate? offset := by
    rintro other hother rfl
    exact hnested.locate?_of_stop hother
  have hfound : ¬ (offset = definition.name.span.start ∧ (document.grammar text).EndsAt offset) →
      (document.grammar text).locate? offset = some (.ruleName definition) := by
    intro hfree
    refine hnested.locate?_of_name hmem hoffset ?_
    intro other hother hstop heq
    exact hfree ⟨heq.trans hstart.symm, other, hother, hstop.trans heq.symm⟩
  refine ⟨definition, hrule, ⟨?_, hfound⟩, ?_, hother⟩
  · rintro hlocate ⟨heq, other, hmem', hstop⟩
    -- what the search finds in the other definition ends no later than that definition
    rw [hother other hmem' hstop, (hnested.rules other hmem').locate?_eq] at hlocate
    have hle : definition.name.span.stop ≤ other.span.stop :=
      (Span.encloses_iff.mp ((hnested.rules other hmem').of_exhaustive? hlocate).2).2
    omega
  · intro hfree
    rw [hfound hfree, Option.bind_some, Node.name?, hname]
    exact ⟨rfl, hdefined⟩

/-- A literal ends where the name `b` of a definition begins. The name is found at its end. -/
theorem locate?_on_touching_name :
    ∃ grammar, Grammar.parse "unit grammar G;\na:'x'b:c\n" = .ok grammar ∧
      grammar.definitionOf? "b" = some ⟨21, 22⟩ ∧ (⟨21, 22⟩ : Span).contains 22 ∧
      ((grammar.locate? 22).bind Node.name?).bind grammar.definitionOf? = some ⟨21, 22⟩ := by
  have hspan : (Grammar.parse "unit grammar G;\na:'x'b:c\n").map
      (fun grammar => grammar.definitionOf? "b") = .ok (some ⟨21, 22⟩) := by decide +kernel
  obtain ⟨grammar, hparse, hdefined⟩ := Parse.exists_of_map_eq_ok hspan
  have hcontains : (⟨21, 22⟩ : Span).contains 22 := by decide
  obtain ⟨definition, -, -, hfound, -⟩ := locate?_on_defining_name hparse hdefined hcontains
  exact ⟨grammar, hparse, hdefined, hcontains,
    (hfound fun hstart => absurd hstart.1 (by decide)).2⟩

/-- **A name may be missed at its start.** There the literal that ends the definition before it is
found, which names nothing. -/
theorem defining_name_may_be_missed :
    ¬ ∀ (text : String) (grammar : Grammar) (name : String) (span : Span) (offset : Nat),
      Grammar.parse text = .ok grammar → grammar.definitionOf? name = some span →
      span.contains offset →
      ∃ node, grammar.locate? offset = some node ∧ node.name? = some name := by
  intro h
  have hspan : (Grammar.parse "unit grammar G;\na:'x'b:c\n").map
      (fun grammar => (grammar.definitionOf? "b", (grammar.locate? 21).map Node.name?)) =
        .ok (some ⟨21, 22⟩, some none) := by decide +kernel
  obtain ⟨grammar, hparse, hfacts⟩ := Parse.exists_of_map_eq_ok hspan
  obtain ⟨hdefined, hname⟩ := Prod.mk.inj hfacts
  obtain ⟨node, hnode, hnode'⟩ := h _ grammar "b" ⟨21, 22⟩ 21 hparse hdefined (by decide)
  rw [hnode, Option.map_some, hnode'] at hname
  cases hname

end Grammar

end FanServer
