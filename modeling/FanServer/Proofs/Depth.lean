import FanServer.Proofs.References

/-!
# How deep grammars are

The limit on the nesting of groups is there for the walks that go down through a grammar. But it
counts brackets, and a walk goes down through parts **and** through separators, which have no
brackets of their own:

* `Rule.Path` — a way down from an element to one inside it, step by step;
* `Derivation.Item.count_part_le` — a path into an item goes into no more parts than its tree has
  groups inside each other;
* `Rule.Path.length_le` — the element in a separator is not repeated, so between two separators on a
  path there is a part, and there are at most **twice as many steps as parts**;
* `Rule.walkWithin` — a walk that gives up where too many calls would be open at once. As many calls
  as the longest path has nodes are enough (`Rule.walkWithin_eq_some_walk`).

Main result: `Grammar.depth_le_of_parse`.
-/

open FanServer.Derivation

namespace FanServer

/-! ## Paths -/

namespace Rule

/-- A step from an element down to one right below it. -/
inductive Step where
  /-- to a part -/
  | part
  /-- to the element in the separator -/
  | separator
  deriving DecidableEq, Repr

/-- The steps lead from an element down to one inside it. The nodes on the way are one more than the
steps. -/
inductive Path : Rule → List Step → Rule → Prop where
  /-- no step leads to the element itself -/
  | here {rule : Rule} : rule.Path [] rule
  /-- the first step leads to a part -/
  | part {rule part inner : Rule} {steps : List Step} :
      part ∈ rule.parts → part.Path steps inner → rule.Path (.part :: steps) inner
  /-- the first step leads to the element in the separator -/
  | separator {rule inner : Rule} {clause : Separator} {steps : List Step} :
      clause ∈ rule.separator? → clause.rule.Path steps inner →
      rule.Path (.separator :: steps) inner

/-- How many groups are around the node at the end of a path from an alternative. Each step to a
part goes into a group, but for the first one: an alternative has no brackets. -/
def groupsAround (steps : List Step) : Nat :=
  steps.tail.count .part

variable {rule inner : Rule} {steps : List Step}

/-- A path into an element without a separator goes into a part, if it goes anywhere. -/
theorem Path.of_separator?_eq_none (h : rule.Path steps inner) (hnone : rule.separator? = none) :
    steps = [] ∨ ∃ part ∈ rule.parts, ∃ below, steps = .part :: below ∧ part.Path below inner := by
  cases h with
  | here => exact .inl rfl
  | part hpart hbelow => exact .inr ⟨_, hpart, _, rfl, hbelow⟩
  | separator hclause hbelow =>
    rw [hnone] at hclause
    cases hclause

/-- A path into a repeated element is one into the element itself, or it goes into the separator. -/
theorem Path.of_repeated {quantifier : Quantifier}
    (h : (rule.repeated quantifier).Path steps inner) :
    steps = [] ∨ rule.Path steps inner ∨
      ∃ clause ∈ quantifier.separator, ∃ below, steps = .separator :: below ∧
        clause.rule.Path below inner := by
  cases h with
  | here => exact .inl rfl
  | part hpart hbelow => exact .inr (.inl (.part hpart hbelow))
  | separator hclause hbelow => exact .inr (.inr ⟨_, hclause, _, rfl, hbelow⟩)

/-- **There are at most twice as many steps as parts**, and one more where the path begins with a
separator: after a separator, the path goes to a part or ends. -/
theorem Path.length_le (h : rule.Path steps inner) (hspelled : rule.Throughout Spelled) :
    steps.length ≤ 2 * steps.count .part + 1 ∧
      (rule.separator? = none → steps.length ≤ 2 * steps.count .part) := by
  induction h with
  | here => simp
  | part hpart _ ih =>
    obtain ⟨hbelow, -⟩ := ih (hspelled.parts _ hpart)
    rw [List.length_cons, List.count_cons_self]
    omega
  | @separator rule inner clause steps hclause _ ih =>
    have hplain : clause.rule.separator? = none := by
      rw [separator?, hspelled.self.separator clause hclause, Option.bind_none]
    have hbelow := (ih (hspelled.separator clause hclause)).2 hplain
    rw [List.length_cons, List.count_cons_of_ne (by decide)]
    refine ⟨by omega, ?_⟩
    intro hnone
    rw [hnone] at hclause
    cases hclause

end Rule

/-! ## Groups on a path -/

namespace Derivation

mutual

/-- A path into the element of a term goes into no more parts than there are groups inside each
other. -/
theorem Term.count_part_le (term : Term) (hvalid : term.Valid) {steps : List Rule.Step}
    {inner : Rule} (h : term.rule.Path steps inner) : steps.count .part ≤ term.depth := by
  have hnone : term.rule.separator? = none := by
    rw [Rule.separator?, Term.quantifier_rule, Option.bind_none]
  rcases h.of_separator?_eq_none hnone with rfl | ⟨part, hpart, below, rfl, hbelow⟩
  · exact Nat.zero_le _
  · cases term with
    | leaf t kind =>
      rw [Term.rule, Leaf.parts_eq_nil hvalid] at hpart
      cases hpart
    | group opening items closing =>
      rw [List.count_cons_self, Term.depth]
      exact Nat.succ_le_succ (Items.count_part_le items hvalid.2.1 hpart hbelow)

/-- So does one into the element of an item: a separator adds no group of its own. -/
theorem Item.count_part_le (item : Item) (hvalid : item.Valid) {steps : List Rule.Step}
    {inner : Rule} (h : item.rule.Path steps inner) : steps.count .part ≤ item.depth := by
  cases item with
  | plain term => exact Term.count_part_le term hvalid h
  | repeated term range =>
    rcases Rule.Path.of_repeated h with rfl | hterm | ⟨clause, hclause, -⟩
    · exact Nat.zero_le _
    · exact Term.count_part_le term hvalid.1 hterm
    · cases hclause
  | separated term range marker separator =>
    rcases Rule.Path.of_repeated h with rfl | hterm | ⟨clause, hclause, below, rfl, hbelow⟩
    · exact Nat.zero_le _
    · exact (Term.count_part_le term hvalid.1 hterm).trans (Nat.le_max_left _ _)
    · obtain rfl := Option.some.inj hclause
      rw [List.count_cons_of_ne (by decide)]
      exact (Term.count_part_le separator hvalid.2.2.2 hbelow).trans (Nat.le_max_right _ _)

/-- So does one into an element of items. -/
theorem Items.count_part_le (items : Items) (hvalid : items.Valid) {rule inner : Rule}
    (hrule : rule ∈ items.rules) {steps : List Rule.Step} (h : rule.Path steps inner) :
    steps.count .part ≤ items.depth := by
  cases items with
  | nil => cases hrule
  | cons item items =>
    rcases List.mem_cons.mp hrule with rfl | hrule
    · exact (Item.count_part_le item hvalid.1 h).trans (Nat.le_max_left _ _)
    · exact (Items.count_part_le items hvalid.2 hrule h).trans (Nat.le_max_right _ _)

end

/-- A path into an alternative goes into one part more: the alternative is a sequence, too. -/
theorem Items.count_part_alternative_le {items : Items} (hvalid : items.Valid) {anchor : Nat}
    {steps : List Rule.Step} {inner : Rule} (h : (items.alternative anchor).Path steps inner) :
    Rule.groupsAround steps ≤ items.depth ∧ steps.count .part ≤ items.depth + 1 := by
  rcases h.of_separator?_eq_none rfl with rfl | ⟨part, hpart, below, rfl, hbelow⟩
  · exact ⟨Nat.zero_le _, Nat.zero_le _⟩
  · have hle := Items.count_part_le items hvalid hpart hbelow
    refine ⟨hle, ?_⟩
    rw [List.count_cons_self]
    exact Nat.succ_le_succ hle

/-- An alternative of a definition is that of items which do not nest deeper than the definition. -/
theorem Definition.Fits.exists_items {levels : Nat} {definition : Definition}
    (hfits : definition.Fits levels) (hvalid : definition.Valid) {alternative : Rule}
    (h : alternative ∈ definition.ruleDef.alternatives) :
    ∃ (items : Items) (anchor : Nat), items.Valid ∧ items.depth ≤ levels ∧
      items.alternative anchor = alternative := by
  rcases List.mem_cons.mp h with rfl | h
  · exact ⟨definition.first, _, hvalid.first, hfits.first, rfl⟩
  · obtain ⟨other, hmem, rfl⟩ := List.mem_map.mp h
    exact ⟨other.2, _, (hvalid.others other hmem).2, hfits.others other hmem, rfl⟩

end Derivation

/-! ## The walk -/

theorem mapM_eq_some_map {α β : Type} {f : α → Option β} {g : α → β} {xs : List α}
    (h : ∀ x ∈ xs, f x = some (g x)) : xs.mapM f = some (xs.map g) := by
  induction xs with
  | nil => rfl
  | cons x xs ih =>
    obtain ⟨hx, hxs⟩ := List.forall_mem_cons.mp h
    rw [List.mapM_cons, hx, ih hxs]
    rfl

namespace Rule

/-- The elements right below an element: its parts and the one in its separator. -/
def children (rule : Rule) : List Rule :=
  rule.parts ++ rule.separator?.toList.map Separator.rule

/-- The walk through an element with no more than `calls` calls open at once: one for the element,
and inside it one after the other for those right below it. It gives up where another call is
needed. -/
def walkWithin : Nat → Rule → Option (List Rule)
  | 0, _ => none
  | calls + 1, rule =>
    (rule.children.mapM (walkWithin calls)).map fun inside => rule :: inside.flatten

theorem walkAll_eq_flatMap (rules : List Rule) : walkAll rules = rules.flatMap walk := by
  induction rules with
  | nil => rw [walkAll, List.flatMap_nil]
  | cons rule rules ih => rw [walkAll, List.flatMap_cons, ih]

/-- The walk visits an element and then goes through those right below it. -/
theorem walk_eq_cons (rule : Rule) : rule.walk = rule :: rule.children.flatMap walk := by
  obtain ⟨kind, span, quantifier⟩ := rule
  have hkind : walkKind kind = (parts ⟨kind, span, quantifier⟩).flatMap walk := by
    cases kind with
    | sequence rules => rw [walkKind, walkAll_eq_flatMap, parts]
    | _ => simp [walkKind, parts]
  have hquantifier : walkQuantifier quantifier =
      ((separator? ⟨kind, span, quantifier⟩).toList.map Separator.rule).flatMap walk := by
    rcases quantifier with _ | ⟨span, range, _ | ⟨span', marker, rule⟩⟩
    · simp [walkQuantifier, separator?]
    · simp [walkQuantifier, separator?]
    · simp [walkQuantifier, separator?]
  rw [walk, hkind, hquantifier, children, List.flatMap_append]

theorem Path.of_mem_children {rule child inner : Rule} {steps : List Step}
    (hchild : child ∈ rule.children) (h : child.Path steps inner) :
    ∃ step, rule.Path (step :: steps) inner := by
  rcases List.mem_append.mp hchild with hpart | hclause
  · exact ⟨.part, .part hpart h⟩
  · obtain ⟨clause, hmem, rfl⟩ := List.mem_map.mp hclause
    exact ⟨.separator, .separator (Option.mem_toList.mp hmem) h⟩

/-- **The walk needs no more calls than the longest path has nodes.** -/
theorem walkWithin_eq_some_walk {calls : Nat} {rule : Rule}
    (h : ∀ steps inner, rule.Path steps inner → steps.length < calls) :
    rule.walkWithin calls = some rule.walk := by
  induction calls generalizing rule with
  | zero => exact absurd (h [] rule .here) (Nat.lt_irrefl 0)
  | succ calls ih =>
    have hbelow : rule.children.mapM (walkWithin calls) = some (rule.children.map walk) := by
      refine mapM_eq_some_map ?_
      intro child hchild
      refine ih ?_
      intro steps inner hpath
      obtain ⟨step, hpath⟩ := hpath.of_mem_children hchild
      exact Nat.lt_of_succ_lt_succ (h _ _ hpath)
    rw [walkWithin, hbelow, Option.map_some, ← List.flatMap_def, ← walk_eq_cons]

end Rule

/-- **The limit on groups bounds every walk.** In a grammar that is parsed, the element in a
separator is not repeated, no node is inside more than 64 groups, and no path from an alternative
down has more than `2 * 64 + 3` nodes; so the walk through an alternative has no more calls open at
once. -/
theorem Grammar.depth_le_of_parse {text : String} {grammar : Grammar}
    (h : Grammar.parse text = .ok grammar) :
    (∀ node ∈ grammar.walk, ∀ clause ∈ node.separator?, clause.rule.quantifier = none) ∧
      ∀ definition ∈ grammar.rules, ∀ alternative ∈ definition.alternatives,
        (∀ steps node, alternative.Path steps node →
          Rule.groupsAround steps ≤ 64 ∧ steps.length + 1 ≤ 131) ∧
        alternative.walkWithin 131 = some alternative.walk := by
  obtain ⟨document, hvalid, hfits, hscan, rfl⟩ := Grammar.parse_eq_ok_iff.mp h
  have hspelled := Document.throughout_spelled hvalid hscan
  refine ⟨?_, ?_⟩
  · intro node hnode
    obtain ⟨definition, hdefinition, hnode⟩ := List.mem_flatMap.mp hnode
    obtain ⟨alternative, halternative, hnode⟩ := Rule.mem_walkAll.mp hnode
    have hspelled := hspelled definition hdefinition alternative halternative
    exact (hspelled.of_mem_walk node hnode).self.separator
  · intro _ hrule alternative halternative
    have hspelled := hspelled _ hrule alternative halternative
    obtain ⟨definition, hdefinition, rfl⟩ := List.mem_map.mp hrule
    obtain ⟨items, anchor, hitems, hdepth, rfl⟩ := (hfits definition hdefinition).exists_items
      (hvalid.definitions definition hdefinition) halternative
    have hpaths : ∀ steps node, (items.alternative anchor).Path steps node →
        Rule.groupsAround steps ≤ 64 ∧ steps.length + 1 ≤ 131 := by
      intro steps node hpath
      obtain ⟨hgroups, hcount⟩ := Items.count_part_alternative_le hitems hpath
      have hlength := (hpath.length_le hspelled).2 rfl
      omega
    exact ⟨hpaths, Rule.walkWithin_eq_some_walk fun steps node hpath => (hpaths steps node hpath).2⟩

/-- An element whose separator holds a group with such an element in it, and so on. -/
def Grammar.deepElement : Nat → List Char
  | 0 => "b(s) % c".toList
  | levels + 1 => "b(s) % [".toList ++ deepElement levels ++ [']']

/-- The bound is reached where 64 such elements are inside each other: a path has 131 nodes, and 130
calls are not enough. -/
theorem Grammar.depth_bound_reached :
    ∃ grammar, Grammar.parse (String.ofList ("unit grammar G;\na: ".toList ++ deepElement 64)) =
        .ok grammar ∧
      ∃ definition ∈ grammar.rules, ∃ alternative ∈ definition.alternatives,
        alternative.walkWithin 130 = none ∧
        alternative.walkWithin 131 = some alternative.walk ∧
        ∃ steps node, alternative.Path steps node ∧ Rule.groupsAround steps ≤ 64 ∧
          steps.length + 1 = 131 := by
  have hdeep : (Grammar.parse (String.ofList ("unit grammar G;\na: ".toList ++ deepElement 64))).map
      (fun grammar => grammar.rules.any fun definition => definition.alternatives.any
        fun alternative => (alternative.walkWithin 130).isNone) = .ok true := by
    rw [Grammar.parse, Token.scan, String.toList_ofList]
    decide +kernel
  obtain ⟨grammar, hparse, hany⟩ := Parse.exists_of_map_eq_ok hdeep
  obtain ⟨definition, hdefinition, hany⟩ := List.any_eq_true.mp hany
  obtain ⟨alternative, halternative, hnone⟩ := List.any_eq_true.mp hany
  rw [Option.isNone_iff_eq_none] at hnone
  obtain ⟨-, hdepth⟩ := Grammar.depth_le_of_parse hparse
  obtain ⟨hpaths, hwalk⟩ := hdepth definition hdefinition alternative halternative
  -- a path that is too long for 130 calls
  obtain ⟨steps, node, hpath, hlength⟩ : ∃ steps node, alternative.Path steps node ∧
      130 ≤ steps.length := by
    by_contra! hshort
    rw [Rule.walkWithin_eq_some_walk hshort] at hnone
    cases hnone
  obtain ⟨hgroups, hlength'⟩ := hpaths steps node hpath
  exact ⟨grammar, hparse, definition, hdefinition, alternative, halternative, hnone, hwalk, steps,
    node, hpath, hgroups, by omega⟩

end FanServer
