import FanServer.Proofs.Links
import FanServer.Proofs.Methods
import FanServer.Proofs.Parse
import FanServer.Proofs.Position
import FanServer.Proofs.Scan

/-!
# From a method to the rule it implements

Where a rule is defined is asked in an action class but answered about a grammar: the span comes
from an index that the action class holds, and it becomes a range by the line index of the grammar's
text. The answer is right because

* the index is that of the first open grammar as it is now (`Store.LinksCurrent`);
* at most one method stands at a place (`Actions.methodAt?_eq_some_iff`);
* the name of a rule is a token of the text, so its span covers that name
  (`Grammar.exists_token_of_parse`);
* a range leads back to the span it was made from (`LineIndex.offsetAt_positionAfter`), as long as
  its lines and columns fit in 32 bits (`Position.Fits`).
-/

namespace FanServer

/-! ## Places of 32 bits -/

theorem Editor.Position.toPosition_ofPosition {p : FanServer.Position} (h : p.Fits) :
    (Editor.Position.ofPosition p).toPosition = p := by
  rw [toPosition, ofPosition]
  simp only [UInt32.toNat_ofNat_of_lt' h.1, UInt32.toNat_ofNat_of_lt' h.2]

/-- In the text, `name` stands between the two ends of the range. -/
def Editor.Range.Covers (range : Editor.Range) (text name : List Char) : Prop :=
  ∃ before after, text = before ++ name ++ after ∧
    range.start.toPosition = Text.positionAfter before ∧
    range.stop.toPosition = Text.positionAfter (before ++ name)

namespace Entry

variable {entry : Entry} {name : List Char}

/-- The range of the span of a name covers that name. -/
theorem covers_rangeOf {before after : List Char} {span : Span}
    (htext : entry.text.toList = before ++ name ++ after)
    (hspan : span = ⟨Text.byteCount before, Text.byteCount before + Text.byteCount name⟩)
    (hstart : (entry.lines.positionAt span.start).Fits)
    (hstop : (entry.lines.positionAt span.stop).Fits) :
    (entry.rangeOf span).Covers entry.text.toList name := by
  have hplace : entry.lines.positionAt span.start = Text.positionAfter before := by
    rw [hspan, lines]
    exact LineIndex.positionAt_byteCount (htext.trans (List.append_assoc _ _ _))
  have hplace' : entry.lines.positionAt span.stop = Text.positionAfter (before ++ name) := by
    rw [hspan, lines, ← Text.byteCount_append]
    exact LineIndex.positionAt_byteCount htext
  refine ⟨before, after, htext, ?_, ?_⟩
  · rw [← hplace]
    exact Editor.Position.toPosition_ofPosition hstart
  · rw [← hplace']
    exact Editor.Position.toPosition_ofPosition hstop

/-- What a range covers is read at its ends. -/
theorem slice?_of_covers {range : Editor.Range} (h : range.Covers entry.text.toList name) :
    Text.slice? entry.text.toList ⟨entry.offsetAt range.start, entry.offsetAt range.stop⟩ =
      some name := by
  obtain ⟨before, after, htext, hstart, hstop⟩ := h
  have hbefore : entry.offsetAt range.start = Text.byteCount before := by
    rw [offsetAt, hstart, lines]
    exact LineIndex.offsetAt_positionAfter (htext.trans (List.append_assoc _ _ _))
  have hname : entry.offsetAt range.stop = Text.byteCount before + Text.byteCount name := by
    rw [offsetAt, hstop, lines, ← Text.byteCount_append]
    exact LineIndex.offsetAt_positionAfter htext
  rw [hbefore, hname, htext]
  exact Text.slice?_append before name after

end Entry

/-! ## Names of rules -/

/-- The name of a rule is a word of the text. -/
theorem Grammar.exists_token_of_parse {text : String} {grammar : Grammar}
    (h : Grammar.parse text = .ok grammar) {definition : RuleDef}
    (hdefinition : definition ∈ grammar.rules) :
    ∃ t : Token, t.kind = .word ∧ t.StandsIn text.toList ∧
      definition.name = ⟨t.text, t.span⟩ := by
  obtain ⟨document, hvalid, hscan, rfl⟩ := Grammar.exists_document_of_parse h
  obtain ⟨tree, htree, rfl⟩ := List.mem_map.mp hdefinition
  have hmem : tree.name ∈ document.tokens := by
    refine List.mem_append_right _ (List.mem_cons_of_mem _ ?_)
    exact List.mem_flatMap.mpr ⟨tree, htree, List.mem_cons_self⟩
  exact ⟨tree.name, (hvalid.definitions tree htree).name_kind,
    Token.standsIn_of_scan hscan tree.name hmem, rfl⟩

/-- The span of a rule's name covers that name in the text. -/
theorem Entry.exists_name {entry : Entry} {grammar : Grammar}
    (h : entry.model? = some (.grammar grammar)) {definition : RuleDef}
    (hdefinition : definition ∈ grammar.rules) :
    ∃ before after, entry.text.toList = before ++ definition.name.text.toList ++ after ∧
      definition.name.span = ⟨Text.byteCount before,
        Text.byteCount before + Text.byteCount definition.name.text.toList⟩ := by
  obtain ⟨t, -, ⟨before, after, htext, hstands⟩, hname⟩ :=
    Grammar.exists_token_of_parse (Entry.parse_eq_ok h) hdefinition
  rw [hname]
  exact ⟨before, after, htext, hstands.span_eq⟩

/-! ## The first definition of a name -/

/-- The definition is the first one of its name. -/
def Grammar.IsFirstDefinition (grammar : Grammar) (name : String) (definition : RuleDef) : Prop :=
  ∃ before after, grammar.rules = before ++ definition :: after ∧ definition.name.text = name ∧
    ∀ other ∈ before, other.name.text ≠ name

theorem Grammar.rule?_eq_some_iff {grammar : Grammar} {name : String} {definition : RuleDef} :
    grammar.rule? name = some definition ↔ grammar.IsFirstDefinition name definition := by
  rw [rule?, List.find?_eq_some_iff_append, IsFirstDefinition]
  simp only [beq_iff_eq, Bool.not_eq_true', beq_eq_false_iff_ne]
  refine ⟨?_, ?_⟩
  · rintro ⟨hname, before, after, hsplit, hbefore⟩
    exact ⟨before, after, hsplit, hname, hbefore⟩
  · rintro ⟨before, after, hsplit, hname, hbefore⟩
    exact ⟨hname, before, after, hsplit, hbefore⟩

theorem Grammar.exists_rule?_iff {grammar : Grammar} {name : String} :
    (∃ definition, grammar.rule? name = some definition) ↔ name ∈ grammar.ruleNames := by
  rw [← Option.isSome_iff_exists, rule?, List.find?_isSome, ruleNames, List.mem_map]
  simp only [beq_iff_eq]

/-! ## The answer -/

theorem Link.action?_eq_some_iff {link : Link} {actionLink : ActionLink} :
    link.action? = some actionLink ↔ link = .action actionLink := by
  cases link <;> simp [action?]

/-- In an action class, the answer comes from the link: it is the rule of the name of the method at
the place. -/
theorem Entry.definition?_eq_some_iff {entry : Entry} {actions : Actions}
    (h : entry.model? = some (.action actions)) {uri : Uri} {p : Editor.Position}
    {target : Location} :
    entry.definition? uri p = some target ↔
      ∃ method ∈ actions.methods, method.span.contains (entry.offsetAt p) ∧
        ∃ link rule, entry.link = some (.action link) ∧ link.rule? method.name = some rule ∧
          target = ⟨link.grammarUri, rule.span⟩ := by
  simp only [definition?, h, Option.bind_eq_bind, Option.bind_some, Model.definition?,
    Option.bind_eq_some_iff, Actions.methodAt?_eq_some_iff (methods_eq h), Option.pure_def,
    Option.some.injEq, Link.action?_eq_some_iff]
  refine ⟨?_, ?_⟩
  · rintro ⟨method, ⟨hmem, hcontains⟩, link, ⟨_, hlink, rfl⟩, rule, hrule, rfl⟩
    exact ⟨method, hmem, hcontains, link, rule, hlink, hrule, rfl⟩
  · rintro ⟨method, hmem, hcontains, link, rule, hlink, hrule, rfl⟩
    exact ⟨method, ⟨hmem, hcontains⟩, link, ⟨_, hlink, rfl⟩, rule, hrule, rfl⟩

namespace Store

variable {store : Store} {settings : DiagnosticSettings} {uri : Uri} {entry : Entry}
  {actions : Actions} {p : Editor.Position}

theorem definition?_eq_some_iff (hopen : store.get? uri = some entry) {target : Editor.Location} :
    store.definition? uri p = some target ↔
      ∃ found partner, entry.definition? uri p = some found ∧
        store.get? found.uri = some partner ∧ target = ⟨found.uri, partner.rangeOf found.span⟩ := by
  simp only [definition?, hopen, Option.bind_eq_bind, Option.bind_some, Option.bind_eq_some_iff,
    resolve]
  refine exists_congr fun found => ?_
  rcases h : store.get? found.uri with _ | partner
  · simp [h]
  · simp [h, eq_comm]

/-- **In a settled store**, the answer is the first definition, in the first grammar, of the name of
the method at the place. -/
theorem Settled.definition?_eq_some_iff (h : store.Settled settings)
    (hopen : store.get? uri = some entry) (hactions : entry.model? = some (.action actions))
    {target : Editor.Location} :
    store.definition? uri p = some target ↔
      ∃ method ∈ actions.methods, method.span.contains (entry.offsetAt p) ∧
        ∃ partnerUri partner grammar definition,
          store.IsFirst Model.grammar? partnerUri partner grammar ∧
          grammar.rule? method.name = some definition ∧
          target = ⟨partnerUri, partner.rangeOf definition.name.span⟩ := by
  rw [Store.definition?_eq_some_iff hopen]
  refine ⟨?_, ?_⟩
  · rintro ⟨found, partner, hfound, hpartner, rfl⟩
    obtain ⟨method, hmem, hcontains, link, rule, hlink, hrule, rfl⟩ :=
      (Entry.definition?_eq_some_iff hactions).mp hfound
    rw [(h uri entry hopen).1] at hlink
    obtain ⟨-, partnerUri, partner', grammar, hfirst, rfl⟩ := linkFor_eq_action hlink
    obtain rfl : partner' = partner := Option.some.inj (hfirst.get?.symm.trans hpartner)
    rw [ActionLink.rule?_ofGrammar, Option.map_eq_some_iff] at hrule
    obtain ⟨definition, hrule, rfl⟩ := hrule
    exact ⟨method, hmem, hcontains, partnerUri, partner', grammar, definition, hfirst, hrule, rfl⟩
  · rintro ⟨method, hmem, hcontains, partnerUri, partner, grammar, definition, hfirst, hrule, rfl⟩
    obtain ⟨link, hlink, huri, -, hrules⟩ := h.linksCurrent.action_linked hopen hactions hfirst
    have hfound : link.rule? method.name = some definition.name := by
      rw [hrules, ← Grammar.rule?, hrule, Option.map_some]
    subst huri
    exact ⟨⟨link.grammarUri, definition.name.span⟩, partner,
      (Entry.definition?_eq_some_iff hactions).mpr
        ⟨method, hmem, hcontains, link, definition.name, hlink, hfound, rfl⟩, hfirst.get?, rfl⟩

end Store

/-- At the offset stands the name of a method of the action class, both ends included, and the first
open grammar has a rule of that name. -/
structure Store.Implements (store : Store) (actions : Actions) (offset : Nat) (method : Method)
    (partnerUri : Uri) (partner : Entry) (grammar : Grammar) : Prop where
  /-- the method is one of the action class -/
  mem_methods : method ∈ actions.methods
  /-- the offset lies on its name -/
  contains : method.span.contains offset
  /-- the grammar is the first one that is open -/
  isFirst : store.IsFirst Model.grammar? partnerUri partner grammar
  /-- a rule of the grammar has its name -/
  mem_ruleNames : method.name ∈ grammar.ruleNames

/-- **From a method to its rule.** After any notifications handled one at a time, the store has the
latest texts in the order of opening, and in an open action class: there is an answer exactly if the
place lies on the name of a method and the first open grammar has a rule of that name. The answer is
then the name in the rule's first definition in that grammar, and its range covers that very name in
the grammar's text, as long as lines and columns fit in 32 bits. -/
theorem definition_of_method_of_run (settings : DiagnosticSettings)
    (notifications : List Notification) {uri : Uri} {entry : Entry} {actions : Actions}
    (hopen : (History.run settings notifications).store.get? uri = some entry)
    (hactions : entry.model? = some (.action actions)) (p : Editor.Position) :
    (History.run settings notifications).store.Reflects notifications ∧
    (((History.run settings notifications).store.definition? uri p).isSome ↔
      ∃ method partnerUri partner grammar,
        (History.run settings notifications).store.Implements actions (entry.offsetAt p) method
          partnerUri partner grammar) ∧
    ∀ method partnerUri partner grammar,
      (History.run settings notifications).store.Implements actions (entry.offsetAt p) method
        partnerUri partner grammar →
      ∃ definition, grammar.IsFirstDefinition method.name definition ∧
        grammar.definitionOf? method.name = some definition.name.span ∧
        (History.run settings notifications).store.definition? uri p =
          some ⟨partnerUri, partner.rangeOf definition.name.span⟩ ∧
        ((partner.lines.positionAt definition.name.span.start).Fits →
          (partner.lines.positionAt definition.name.span.stop).Fits →
          (partner.rangeOf definition.name.span).Covers partner.text.toList method.name.toList ∧
          Text.slice? partner.text.toList
            ⟨partner.offsetAt (partner.rangeOf definition.name.span).start,
              partner.offsetAt (partner.rangeOf definition.name.span).stop⟩ =
              some method.name.toList) := by
  have hsettled := History.settled_run settings notifications
  refine ⟨History.reflects_run settings notifications, ?_, ?_⟩
  · simp only [Option.isSome_iff_exists, hsettled.definition?_eq_some_iff hopen hactions]
    refine ⟨?_, ?_⟩
    · rintro ⟨_, method, hmem, hcontains, partnerUri, partner, grammar, definition, hfirst, hrule,
        -⟩
      exact ⟨method, partnerUri, partner, grammar, hmem, hcontains, hfirst,
        Grammar.exists_rule?_iff.mp ⟨definition, hrule⟩⟩
    · rintro ⟨method, partnerUri, partner, grammar, hmem, hcontains, hfirst, hname⟩
      obtain ⟨definition, hrule⟩ := Grammar.exists_rule?_iff.mpr hname
      exact ⟨_, method, hmem, hcontains, partnerUri, partner, grammar, definition, hfirst, hrule,
        rfl⟩
  · rintro method partnerUri partner grammar ⟨hmem, hcontains, hfirst, hname⟩
    obtain ⟨definition, hrule⟩ := Grammar.exists_rule?_iff.mpr hname
    have hdefinition := Grammar.rule?_eq_some_iff.mp hrule
    refine ⟨definition, hdefinition, ?_, ?_, fun hstart hstop => ?_⟩
    · rw [Grammar.definitionOf?, hrule, Option.map_some]
    · exact (hsettled.definition?_eq_some_iff hopen hactions).mpr
        ⟨method, hmem, hcontains, partnerUri, partner, grammar, definition, hfirst, hrule, rfl⟩
    · obtain ⟨before, after, hrules, htext, -⟩ := hdefinition
      obtain ⟨before, after, hsplit, hspan⟩ := Entry.exists_name hfirst.model?_grammar
        (hrules ▸ List.mem_append_right _ List.mem_cons_self)
      rw [htext] at hsplit hspan
      have hcovers := Entry.covers_rangeOf hsplit hspan hstart hstop
      exact ⟨hcovers, Entry.slice?_of_covers hcovers⟩

/-- A grammar is opened that defines `m` twice, first behind a character of two UTF-16 units, and
then an action class with a method `m`. -/
def methodOpenings : List Notification :=
  [.opened ⟨"file:///g"⟩ 1 "unit grammar G;\nk: '𝄞' m: n\nm: k\n",
   .opened ⟨"file:///a"⟩ 1 "unit class A is Actions;\n  method m ($x) \x7b\n"]

/-- Right behind the name of the method, the answer is the first definition of `m`. -/
theorem definition_of_method_of_openings :
    ∃ entry actions method partner grammar,
      (History.run {} methodOpenings).store.get? ⟨"file:///a"⟩ = some entry ∧
      entry.model? = some (.action actions) ∧
      (History.run {} methodOpenings).store.Implements actions (entry.offsetAt ⟨1, 10⟩) method
        ⟨"file:///g"⟩ partner grammar ∧
      (History.run {} methodOpenings).store.definition? ⟨"file:///a"⟩ ⟨1, 10⟩ =
        some ⟨⟨"file:///g"⟩, ⟨⟨1, 8⟩, ⟨1, 9⟩⟩⟩ ∧
      Text.slice? partner.text.toList ⟨partner.offsetAt ⟨1, 8⟩, partner.offsetAt ⟨1, 9⟩⟩ =
        some method.name.toList := by
  have hdeclared : ((((History.run {} methodOpenings).store.get? ⟨"file:///a"⟩).bind
      Entry.model?).bind Model.action?).isSome := by decide +kernel
  have hanswer : (History.run {} methodOpenings).store.definition? ⟨"file:///a"⟩ ⟨1, 10⟩ =
      some ⟨⟨"file:///g"⟩, ⟨⟨1, 8⟩, ⟨1, 9⟩⟩⟩ := by decide +kernel
  obtain ⟨actions, hactions⟩ := Option.isSome_iff_exists.mp hdeclared
  simp only [Option.bind_eq_some_iff] at hactions
  obtain ⟨model, ⟨entry, hopen, hmodel⟩, hactions⟩ := hactions
  obtain rfl : model = .action actions := by
    cases model <;> cases hactions
    rfl
  obtain ⟨hreflects, hsome, hall⟩ :=
    definition_of_method_of_run {} methodOpenings hopen hmodel ⟨1, 10⟩
  obtain ⟨method, partnerUri, partner, grammar, himplements⟩ := hsome.mp (by rw [hanswer]; rfl)
  obtain ⟨definition, -, -, hdefinition, hcovers⟩ :=
    hall method partnerUri partner grammar himplements
  rw [hanswer, Option.some.injEq, Editor.Location.mk.injEq] at hdefinition
  obtain ⟨rfl, hrange⟩ := hdefinition
  have hlatest : openDocument? methodOpenings.reverse ⟨"file:///g"⟩ =
      some ⟨0, 1, "unit grammar G;\nk: '𝄞' m: n\nm: k\n"⟩ := by
    simp [openDocument?, methodOpenings, Notification.stored?]
  have htext : partner.text = "unit grammar G;\nk: '𝄞' m: n\nm: k\n" := by
    have htexts := hreflects.texts ⟨"file:///g"⟩
    rw [himplements.isFirst.get?, hlatest, Option.map_some, Option.map_some, Option.some.injEq,
      Prod.mk.injEq] at htexts
    exact htexts.2
  have hfits : ∀ offset, (partner.lines.positionAt offset).Fits := by
    rw [Entry.lines, htext]
    exact LineIndex.fits_positionAt (by decide +kernel)
  refine ⟨entry, actions, method, partner, grammar, hopen, hmodel, himplements, hanswer, ?_⟩
  have hslice := (hcovers (hfits _) (hfits _)).2
  rwa [← hrange] at hslice

end FanServer
