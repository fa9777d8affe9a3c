import FanServer.Proofs.Definition
import FanServer.Proofs.Diagnostics
import FanServer.Proofs.Locate
import FanServer.Proofs.Symbols

/-!
# The features agree on what is linked

Whether a rule of a grammar has an action method is shown in three places, each of which finds it
out on its own:

* the **diagnostics**, computed in a pass over the open documents from the first action class;
* the **symbols**, read off the link that the document holds when it is asked for them;
* the **description** of what is at an offset, read off the link too, once the search has come to
  the name of the rule.

What they all come to is `Store.method?`: the first method of the rule's name in the first open
action class. For the diagnostics that is how they are made, for the other two it is what the link
of a settled store leads to. Definitions stand in a row, so the search comes to a name from any
offset behind its start, also where another definition ends right before it.

Main result: `features_agree_of_run`.
-/

open FanServer.Derivation

namespace FanServer

/-! ## The method of a rule -/

namespace Store

variable {store : Store} {settings : DiagnosticSettings} {uri : Uri} {entry : Entry}
  {grammar : Grammar}

/-- The method that implements a rule: the first of its name in the first action class. -/
def method? (store : Store) (name : String) : Option Method :=
  (store.first? Model.action?).bind fun (_, _, actions) =>
    actions.methods.find? fun method => method.name == name

/-- The first open action class has a method of the name. -/
def HasMethod (store : Store) (name : String) : Prop :=
  ∃ uri entry actions, store.IsFirst Model.action? uri entry actions ∧
    ∃ method ∈ actions.methods, method.name = name

theorem isSome_method?_iff {name : String} :
    (store.method? name).isSome ↔ store.HasMethod name := by
  simp only [method?, HasMethod, ← first?_eq_some_iff]
  rcases store.first? Model.action? with _ | ⟨uri, entry, actions⟩
  · simp
  · simp

/-- The link of a grammar in a settled store leads to that method. -/
theorem Settled.method?_link (h : store.Settled settings) (hopen : store.get? uri = some entry)
    (hgrammar : entry.model? = some (.grammar grammar)) (name : String) :
    ((entry.link.bind Link.grammar?).bind fun link => link.method? name) = store.method? name := by
  rw [(h uri entry hopen).1, linkFor_grammar hgrammar, method?]
  rcases store.first? Model.action? with _ | ⟨partnerUri, partner, actions⟩
  · rfl
  · exact GrammarLink.method?_ofActions partnerUri actions name

/-- A pass remarks on the names of the rules that have a method. -/
theorem ranges_diagnosticsFor (settings : DiagnosticSettings)
    (hgrammar : entry.model? = some (.grammar grammar)) :
    (store.diagnosticsFor settings entry).map Editor.Diagnostic.range =
      grammar.rules.filterMap fun definition =>
        (store.method? definition.name.text).map fun _ => entry.rangeOf definition.name.span := by
  rw [diagnosticsFor, hgrammar, firstActions?_eq]
  simp only [method?]
  rcases store.first? Model.action? with _ | ⟨partnerUri, partner, actions⟩
  · simp
  · simp only [GrammarLink.method?_ofActions, List.map_filterMap, Option.map_map, Option.bind_some]
    rfl

end Store

/-! ## Symbols -/

/-- The symbol of a definition, given its method. -/
def RuleDef.symbol (entry : Entry) (method : Option Method) (definition : RuleDef) :
    Editor.Symbol :=
  .ofEntry entry.lines (.ofDeclaration definition.name.text definition.span definition.name.span
    (method.map fun _ => ":action"))

section Symbols

variable {store : Store} {settings : DiagnosticSettings} {uri : Uri} {entry : Entry}
  {grammar : Grammar}

/-- A grammar in a settled store has one symbol, with one below it for each definition. -/
theorem Store.Settled.exists_symbol (h : store.Settled settings)
    (hopen : store.get? uri = some entry) (hgrammar : entry.model? = some (.grammar grammar)) :
    ∃ symbol, store.symbols? uri = some [symbol] ∧
      symbol.children = grammar.rules.map fun definition =>
        definition.symbol entry (store.method? definition.name.text) := by
  refine ⟨.ofEntry entry.lines (grammar.outline entry.link), ?_, ?_⟩
  · rw [Store.symbols?, hopen, Option.bind_some, Entry.symbols?, hgrammar]
    rfl
  · simp only [← h.method?_link hopen hgrammar]
    rw [Grammar.outline, OutlineEntry.ofDocument, Editor.Symbol.ofEntry,
      Editor.Symbol.ofEntries_eq_map, List.map_map]
    rfl

/-- The selections of the linked symbols are the ranges of the names that have a method. -/
theorem selections_symbols (entry : Entry) (method? : String → Option Method)
    (rules : List RuleDef) :
    ((rules.map fun definition => definition.symbol entry (method? definition.name.text)).filter
        fun child => child.detail = some ":action").map Editor.Symbol.selection =
      rules.filterMap fun definition =>
        (method? definition.name.text).map fun _ => entry.rangeOf definition.name.span := by
  induction rules with
  | nil => rfl
  | cons definition rules ih =>
    rw [List.map_cons, List.filterMap_cons, ← ih]
    rcases hmethod : method? definition.name.text with _ | method
    · rw [List.filter_cons_of_neg]
      · rfl
      · simp [RuleDef.symbol, OutlineEntry.ofDeclaration, Editor.Symbol.ofEntry]
    · rw [List.filter_cons_of_pos]
      · rfl
      · simp [RuleDef.symbol, OutlineEntry.ofDeclaration, Editor.Symbol.ofEntry]

end Symbols

/-! ## Descriptions -/

/-- The description mentions an action method. -/
def Hover.MentionsMethod (hover : Hover) : Prop :=
  ∃ name : String, ("has action method `" ++ name ++ "()`").toList <:+: hover.contents.toList

/-- A word has no blank. -/
theorem Pattern.space_notMem_word {w : List Char} (h : w ∈ ofKind .word) : ' ' ∉ w := by
  intro hmem
  exact absurd (isModifier_or_isIdentRest_of_mem h hmem) (by decide)

/-- The name of a rule is a word. -/
theorem Grammar.name_mem_word {text : String} {grammar : Grammar}
    (h : Grammar.parse text = .ok grammar) {definition : RuleDef}
    (hdefinition : definition ∈ grammar.rules) :
    definition.name.text.toList ∈ Pattern.ofKind .word := by
  obtain ⟨t, hkind, ⟨before, after, -, hstands⟩, hname⟩ :=
    Grammar.exists_token_of_parse h hdefinition
  rw [hname, ← hkind]
  exact hstands.mem_ofKind

/-- **The description of a name** mentions a method exactly if there is one. Without it, the
description has too few words. -/
theorem mentionsMethod_iff {link : Option GrammarLink} {definition : RuleDef} {span : Span}
    (hname : ' ' ∉ definition.name.text.toList) :
    (⟨(Node.ruleName definition).describe link, span⟩ : Hover).MentionsMethod ↔
      (link.bind fun link => link.method? definition.name.text).isSome := by
  simp only [Hover.MentionsMethod, Node.describe]
  rcases link.bind fun link => link.method? definition.name.text with _ | method
  · refine iff_of_false ?_ Bool.false_ne_true
    rintro ⟨name, hinfix⟩
    have hcount := hinfix.sublist.count_le ' '
    simp only [String.toList_append, List.count_append, List.count_eq_zero.mpr hname] at hcount
    have hmention : "has action method `".toList.count ' ' = 3 := by decide
    have hrule : "rule `".toList.count ' ' + 0 + "`".toList.count ' ' = 1 := by decide
    omega
  · refine iff_of_true ⟨method.name, ?_⟩ rfl
    refine ⟨("rule `" ++ definition.name.text ++ "`\n\n").toList, [], ?_⟩
    have hcut : "`\n\nhas action method `".toList =
        "`\n\n".toList ++ "has action method `".toList := by decide
    simp only [String.toList_append, hcut, List.append_assoc, List.append_nil]

/-- **The search comes to the name of a rule** from every offset behind its start and up to its
end. -/
theorem Grammar.locate?_of_name {text : String} {grammar : Grammar}
    (h : Grammar.parse text = .ok grammar) {definition : RuleDef}
    (hdefinition : definition ∈ grammar.rules) {offset : Nat}
    (hstart : definition.name.span.start < offset) (hstop : offset ≤ definition.name.span.stop) :
    grammar.locate? offset = some (.ruleName definition) := by
  obtain ⟨document, hvalid, hscan, rfl⟩ := Grammar.exists_document_of_parse h
  have hnested := Document.nested_grammar hvalid hscan
  refine hnested.locate?_of_name hdefinition (Span.contains_iff.mpr ⟨hstart.le, hstop⟩) ?_
  intro other _ _
  rw [← (hnested.rules definition hdefinition).start_eq]
  exact hstart.ne'

/-! ## All features -/

/-- **The features agree on a definition** of an open grammar, whose symbol is `child`. -/
structure Store.AgreesOn (store : Store) (uri : Uri) (entry : Entry) (grammar : Grammar)
    (definition : RuleDef) (child : Editor.Symbol) : Prop where
  /-- the symbol has the name of the rule -/
  name_eq : child.name = definition.name.text
  /-- it leads to the name -/
  selection_eq : child.selection = entry.rangeOf definition.name.span
  /-- it is marked exactly if the first action class has a method of that name -/
  detail_iff : child.detail = some ":action" ↔ store.HasMethod definition.name.text
  /-- at every offset behind the start of the name and up to its end, there is a description of the
  name, which is the answer for any place at that offset; it mentions a method exactly if the symbol
  is marked -/
  hover : ∀ offset, definition.name.span.start < offset → offset ≤ definition.name.span.stop →
    ∃ hover, (Model.grammar grammar).hover? entry.link offset = some hover ∧
      hover.span = definition.name.span ∧
      (∀ p, entry.offsetAt p = offset →
        store.hover? uri p = some ⟨hover.contents, child.selection⟩) ∧
      (hover.MentionsMethod ↔ child.detail = some ":action")

theorem RuleDef.detail_symbol_iff {entry : Entry} {method : Option Method}
    {definition : RuleDef} :
    (definition.symbol entry method).detail = some ":action" ↔ method.isSome := by
  rcases method with _ | method
  · exact iff_of_false nofun Bool.false_ne_true
  · exact iff_of_true rfl rfl

/-- In a settled store, the features agree on each definition. -/
theorem Store.Settled.agreesOn {store : Store} {settings : DiagnosticSettings} {uri : Uri}
    {entry : Entry} {grammar : Grammar} (h : store.Settled settings)
    (hopen : store.get? uri = some entry) (hgrammar : entry.model? = some (.grammar grammar))
    {definition : RuleDef} (hdefinition : definition ∈ grammar.rules) :
    store.AgreesOn uri entry grammar definition
      (definition.symbol entry (store.method? definition.name.text)) where
  name_eq := rfl
  selection_eq := rfl
  detail_iff := RuleDef.detail_symbol_iff.trans isSome_method?_iff
  hover := by
    intro offset hstart hstop
    have hparse := Entry.parse_eq_ok hgrammar
    have hlocate := Grammar.locate?_of_name hparse hdefinition hstart hstop
    have hhover : (Model.grammar grammar).hover? entry.link offset =
        some ⟨(Node.ruleName definition).describe (entry.link.bind Link.grammar?),
          definition.name.span⟩ := by
      rw [Model.hover?, hlocate]
      rfl
    refine ⟨_, hhover, rfl, ?_, ?_⟩
    · rintro p rfl
      rw [Store.hover?, hopen, Option.bind_some, Entry.hover?, hgrammar]
      simp only [Option.bind_eq_bind, Option.bind_some, hhover]
      rfl
    · rw [mentionsMethod_iff (Pattern.space_notMem_word (Grammar.name_mem_word hparse hdefinition)),
        h.method?_link hopen hgrammar, RuleDef.detail_symbol_iff]

/-- **The features agree on what is linked.** After any notifications handled one at a time, the
store has the latest texts in the order of opening, and for an open grammar: it has one symbol, with
one below it for each definition, in order, on which the features agree; and the ranges of the
diagnostics that it shows are the selections of those of them that are marked, in order. -/
theorem features_agree_of_run (settings : DiagnosticSettings) (notifications : List Notification)
    {uri : Uri} {entry : Entry} {grammar : Grammar}
    (hopen : (History.run settings notifications).store.get? uri = some entry)
    (hgrammar : entry.model? = some (.grammar grammar)) :
    (History.run settings notifications).store.Reflects notifications ∧
    ∃ symbol, (History.run settings notifications).store.symbols? uri = some [symbol] ∧
      (shown (History.run settings notifications).published uri).map Editor.Diagnostic.range =
        (symbol.children.filter fun child => child.detail = some ":action").map
          Editor.Symbol.selection ∧
      List.Forall₂ ((History.run settings notifications).store.AgreesOn uri entry grammar)
        grammar.rules symbol.children := by
  have hsettled := History.settled_run settings notifications
  have hshown := History.displayed_run settings notifications uri
  obtain ⟨symbol, hsymbols, hchildren⟩ := hsettled.exists_symbol hopen hgrammar
  refine ⟨History.reflects_run settings notifications, symbol, hsymbols, ?_, ?_⟩
  · rw [hshown, hopen, Option.elim_some, Store.ranges_diagnosticsFor settings hgrammar, hchildren,
      selections_symbols]
  · rw [hchildren, List.forall₂_map_right_iff, List.forall₂_same]
    intro definition hdefinition
    exact hsettled.agreesOn hopen hgrammar hdefinition

/-- A grammar with two definitions of a rule that has a method and one of a rule that has none. -/
theorem features_agree_of_openings :
    ∃ entry grammar symbol,
      (History.run {} methodOpenings).store.get? ⟨"file:///g"⟩ = some entry ∧
      entry.model? = some (.grammar grammar) ∧
      (History.run {} methodOpenings).store.symbols? ⟨"file:///g"⟩ = some [symbol] ∧
      [⟨⟨1, 8⟩, ⟨1, 9⟩⟩, ⟨⟨2, 0⟩, ⟨2, 1⟩⟩] =
        (symbol.children.filter fun child => child.detail = some ":action").map
          Editor.Symbol.selection ∧
      List.Forall₂ ((History.run {} methodOpenings).store.AgreesOn ⟨"file:///g"⟩ entry grammar)
        grammar.rules symbol.children := by
  have hdeclared : ((((History.run {} methodOpenings).store.get? ⟨"file:///g"⟩).bind
      Entry.model?).bind Model.grammar?).isSome := by decide +kernel
  have hranges : (shown (History.run {} methodOpenings).published ⟨"file:///g"⟩).map
      Editor.Diagnostic.range = [⟨⟨1, 8⟩, ⟨1, 9⟩⟩, ⟨⟨2, 0⟩, ⟨2, 1⟩⟩] := by decide +kernel
  obtain ⟨found, hfound⟩ := Option.isSome_iff_exists.mp hdeclared
  simp only [Option.bind_eq_some_iff] at hfound
  obtain ⟨model, ⟨entry, hopen, hmodel⟩, hfound⟩ := hfound
  obtain rfl : model = .grammar found := by
    cases model <;> cases hfound
    rfl
  obtain ⟨-, symbol, hsymbols, hshown, hagree⟩ :=
    features_agree_of_run {} methodOpenings hopen hmodel
  rw [hranges] at hshown
  exact ⟨entry, found, symbol, hopen, hmodel, hsymbols, hshown, hagree⟩

end FanServer
