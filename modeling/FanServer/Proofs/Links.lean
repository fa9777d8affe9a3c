import FanServer.Proofs.OpenDocuments

/-!
# Links are current

A link names its partner and indexes the partner's declarations, so it can be wrong in three ways:
it may lead to a document that is not open, to one of the wrong kind, or to a text that has been
replaced. After every notification it is none of these.

* **index** — of several declarations of a name the first is found (`NameIndex.get?_ofList`);
* **partner** — a grammar is linked to the first open action class and an action class to the first
  open grammar, by the models these have now (`Store.LinksCurrent`);
* **consistency** — so a link always leads to an open document of the other kind, and the first
  grammar and the first action class are linked to each other (`Store.LinksConsistent`).

All of it follows from the store being settled.
-/

namespace FanServer

/-! ## Indexes -/

namespace NameIndex

variable {α : Type}

theorem get?_declare (index : NameIndex α) (name key : String) (value : α) :
    (index.declare name value).get? key =
      (index.get? key).or (if name == key then some value else none) := by
  unfold declare
  by_cases hname : (index.get? name).isSome
  · -- a name that was declared before keeps its first value
    rw [if_pos hname]
    by_cases hkey : name = key
    · subst hkey
      obtain ⟨old, hold⟩ := Option.isSome_iff_exists.mp hname
      rw [hold, Option.some_or]
    · rw [if_neg (by simpa using hkey), Option.or_none]
  · rw [if_neg hname]
    simp only [get?, List.find?_append, List.find?_singleton, Option.map_or]
    by_cases hkey : name == key
    · rw [if_pos hkey, if_pos hkey, Option.map_some]
    · rw [if_neg hkey, if_neg hkey, Option.map_none]

/-- **The first declaration of a name counts.** -/
theorem get?_ofList (declarations : List (String × α)) (name : String) :
    (ofList declarations).get? name =
      (declarations.find? fun entry => entry.1 == name).map Prod.snd := by
  -- the induction is on the declarations, for any index that was there before them
  have hfold : ∀ index : NameIndex α,
      (declarations.foldl (fun index entry => index.declare entry.1 entry.2) index).get? name =
        (index.get? name).or ((declarations.find? fun entry => entry.1 == name).map Prod.snd) := by
    induction declarations with
    | nil => intro index; rw [List.foldl_nil, List.find?_nil, Option.map_none, Option.or_none]
    | cons head tail ih =>
      intro index
      rw [List.foldl_cons, ih, get?_declare, Option.or_assoc, List.find?_cons]
      rcases hhead : head.1 == name with _ | _
      · rw [if_neg Bool.false_ne_true, Option.none_or]
      · rw [if_pos rfl, Option.some_or, Option.map_some]
  exact hfold []

end NameIndex

/-- The link leads to the action class `actions` at `uri`: it has its address and its name, and
finds the first method of each name. -/
def GrammarLink.LeadsTo (link : GrammarLink) (uri : Uri) (actions : Actions) : Prop :=
  link.actionUri = uri ∧ link.actionName = actions.name ∧
    ∀ name, link.method? name = actions.methods.find? fun method => method.name == name

/-- The link leads to the grammar `grammar` at `uri`: it has its address and its name, and finds
the name in the first definition of each rule. -/
def ActionLink.LeadsTo (link : ActionLink) (uri : Uri) (grammar : Grammar) : Prop :=
  link.grammarUri = uri ∧ link.grammarName = grammar.name ∧
    ∀ name, link.rule? name =
      (grammar.rules.find? fun definition => definition.name.text == name).map RuleDef.name

theorem GrammarLink.method?_ofActions (uri : Uri) (actions : Actions) (name : String) :
    (GrammarLink.ofActions uri actions).method? name =
      actions.methods.find? fun method => method.name == name := by
  rw [method?, ofActions, NameIndex.get?_ofList, List.find?_map, Option.map_map]
  exact Option.map_id'

theorem ActionLink.rule?_ofGrammar (uri : Uri) (grammar : Grammar) (name : String) :
    (ActionLink.ofGrammar uri grammar).rule? name =
      (grammar.rules.find? fun definition => definition.name.text == name).map RuleDef.name := by
  rw [rule?, ofGrammar, NameIndex.get?_ofList, List.find?_map, Option.map_map]
  rfl

theorem GrammarLink.leadsTo_ofActions (uri : Uri) (actions : Actions) :
    (GrammarLink.ofActions uri actions).LeadsTo uri actions :=
  ⟨rfl, rfl, method?_ofActions uri actions⟩

theorem ActionLink.leadsTo_ofGrammar (uri : Uri) (grammar : Grammar) :
    (ActionLink.ofGrammar uri grammar).LeadsTo uri grammar :=
  ⟨rfl, rfl, rule?_ofGrammar uri grammar⟩

namespace Store

/-! ## The link a document ought to have -/

section LinkFor

variable {store : Store} {entry : Entry} {uri : Uri} {partner : Entry}

theorem linkFor_grammar {grammar : Grammar} (h : entry.model? = some (.grammar grammar)) :
    store.linkFor entry = (store.first? Model.action?).map fun (uri, _, actions) =>
      .grammar (.ofActions uri actions) := by
  rw [linkFor, h, firstActions?_eq]

theorem linkFor_action {actions : Actions} (h : entry.model? = some (.action actions)) :
    store.linkFor entry = (store.first? Model.grammar?).map fun (uri, _, grammar) =>
      .action (.ofGrammar uri grammar) := by
  rw [linkFor, h, firstGrammar?_eq]

theorem linkFor_noModel (h : entry.model? = none) : store.linkFor entry = none := by
  rw [linkFor, h]

/-- Only a grammar is given a link to an action class, and only to the first one. -/
theorem linkFor_eq_grammar {link : GrammarLink} (h : store.linkFor entry = some (.grammar link)) :
    (∃ grammar, entry.model? = some (.grammar grammar)) ∧
      ∃ uri partner actions, store.IsFirst Model.action? uri partner actions ∧
        link = .ofActions uri actions := by
  rcases hmodel : entry.model? with _ | grammar | actions
  · rw [linkFor_noModel hmodel] at h
    cases h
  · rw [linkFor_grammar hmodel, Option.map_eq_some_iff] at h
    obtain ⟨⟨uri, partner, actions⟩, hfirst, heq⟩ := h
    cases heq
    exact ⟨⟨grammar, rfl⟩, uri, partner, actions, first?_eq_some_iff.mp hfirst, rfl⟩
  · rw [linkFor_action hmodel, Option.map_eq_some_iff] at h
    obtain ⟨_, -, heq⟩ := h
    cases heq

/-- Only an action class is given a link to a grammar, and only to the first one. -/
theorem linkFor_eq_action {link : ActionLink} (h : store.linkFor entry = some (.action link)) :
    (∃ actions, entry.model? = some (.action actions)) ∧
      ∃ uri partner grammar, store.IsFirst Model.grammar? uri partner grammar ∧
        link = .ofGrammar uri grammar := by
  rcases hmodel : entry.model? with _ | grammar | actions
  · rw [linkFor_noModel hmodel] at h
    cases h
  · rw [linkFor_grammar hmodel, Option.map_eq_some_iff] at h
    obtain ⟨_, -, heq⟩ := h
    cases heq
  · rw [linkFor_action hmodel, Option.map_eq_some_iff] at h
    obtain ⟨⟨uri, partner, grammar⟩, hfirst, heq⟩ := h
    cases heq
    exact ⟨⟨actions, rfl⟩, uri, partner, grammar, first?_eq_some_iff.mp hfirst, rfl⟩

end LinkFor

/-- What comes first among the action classes is an action class. -/
theorem IsFirst.model?_action {store : Store} {uri : Uri} {entry : Entry} {actions : Actions}
    (h : store.IsFirst Model.action? uri entry actions) :
    entry.model? = some (.action actions) := by
  obtain ⟨-, -, -, hmodel, -⟩ := h
  obtain ⟨model, hmodel, haction⟩ := Option.bind_eq_some_iff.mp hmodel
  cases model with
  | grammar grammar => cases haction
  | action actions => cases haction; exact hmodel

/-- What comes first among the grammars is a grammar. -/
theorem IsFirst.model?_grammar {store : Store} {uri : Uri} {entry : Entry} {grammar : Grammar}
    (h : store.IsFirst Model.grammar? uri entry grammar) :
    entry.model? = some (.grammar grammar) := by
  obtain ⟨-, -, -, hmodel, -⟩ := h
  obtain ⟨model, hmodel, hgrammar⟩ := Option.bind_eq_some_iff.mp hmodel
  cases model with
  | grammar grammar => cases hgrammar; exact hmodel
  | action actions => cases hgrammar

/-! ## The links of a settled store -/

/-- Every open document has exactly the link that the models of the open documents call for. -/
structure LinksCurrent (store : Store) : Prop where
  /-- a grammar is linked to the first action class -/
  grammar_linked : ∀ {uri entry grammar partnerUri partner actions},
    store.get? uri = some entry → entry.model? = some (.grammar grammar) →
    store.IsFirst Model.action? partnerUri partner actions →
    ∃ link, entry.link = some (.grammar link) ∧ link.LeadsTo partnerUri actions
  /-- without an action class, a grammar has no link -/
  grammar_unlinked : ∀ {uri entry grammar},
    store.get? uri = some entry → entry.model? = some (.grammar grammar) →
    store.HasNone Model.action? → entry.link = none
  /-- an action class is linked to the first grammar -/
  action_linked : ∀ {uri entry actions partnerUri partner grammar},
    store.get? uri = some entry → entry.model? = some (.action actions) →
    store.IsFirst Model.grammar? partnerUri partner grammar →
    ∃ link, entry.link = some (.action link) ∧ link.LeadsTo partnerUri grammar
  /-- without a grammar, an action class has no link -/
  action_unlinked : ∀ {uri entry actions},
    store.get? uri = some entry → entry.model? = some (.action actions) →
    store.HasNone Model.grammar? → entry.link = none
  /-- a document without a model has no link -/
  unlinked : ∀ {uri entry}, store.get? uri = some entry → entry.model? = none → entry.link = none

/-- No link leads to a document that is not open, that is of the wrong kind or whose text has been
replaced. -/
structure LinksConsistent (store : Store) : Prop where
  /-- what a grammar is linked to is open, and is an action class now -/
  of_grammar : ∀ {uri entry link},
    store.get? uri = some entry → entry.link = some (.grammar link) →
    (∃ grammar, entry.model? = some (.grammar grammar)) ∧
      ∃ partner actions, store.get? link.actionUri = some partner ∧
        partner.model? = some (.action actions) ∧ link.LeadsTo link.actionUri actions
  /-- what an action class is linked to is open, and is a grammar now -/
  of_action : ∀ {uri entry link},
    store.get? uri = some entry → entry.link = some (.action link) →
    (∃ actions, entry.model? = some (.action actions)) ∧
      ∃ partner grammar, store.get? link.grammarUri = some partner ∧
        partner.model? = some (.grammar grammar) ∧ link.LeadsTo link.grammarUri grammar
  /-- the first grammar and the first action class are linked to each other -/
  reciprocal : ∀ {grammarUri grammarEntry grammar actionUri actionEntry actions},
    store.IsFirst Model.grammar? grammarUri grammarEntry grammar →
    store.IsFirst Model.action? actionUri actionEntry actions →
    (∃ link, grammarEntry.link = some (.grammar link) ∧ link.LeadsTo actionUri actions) ∧
      ∃ link, actionEntry.link = some (.action link) ∧ link.LeadsTo grammarUri grammar

section Settled

variable {store : Store} {settings : DiagnosticSettings}

theorem Settled.linksCurrent (h : store.Settled settings) : store.LinksCurrent where
  grammar_linked := by
    intro uri entry grammar partnerUri partner actions hopen hmodel hfirst
    refine ⟨.ofActions partnerUri actions, ?_, GrammarLink.leadsTo_ofActions partnerUri actions⟩
    rw [(h uri entry hopen).1, linkFor_grammar hmodel, first?_eq_some_iff.mpr hfirst]
    rfl
  grammar_unlinked := by
    intro uri entry grammar hopen hmodel hnone
    rw [(h uri entry hopen).1, linkFor_grammar hmodel, first?_eq_none_iff.mpr hnone]
    rfl
  action_linked := by
    intro uri entry actions partnerUri partner grammar hopen hmodel hfirst
    refine ⟨.ofGrammar partnerUri grammar, ?_, ActionLink.leadsTo_ofGrammar partnerUri grammar⟩
    rw [(h uri entry hopen).1, linkFor_action hmodel, first?_eq_some_iff.mpr hfirst]
    rfl
  action_unlinked := by
    intro uri entry actions hopen hmodel hnone
    rw [(h uri entry hopen).1, linkFor_action hmodel, first?_eq_none_iff.mpr hnone]
    rfl
  unlinked := by
    intro uri entry hopen hmodel
    rw [(h uri entry hopen).1, linkFor_noModel hmodel]

theorem Settled.linksConsistent (h : store.Settled settings) : store.LinksConsistent where
  of_grammar := by
    intro uri entry link hopen hlink
    rw [(h uri entry hopen).1] at hlink
    obtain ⟨hgrammar, partnerUri, partner, actions, hfirst, rfl⟩ := linkFor_eq_grammar hlink
    exact ⟨hgrammar, partner, actions, hfirst.get?, hfirst.model?_action,
      GrammarLink.leadsTo_ofActions partnerUri actions⟩
  of_action := by
    intro uri entry link hopen hlink
    rw [(h uri entry hopen).1] at hlink
    obtain ⟨haction, partnerUri, partner, grammar, hfirst, rfl⟩ := linkFor_eq_action hlink
    exact ⟨haction, partner, grammar, hfirst.get?, hfirst.model?_grammar,
      ActionLink.leadsTo_ofGrammar partnerUri grammar⟩
  reciprocal := by
    intro grammarUri grammarEntry grammar actionUri actionEntry actions hgrammar haction
    exact ⟨h.linksCurrent.grammar_linked hgrammar.get? hgrammar.model?_grammar haction,
      h.linksCurrent.action_linked haction.get? haction.model?_action hgrammar⟩

end Settled

end Store

/-- **Links are current.** After any notifications handled one at a time, the documents stand in the
order of their opening with their latest texts, and each has exactly the link that their models
call for; so no link leads to a document that is closed, of the wrong kind or outdated, and the
first grammar and the first action class are linked to each other. -/
theorem links_current_of_run (settings : DiagnosticSettings) (notifications : List Notification) :
    (History.run settings notifications).store.Reflects notifications ∧
      (History.run settings notifications).store.LinksCurrent ∧
      (History.run settings notifications).store.LinksConsistent := by
  have h := History.settled_run settings notifications
  exact ⟨History.reflects_run settings notifications, h.linksCurrent, h.linksConsistent⟩

end FanServer
