import FanServer.Store

/-!
# Linking the open documents

Every grammar is linked to the first open action class, and every action class to the first open
grammar. From the links follow the diagnostics:

* a grammar shows one for each rule that has an action method;
* a text that is no grammar for a syntax error shows that error, if such errors are reported;
* anything else shows none.

`Store.relink` renews all links at once and gives the diagnostics to publish. Nothing is published
for an action class, except to clear what it still shows from the time before it became one.
-/

namespace FanServer

/-- The diagnostic for a rule of `entry` that is implemented by a method of the document
`partner` at `uri`. -/
def linkedRuleDiagnostic (settings : DiagnosticSettings) (entry : Entry) (uri : Uri)
    (partner : Entry) (definition : RuleDef) (method : Method) : Editor.Diagnostic where
  range := entry.rangeOf definition.name.span
  severity := settings.linkedRuleSeverity
  message := settings.linkedRuleMessage
  related := some ⟨⟨uri, partner.rangeOf method.span⟩, method.name ++ "()"⟩

/-- The diagnostic for a syntax error. One that points nowhere is shown at the beginning. -/
def syntaxErrorDiagnostic (entry : Entry) (e : SyntaxError) : Editor.Diagnostic where
  range := entry.rangeOf (e.span?.getD ⟨0, 0⟩)
  severity := .error
  message := e.message
  related := none

namespace Store

/-- The link that a document ought to have. -/
def linkFor (store : Store) (entry : Entry) : Option Link :=
  match entry.model? with
  | some (.grammar _) =>
    store.firstActions?.map fun (uri, _, actions) => .grammar (.ofActions uri actions)
  | some (.action _) =>
    store.firstGrammar?.map fun (uri, _, grammar) => .action (.ofGrammar uri grammar)
  | none => none

/-- The diagnostics that a document ought to show. -/
def diagnosticsFor (store : Store) (settings : DiagnosticSettings) (entry : Entry) :
    List Editor.Diagnostic :=
  match entry.model? with
  | some (.grammar grammar) =>
    match store.firstActions? with
    | some (uri, partner, actions) =>
      let link := GrammarLink.ofActions uri actions
      grammar.rules.filterMap fun definition =>
        (link.method? definition.name.text).map fun method =>
          linkedRuleDiagnostic settings entry uri partner definition method
    | none => []
  | some (.action _) => []
  | none =>
    match entry.syntaxError? with
    | some e => if settings.reportSyntaxErrors then [syntaxErrorDiagnostic entry e] else []
    | none => []

/-- The document's diagnostics have to be published: it is no action class, or it still shows
some. -/
def mustPublish (entry : Entry) : Bool :=
  entry.kind? != some .action || entry.hasDiagnostics

/-- Renew all links, and give the diagnostics to publish in the order of the documents. -/
def relink (store : Store) (settings : DiagnosticSettings) : Store × List Editor.Update :=
  let relinked := store.mapEntries fun _ entry =>
    { entry with
      link := store.linkFor entry
      hasDiagnostics := !(store.diagnosticsFor settings entry).isEmpty }
  let updates := (store.entries.filter fun (_, entry) => mustPublish entry).map
    fun (uri, entry) => ⟨uri, entry.version, store.diagnosticsFor settings entry⟩
  (relinked, updates)

end Store

/-- What has to be published for a document that was just closed: that it has no diagnostics any
more, unless it is an action class, which has none. -/
def Entry.cleared? (entry : Entry) (uri : Uri) : Option Editor.Update :=
  if entry.kind? = some .action then none else some ⟨uri, entry.version, []⟩

end FanServer
