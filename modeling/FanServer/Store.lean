import FanServer.Editor
import FanServer.Navigation

/-!
# The open documents

One entry for each open document, **in the order in which they were opened**, so that "the first
grammar" and "the first action class" are well defined. A new text replaces the old one in place;
the link of a document and the note whether it shows diagnostics stay until the documents are
linked again.
-/

namespace FanServer

/-- An open document. -/
structure Entry where
  /-- the version the editor gave the text -/
  version : Option Int
  /-- the text -/
  text : String
  /-- what the text was parsed to -/
  outcome : Except SyntaxError (Option Model)
  /-- the link to the document's partner -/
  link : Option Link
  /-- whether the diagnostics last published for the document were any -/
  hasDiagnostics : Bool
  /-- the outcome is always that of the text -/
  outcome_eq : outcome = Model.parse text

namespace Entry

/-- The entry of a text that was just opened. -/
def ofText (version : Option Int) (text : String) : Entry :=
  ⟨version, text, Model.parse text, none, false, rfl⟩

/-- The model, if the text has one. -/
def model? (entry : Entry) : Option Model :=
  match entry.outcome with
  | .ok model => model
  | .error _ => none

/-- The syntax error, if the text has one. -/
def syntaxError? (entry : Entry) : Option SyntaxError :=
  match entry.outcome with
  | .ok _ => none
  | .error e => some e

/-- The kind of document, if it has a model. -/
def kind? (entry : Entry) : Option DocumentKind :=
  entry.model?.map Model.kind

/-- The lines of the text. -/
def lines (entry : Entry) : LineIndex :=
  .ofText entry.text

/-- The offset of a place in the text. -/
def offsetAt (entry : Entry) (p : Editor.Position) : Nat :=
  entry.lines.offsetAt p.toPosition

/-- The range of a span of the text. -/
def rangeOf (entry : Entry) (span : Span) : Editor.Range :=
  .ofSpan entry.lines span

end Entry

/-- The open documents by address, in the order of their opening. No address occurs twice. -/
structure Store where
  /-- the documents with their addresses -/
  entries : List (Uri × Entry)
  /-- no address occurs twice -/
  nodup : (entries.map Prod.fst).Nodup

namespace Store

/-- Nothing is open. -/
def empty : Store :=
  ⟨[], List.nodup_nil⟩

/-- The addresses of the open documents. -/
def uris (store : Store) : List Uri :=
  store.entries.map Prod.fst

/-- The entry of a document, if it is open. -/
def get? (store : Store) (uri : Uri) : Option Entry :=
  (store.entries.find? fun entry => entry.1 == uri).map Prod.snd

/-- The number of open documents. -/
def size (store : Store) : Nat :=
  store.entries.length

/-- Change every entry in its place. -/
def mapEntries (store : Store) (f : Uri → Entry → Entry) : Store :=
  ⟨store.entries.map fun entry => (entry.1, f entry.1 entry.2), by
    have h := store.nodup
    rwa [show (store.entries.map fun entry => (entry.1, f entry.1 entry.2)).map Prod.fst =
      store.entries.map Prod.fst by simp [Function.comp_def]]⟩

/-- Change the entry of one document, if it is open. -/
def modify (store : Store) (uri : Uri) (f : Entry → Entry) : Store :=
  store.mapEntries fun key entry => if key = uri then f entry else entry

/-- Open a document behind the others. -/
def append (store : Store) (uri : Uri) (entry : Entry) (h : uri ∉ store.uris) : Store :=
  ⟨store.entries ++ [(uri, entry)], by
    rw [List.map_append, List.nodup_append]
    refine ⟨store.nodup, by simp, ?_⟩
    intro a ha b hb
    obtain rfl : b = uri := by simpa using hb
    rintro rfl
    exact h ha⟩

/-- Give a document a new text. A document that is open keeps its place, its link and the note on
its diagnostics; any other is opened. -/
def upsert (store : Store) (uri : Uri) (version : Option Int) (text : String) : Store :=
  let new := Entry.ofText version text
  if h : uri ∈ store.uris then
    store.modify uri fun old =>
      { new with link := old.link, hasDiagnostics := old.hasDiagnostics }
  else store.append uri new h

/-- Close a document; the others keep their order. -/
def remove (store : Store) (uri : Uri) : Store :=
  ⟨store.entries.filter fun entry => entry.1 != uri,
    store.nodup.sublist (List.filter_sublist.map Prod.fst)⟩

/-- Give a document a link, or none. -/
def setLink (store : Store) (uri : Uri) (link : Option Link) : Store :=
  store.modify uri fun entry => { entry with link }

/-- Note whether a document shows diagnostics. -/
def setHasDiagnostics (store : Store) (uri : Uri) (hasDiagnostics : Bool) : Store :=
  store.modify uri fun entry => { entry with hasDiagnostics }

/-- The first open action class. -/
def firstActions? (store : Store) : Option (Uri × Entry × Actions) :=
  store.entries.findSome? fun (uri, entry) =>
    (entry.model?.bind Model.action?).map fun actions => (uri, entry, actions)

/-- The first open grammar. -/
def firstGrammar? (store : Store) : Option (Uri × Entry × Grammar) :=
  store.entries.findSome? fun (uri, entry) =>
    (entry.model?.bind Model.grammar?).map fun grammar => (uri, entry, grammar)

/-- The places of locations in the open documents. A location in a document that is not open is
dropped. -/
def resolve (store : Store) (locations : List Location) : List Editor.Location :=
  locations.filterMap fun location =>
    (store.get? location.uri).map fun entry => ⟨location.uri, entry.rangeOf location.span⟩

end Store

end FanServer
