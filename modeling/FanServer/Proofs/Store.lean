import FanServer.Store
import Mathlib.Data.List.Basic

/-!
# The open documents, seen by address and by order

The store is a list of entries, and two views of it are all that the other modules use:

* **by address** — `Store.get?` after each operation: `get?_mapEntries`, `get?_upsert`,
  `get?_remove`;
* **by order** — `Store.IsFirst` says which document comes first among those with a model of a
  given kind, and `first?_eq_some_iff` that this is the document which a search finds.

What an entry says about its text depends on the text alone, because its outcome is always that of
the text. So an operation that keeps the texts keeps both views, up to the entries themselves.
-/

namespace FanServer

/-! ## Entries -/

/-- **All that a text can be a model of**: a grammar that it parses to, or an action class that it
declares. -/
theorem Model.parse_cases {text : String} {model : Model}
    (h : Model.parse text = .ok (some model)) :
    (∃ grammar, Grammar.parse text = .ok grammar ∧ model = .grammar grammar) ∨
      ∃ actions, Actions.ofText? text = some actions ∧ model = .action actions := by
  unfold Model.parse at h
  split at h
  · rcases hparse : Grammar.parse text with e | grammar <;> rw [hparse] at h <;> cases h
    exact .inl ⟨grammar, rfl, rfl⟩
  · rw [Except.ok.injEq, Option.map_eq_some_iff] at h
    obtain ⟨actions, hactions, rfl⟩ := h
    exact .inr ⟨actions, hactions, rfl⟩
  · cases h

namespace Entry

/-- The model is that of the text. -/
theorem model?_congr {entry other : Entry} (h : entry.text = other.text) :
    entry.model? = other.model? := by
  rw [model?, model?, entry.outcome_eq, other.outcome_eq, h]

/-- The syntax error is that of the text. -/
theorem syntaxError?_congr {entry other : Entry} (h : entry.text = other.text) :
    entry.syntaxError? = other.syntaxError? := by
  rw [syntaxError?, syntaxError?, entry.outcome_eq, other.outcome_eq, h]

/-- Ranges are those of the text. -/
theorem rangeOf_congr {entry other : Entry} (h : entry.text = other.text) :
    entry.rangeOf = other.rangeOf := by
  funext span
  rw [rangeOf, rangeOf, lines, lines, h]

theorem model?_eq_some_iff {entry : Entry} {model : Model} :
    entry.model? = some model ↔ entry.outcome = .ok (some model) := by
  unfold model?
  split
  · next h => rw [h, Except.ok.injEq]
  · next h => simp [h]

/-- A grammar is what its text parses to. -/
theorem parse_eq_ok {entry : Entry} {grammar : Grammar}
    (h : entry.model? = some (.grammar grammar)) : Grammar.parse entry.text = .ok grammar := by
  rw [model?_eq_some_iff, entry.outcome_eq] at h
  obtain ⟨found, hparse, heq⟩ | ⟨found, -, heq⟩ := Model.parse_cases h <;> cases heq
  exact hparse

/-- An action class is what its text declares. -/
theorem ofText?_eq_some {entry : Entry} {actions : Actions}
    (h : entry.model? = some (.action actions)) : Actions.ofText? entry.text = some actions := by
  rw [model?_eq_some_iff, entry.outcome_eq] at h
  obtain ⟨found, -, heq⟩ | ⟨found, hdeclared, heq⟩ := Model.parse_cases h <;> cases heq
  exact hdeclared

theorem model?_eq_none_of_error {entry : Entry} {e : SyntaxError} (h : entry.outcome = .error e) :
    entry.model? = none := by
  rw [model?, h]

theorem syntaxError?_eq_some_iff {entry : Entry} {e : SyntaxError} :
    entry.syntaxError? = some e ↔ entry.outcome = .error e := by
  unfold syntaxError?
  split
  · next h => simp [h]
  · next h => rw [h, Option.some.injEq, Except.error.injEq]

end Entry

namespace Store

/-! ## By address -/

/-- No address occurs twice, so the entry that a search finds is the only one of its address. -/
theorem get?_eq_some_iff {store : Store} {uri : Uri} {entry : Entry} :
    store.get? uri = some entry ↔ (uri, entry) ∈ store.entries := by
  obtain ⟨entries, nodup⟩ := store
  simp only [get?]
  induction entries with
  | nil => simp
  | cons head tail ih =>
    obtain ⟨key, first⟩ := head
    rw [List.map_cons, List.nodup_cons] at nodup
    by_cases hkey : key = uri
    · subst hkey
      have hnot : (key, entry) ∉ tail := fun hmem => nodup.1 (List.mem_map.mpr ⟨_, hmem, rfl⟩)
      simp [hnot, eq_comm]
    · have hkey' : ¬ uri = key := fun h => hkey h.symm
      rw [List.find?_cons_of_neg (by simpa using hkey), ih nodup.2, List.mem_cons, Prod.mk.injEq]
      simp [hkey']

theorem get?_eq_none_iff {store : Store} {uri : Uri} :
    store.get? uri = none ↔ uri ∉ store.uris := by
  rw [get?, Option.map_eq_none_iff, List.find?_eq_none, uris, List.mem_map]
  refine ⟨?_, ?_⟩
  · rintro h ⟨entry, hmem, rfl⟩
    exact h entry hmem (by simp)
  · intro h entry hmem heq
    exact h ⟨entry, hmem, by simpa using heq⟩

theorem mem_uris_iff {store : Store} {uri : Uri} :
    uri ∈ store.uris ↔ ∃ entry, store.get? uri = some entry := by
  rw [← Option.isSome_iff_exists, ← not_iff_not, ← get?_eq_none_iff, Option.not_isSome_iff_eq_none]

@[simp] theorem get?_empty (uri : Uri) : empty.get? uri = none := rfl

@[simp] theorem get?_mapEntries (store : Store) (f : Uri → Entry → Entry) (uri : Uri) :
    (store.mapEntries f).get? uri = (store.get? uri).map (f uri) := by
  simp only [get?, mapEntries, List.find?_map, Option.map_map]
  have hcomp : ((fun entry : Uri × Entry => entry.1 == uri) ∘
      fun entry : Uri × Entry => (entry.1, f entry.1 entry.2)) = fun entry => entry.1 == uri := rfl
  rw [hcomp]
  rcases h : store.entries.find? fun entry => entry.1 == uri with _ | found <;> rw [h]
  · rfl
  · have hfound : found.1 = uri := by simpa using List.find?_some h
    simp [hfound]

theorem get?_modify (store : Store) (uri key : Uri) (f : Entry → Entry) :
    (store.modify uri f).get? key =
      if key = uri then (store.get? key).map f else store.get? key := by
  rw [modify, get?_mapEntries]
  split
  · rfl
  · exact Option.map_id'

theorem get?_append (store : Store) (uri key : Uri) (entry : Entry) (h : uri ∉ store.uris) :
    (store.append uri entry h).get? key = if key = uri then some entry else store.get? key := by
  by_cases hkey : key = uri
  · subst hkey
    rw [if_pos rfl, get?_eq_some_iff]
    exact List.mem_append_right _ (List.mem_singleton.mpr rfl)
  · have hkey' : (uri == key) = false := by simpa using fun hk : uri = key => hkey hk.symm
    rw [if_neg hkey]
    simp [get?, append, List.find?_append, hkey']

/-- **Storing a text** makes a new entry at its address, which takes over the link and the note on
diagnostics from the old one, and leaves all other entries as they are. -/
theorem get?_upsert (store : Store) (uri key : Uri) (version : Option Int) (text : String) :
    (store.upsert uri version text).get? key =
      if key = uri then
        some { Entry.ofText version text with
          link := (store.get? uri).bind Entry.link
          hasDiagnostics := (store.get? uri).elim false Entry.hasDiagnostics }
      else store.get? key := by
  unfold upsert
  by_cases hopen : uri ∈ store.uris
  · rw [dif_pos hopen, get?_modify]
    split
    · next hkey =>
      subst hkey
      obtain ⟨old, hold⟩ := mem_uris_iff.mp hopen
      rw [hold]
      rfl
    · rfl
  · rw [dif_neg hopen, get?_append, get?_eq_none_iff.mpr hopen]
    rfl

/-- **Closing** takes one address away. -/
theorem get?_remove (store : Store) (uri key : Uri) :
    (store.remove uri).get? key = if key = uri then none else store.get? key := by
  by_cases hkey : key = uri
  · subst hkey
    rw [if_pos rfl, get?_eq_none_iff]
    simp [remove, uris]
  · rw [if_neg hkey]
    apply Option.ext
    intro entry
    rw [get?_eq_some_iff, get?_eq_some_iff]
    simp [remove, hkey]

/-! ## By order -/

@[simp] theorem uris_mapEntries (store : Store) (f : Uri → Entry → Entry) :
    (store.mapEntries f).uris = store.uris := by
  rw [uris, uris, mapEntries, List.map_map]
  rfl

/-- A document that is open keeps its place, and any other comes last. -/
theorem uris_upsert (store : Store) (uri : Uri) (version : Option Int) (text : String) :
    (store.upsert uri version text).uris =
      if uri ∈ store.uris then store.uris else store.uris ++ [uri] := by
  unfold upsert
  split
  · exact uris_mapEntries _ _
  · simp [append, uris]

/-- The documents that stay open keep their order. -/
theorem uris_remove (store : Store) (uri : Uri) :
    (store.remove uri).uris = store.uris.filter fun key => key != uri := by
  rw [uris, uris, remove, List.filter_map]
  rfl

/-- The first open document with a model that `select` picks, and what it picks. -/
def first? {α : Type} (store : Store) (select : Model → Option α) : Option (Uri × Entry × α) :=
  store.entries.findSome? fun (uri, entry) =>
    (entry.model?.bind select).map fun value => (uri, entry, value)

theorem firstActions?_eq (store : Store) : store.firstActions? = store.first? Model.action? := rfl

theorem firstGrammar?_eq (store : Store) : store.firstGrammar? = store.first? Model.grammar? := rfl

/-- In the order of opening, the document `entry` at `uri` is the first with a model that `select`
picks, and `value` is what it picks: no document before it has such a model. -/
def IsFirst {α : Type} (store : Store) (select : Model → Option α) (uri : Uri) (entry : Entry)
    (value : α) : Prop :=
  ∃ before after, store.entries = before ++ (uri, entry) :: after ∧
    entry.model?.bind select = some value ∧ ∀ other ∈ before, other.2.model?.bind select = none

/-- No open document has a model that `select` picks. -/
def HasNone {α : Type} (store : Store) (select : Model → Option α) : Prop :=
  ∀ other ∈ store.entries, other.2.model?.bind select = none

section First

variable {α : Type} {store : Store} {select : Model → Option α}

theorem first?_eq_some_iff {uri : Uri} {entry : Entry} {value : α} :
    store.first? select = some (uri, entry, value) ↔ store.IsFirst select uri entry value := by
  rw [first?, List.findSome?_eq_some_iff]
  refine ⟨?_, ?_⟩
  · rintro ⟨before, found, after, hsplit, hfound, hbefore⟩
    obtain ⟨value', hvalue, heq⟩ := Option.map_eq_some_iff.mp hfound
    cases heq
    exact ⟨before, after, hsplit, hvalue,
      fun other hother => Option.map_eq_none_iff.mp (hbefore other hother)⟩
  · rintro ⟨before, after, hsplit, hvalue, hbefore⟩
    refine ⟨before, (uri, entry), after, hsplit, ?_, ?_⟩
    · simp only [hvalue, Option.map_some]
    · intro other hother
      simp only [hbefore other hother, Option.map_none]

theorem first?_eq_none_iff : store.first? select = none ↔ store.HasNone select := by
  rw [first?, List.findSome?_eq_none_iff]
  refine ⟨?_, ?_⟩
  · exact fun h other hother => Option.map_eq_none_iff.mp (h other hother)
  · intro h other hother
    simp only [h other hother, Option.map_none]

theorem IsFirst.get? {uri : Uri} {entry : Entry} {value : α}
    (h : store.IsFirst select uri entry value) : store.get? uri = some entry := by
  obtain ⟨before, after, hsplit, -, -⟩ := h
  rw [get?_eq_some_iff, hsplit]
  exact List.mem_append_right _ List.mem_cons_self

/-- Changes that keep the texts keep the order, and so what comes first. -/
theorem first?_mapEntries {f : Uri → Entry → Entry}
    (hf : ∀ uri entry, (f uri entry).text = entry.text) :
    (store.mapEntries f).first? select =
      (store.first? select).map fun (uri, entry, value) => (uri, f uri entry, value) := by
  simp only [first?, mapEntries]
  induction store.entries with
  | nil => rfl
  | cons head tail ih =>
    obtain ⟨uri, entry⟩ := head
    simp only [List.map_cons, List.findSome?_cons, Entry.model?_congr (hf uri entry)]
    rcases entry.model?.bind select with _ | value
    · exact ih
    · rfl

end First

end Store

end FanServer
