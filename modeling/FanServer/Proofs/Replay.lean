import FanServer.Proofs.OpenDocuments
import Mathlib.Data.List.Sort

/-!
# The open documents determine the store

Entries take over their link, the note on their diagnostics and their place from the entries before
them, so what happened earlier could show in the store for ever. It does not: only what is open
matters, with its latest text and in the order of its opening.

* `openDocuments` — what is open after some notifications, in that order, read off the
  notifications;
* `Store.Settled.eq_of_texts` — settled stores with the same texts in the same order are equal;
* `History.run_eq_run_openings` — the store is that of an editor which opens these documents and
  does nothing else.
-/

namespace FanServer

/-! ## What is open, in the order of opening -/

/-- The document that was opened by the notification in the place `since`, if it is open ever
since. -/
def openedAt? (notifications : List Notification) (since : Nat) : Option (Uri × OpenDocument) := do
  let notification ← notifications[since]?
  let (uri, _) ← notification.stored?
  let document ← openDocument? notifications.reverse uri
  if document.since = since then some (uri, document) else none

/-- The documents that are open after the notifications, in the order of their opening. -/
def openDocuments (notifications : List Notification) : List (Uri × OpenDocument) :=
  (List.range notifications.length).filterMap (openedAt? notifications)

/-- The notification that opens a document with its latest version and text. -/
def opening (document : Uri × OpenDocument) : Notification :=
  .opened document.1 document.2.version document.2.text

/-- **What is open, opened once each**: in the order of its opening, with its latest text. -/
def openings (notifications : List Notification) : List Notification :=
  (openDocuments notifications).map opening

section OpenDocuments

variable {notifications : List Notification}

theorem openedAt?_eq_some_iff {since : Nat} {uri : Uri} {document : OpenDocument} :
    openedAt? notifications since = some (uri, document) ↔
      (∃ notification version text, notifications[since]? = some notification ∧
        notification.stored? = some (uri, version, text)) ∧
      openDocument? notifications.reverse uri = some document ∧ document.since = since := by
  simp only [openedAt?, Option.bind_eq_bind, Option.bind_eq_some_iff, Option.ite_none_right_eq_some,
    Option.some.injEq, Prod.mk.injEq]
  refine ⟨?_, ?_⟩
  · rintro ⟨notification, hget, ⟨key, version, text⟩, hstored, document', hopen, hsince, rfl, rfl⟩
    exact ⟨⟨notification, version, text, hget, hstored⟩, hopen, hsince⟩
  · rintro ⟨⟨notification, version, text, hget, hstored⟩, hopen, hsince⟩
    exact ⟨notification, hget, (uri, version, text), hstored, document, hopen, hsince, rfl, rfl⟩

/-- A document was opened by a notification that brought a text for it. -/
theorem exists_stored_of_openDocument? {uri : Uri} {document : OpenDocument}
    (h : openDocument? notifications.reverse uri = some document) :
    ∃ notification version text, notifications[document.since]? = some notification ∧
      notification.stored? = some (uri, version, text) := by
  induction notifications using List.reverseRecOn generalizing document with
  | nil => cases h
  | append_singleton notifications last ih =>
    -- what was there before still is, in the same place
    have hkept : ∀ {old}, openDocument? notifications.reverse uri = some old →
        ∃ notification version text, (notifications ++ [last])[old.since]? = some notification ∧
          notification.stored? = some (uri, version, text) := by
      intro old hold
      obtain ⟨notification, version, text, hget, hstored⟩ := ih hold
      exact ⟨notification, version, text,
        by rw [List.getElem?_append_left (since_lt hold), hget], hstored⟩
    rw [List.reverse_concat, openDocument?] at h
    split at h
    · next key version text hstored =>
      split at h
      · next hkey =>
        subst hkey
        cases h
        rcases hold : openDocument? notifications.reverse key with _ | old
        · exact ⟨last, version, text, by simp, hstored⟩
        · -- a document that was open before keeps its place
          simpa only [Option.elim_some] using hkept hold
      · exact hkept h
    · split at h
      · cases h
      · exact hkept h

theorem mem_openDocuments_iff {uri : Uri} {document : OpenDocument} :
    (uri, document) ∈ openDocuments notifications ↔
      openDocument? notifications.reverse uri = some document := by
  simp only [openDocuments, List.mem_filterMap, List.mem_range, openedAt?_eq_some_iff]
  refine ⟨?_, fun h => ?_⟩
  · rintro ⟨since, -, -, hopen, -⟩
    exact hopen
  · exact ⟨document.since, since_lt h, exists_stored_of_openDocument? h, h, rfl⟩

/-- The documents come in the order in which they were opened. -/
theorem pairwise_openDocuments :
    (openDocuments notifications).Pairwise fun first second =>
      first.2.since < second.2.since := by
  refine List.Pairwise.filterMap _ ?_ List.pairwise_lt_range
  rintro since since' hlt ⟨uri, document⟩ h ⟨uri', document'⟩ h'
  rw [(openedAt?_eq_some_iff.mp h).2.2, (openedAt?_eq_some_iff.mp h').2.2]
  exact hlt

theorem pairwise_map_fst_openDocuments :
    ((openDocuments notifications).map Prod.fst).Pairwise (OpenedBefore notifications) := by
  refine List.pairwise_map.mpr (pairwise_openDocuments.imp_of_mem ?_)
  rintro ⟨uri, document⟩ ⟨uri', document'⟩ h h' hlt
  exact ⟨document, document', mem_openDocuments_iff.mp h, mem_openDocuments_iff.mp h', hlt⟩

theorem mem_map_fst_openDocuments_iff {uri : Uri} :
    uri ∈ (openDocuments notifications).map Prod.fst ↔
      ∃ document, openDocument? notifications.reverse uri = some document := by
  simp only [List.mem_map, Prod.exists, mem_openDocuments_iff, exists_and_right, exists_eq_right]

end OpenDocuments

/-- No document was opened before itself. -/
instance (notifications : List Notification) : Std.Irrefl (OpenedBefore notifications) where
  irrefl := by
    rintro uri ⟨first, second, hfirst, hsecond, hlt⟩
    cases hfirst.symm.trans hsecond
    exact lt_irrefl _ hlt

/-- Of two documents at most one was opened before the other. -/
instance (notifications : List Notification) : Std.Antisymm (OpenedBefore notifications) where
  antisymm := by
    rintro uri other ⟨first, second, hfirst, hsecond, hlt⟩
      ⟨second', first', hsecond', hfirst', hlt'⟩
    cases hfirst.symm.trans hfirst'
    cases hsecond.symm.trans hsecond'
    exact absurd hlt hlt'.asymm

/-! ## Settled stores -/

theorem Entry.text_ofText (version : Option Int) (text : String) :
    (Entry.ofText version text).text = text :=
  rfl

theorem Entry.eq_of_text {entry other : Entry} (hversion : entry.version = other.version)
    (htext : entry.text = other.text) (hlink : entry.link = other.link)
    (hnote : entry.hasDiagnostics = other.hasDiagnostics) : entry = other := by
  obtain ⟨version, text, outcome, link, hasDiagnostics, rfl⟩ := entry
  obtain ⟨version', text', outcome', link', hasDiagnostics', rfl⟩ := other
  subst hversion htext hlink hnote
  rfl

namespace Store

theorem entries_eq (store : Store) :
    store.entries =
      store.uris.filterMap fun uri => (store.get? uri).map fun entry => (uri, entry) := by
  rw [uris, List.filterMap_map]
  have hfound : ∀ entry ∈ store.entries, ((fun uri => (store.get? uri).map fun entry =>
      (uri, entry)) ∘ Prod.fst) entry = some entry := by
    rintro ⟨uri, entry⟩ hmem
    simp [get?_eq_some_iff.mpr hmem]
  rw [List.filterMap_congr hfound, List.filterMap_some]

/-- The two views together are the whole store. -/
theorem eq_of_uris_of_get? {store other : Store} (huris : store.uris = other.uris)
    (hget : ∀ uri, store.get? uri = other.get? uri) : store = other := by
  have hentries : store.entries = other.entries := by
    rw [entries_eq, huris, entries_eq other]
    simp only [hget]
  obtain ⟨entries, nodup⟩ := store
  subst hentries
  rfl

/-- The store with nothing but the versions and the texts. -/
def bare (store : Store) : Store :=
  store.mapEntries fun _ entry => .ofText entry.version entry.text

theorem linkFor_bare (store : Store) {entry other : Entry} (h : entry.text = other.text) :
    store.bare.linkFor entry = store.linkFor other :=
  linkFor_mapEntries (fun _ entry => Entry.text_ofText entry.version entry.text) h

theorem diagnosticsFor_bare (store : Store) (settings : DiagnosticSettings) {entry other : Entry}
    (h : entry.text = other.text) :
    store.bare.diagnosticsFor settings entry = store.diagnosticsFor settings other :=
  diagnosticsFor_mapEntries (fun _ entry => Entry.text_ofText entry.version entry.text) h settings

theorem bare_eq_of_texts {store other : Store} (huris : store.uris = other.uris)
    (htexts : ∀ uri, ((store.get? uri).map fun entry => (entry.version, entry.text)) =
      (other.get? uri).map fun entry => (entry.version, entry.text)) :
    store.bare = other.bare := by
  refine eq_of_uris_of_get? ?_ fun uri => ?_
  · rw [bare, bare, uris_mapEntries, uris_mapEntries, huris]
  · have h := congrArg (Option.map fun text => Entry.ofText text.1 text.2) (htexts uri)
    rw [Option.map_map, Option.map_map] at h
    rw [bare, bare, get?_mapEntries, get?_mapEntries]
    exact h

/-- **Settled stores with the same texts in the same order are equal.** -/
theorem Settled.eq_of_texts {settings : DiagnosticSettings} {store other : Store}
    (hstore : store.Settled settings) (hother : other.Settled settings)
    (huris : store.uris = other.uris)
    (htexts : ∀ uri, ((store.get? uri).map fun entry => (entry.version, entry.text)) =
      (other.get? uri).map fun entry => (entry.version, entry.text)) :
    store = other := by
  refine eq_of_uris_of_get? huris fun uri => ?_
  rcases h : store.get? uri with _ | entry
  · have hnone := htexts uri
    rw [h, Option.map_none, eq_comm, Option.map_eq_none_iff] at hnone
    exact hnone.symm
  · have hsome := htexts uri
    rw [h, Option.map_some, eq_comm, Option.map_eq_some_iff] at hsome
    obtain ⟨entry', h', hpair⟩ := hsome
    obtain ⟨hversion, htext⟩ : entry.version = entry'.version ∧ entry.text = entry'.text := by
      rw [Prod.mk.injEq] at hpair
      exact ⟨hpair.1.symm, hpair.2.symm⟩
    obtain ⟨hlink, hnote⟩ := hstore uri entry h
    obtain ⟨hlink', hnote'⟩ := hother uri entry' h'
    have hbare := bare_eq_of_texts huris htexts
    -- link and note are functions of the texts, which are those of the bare store
    have hlinkFor : store.linkFor entry = other.linkFor entry' := by
      rw [← store.linkFor_bare rfl, hbare, other.linkFor_bare htext]
    have hdiagnostics : store.diagnosticsFor settings entry =
        other.diagnosticsFor settings entry' := by
      rw [← store.diagnosticsFor_bare settings rfl, hbare, other.diagnosticsFor_bare settings htext]
    rw [h', Entry.eq_of_text hversion htext (by rw [hlink, hlink', hlinkFor])
      (by rw [hnote, hnote', hdiagnostics])]

end Store

/-! ## Opening documents and nothing else -/

namespace History

/-- Documents that are opened once each stand in the store as they came. -/
theorem run_map_opening (settings : DiagnosticSettings) {documents : List (Uri × OpenDocument)}
    (hnodup : (documents.map Prod.fst).Nodup) :
    (run settings (documents.map opening)).store.uris = documents.map Prod.fst ∧
      ∀ document ∈ documents,
        (((run settings (documents.map opening)).store.get? document.1).map fun entry =>
          (entry.version, entry.text)) = some (some document.2.version, document.2.text) := by
  induction documents using List.reverseRecOn with
  | nil => exact ⟨rfl, by simp⟩
  | append_singleton documents last ih =>
    rw [List.map_append, List.map_singleton, List.nodup_append] at hnodup
    obtain ⟨hnodup, -, hnew⟩ := hnodup
    have hclosed : last.1 ∉ documents.map Prod.fst :=
      fun hmem => hnew _ hmem _ (List.mem_singleton.mpr rfl) rfl
    obtain ⟨huris, htexts⟩ := ih hnodup
    rw [List.map_append, List.map_singleton, run_concat, List.map_append, List.map_singleton]
    set store := (run settings (documents.map opening)).store
    have hstep : ((run settings (documents.map opening)).step settings (opening last)).store =
        ((store.upsert last.1 (some last.2.version) last.2.text).relink settings).1 := rfl
    rw [hstep]
    refine ⟨?_, fun document hdocument => ?_⟩
    · rw [Store.uris_relink, Store.uris_upsert, huris, if_neg hclosed]
    · rw [Store.texts_relink, Store.get?_upsert]
      rcases List.mem_append.mp hdocument with hmem | hmem
      · have hne : document.1 ≠ last.1 :=
          fun heq => hclosed (heq ▸ List.mem_map_of_mem hmem)
        rw [if_neg hne]
        exact htexts document hmem
      · obtain rfl := List.mem_singleton.mp hmem
        rw [if_pos rfl]
        rfl

/-- **The store depends on what happened only through what is open.** After any notifications it is
the store of an editor that opens the open documents once each, in the order of their opening, with
their latest versions and texts. -/
theorem run_eq_run_openings (settings : DiagnosticSettings) (notifications : List Notification) :
    (run settings notifications).store = (run settings (openings notifications)).store := by
  have hreflects := reflects_run settings notifications
  have hnodup : ((openDocuments notifications).map Prod.fst).Nodup :=
    pairwise_map_fst_openDocuments.nodup
  obtain ⟨huris, htexts⟩ := run_map_opening settings hnodup
  have hsame : (run settings notifications).store.uris =
      (run settings (openings notifications)).store.uris := by
    rw [openings, huris]
    refine hreflects.order.eq_of_mem_iff pairwise_map_fst_openDocuments fun uri => ?_
    rw [hreflects.mem_uris_iff, mem_map_fst_openDocuments_iff]
  refine (settled_run settings notifications).eq_of_texts (settled_run settings _) hsame ?_
  intro uri
  rcases hopen : openDocument? notifications.reverse uri with _ | document
  · -- what is not open is in neither store
    have hclosed : uri ∉ (run settings notifications).store.uris := by
      rw [hreflects.mem_uris_iff, hopen]
      rintro ⟨document, hdocument⟩
      cases hdocument
    rw [Store.get?_eq_none_iff.mpr hclosed, Store.get?_eq_none_iff.mpr (hsame ▸ hclosed)]
  · rw [hreflects.texts, hopen, openings, htexts (uri, document) (mem_openDocuments_iff.mpr hopen)]
    rfl

end History

end FanServer
