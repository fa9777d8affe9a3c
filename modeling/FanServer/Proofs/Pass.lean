import FanServer.Proofs.Diagnostics
import FanServer.Proofs.Replay

/-!
# One pass after another

A pass over the open documents renews links and notes, and it publishes by the notes that it
**found**. Here a pass is taken by itself, on any store, whatever links and notes are in it:

* `Store.visit` — a pass one document at a time: each document is looked at as it was found, and its
  new link and note are put into the store that the pass has come to;
* `Store.Reached` — how far such a pass has come, which one visit carries on by one document
  (`Reached.visit`); at the end it has come to what a pass does at once (`foldl_visit`);
* `Store.contents` — all of a store but its links and notes. A pass keeps the contents, and what it
  leaves behind depends on nothing else (`relink_congr`).

Main result: `Store.relink_renews`, which also says what a second pass does: nothing to the store,
and it publishes again what the first one did, except for action classes.
-/

namespace FanServer

/-- What an entry says about its document, apart from the link and the note. -/
def Entry.content (entry : Entry) : Option Int × String × Option Model × Option SyntaxError :=
  (entry.version, entry.text, entry.model?, entry.syntaxError?)

namespace Store

/-- The open documents in order, without their links and the notes on their diagnostics. -/
def contents (store : Store) :
    List (Uri × Option Int × String × Option Model × Option SyntaxError) :=
  store.entries.map fun document => (document.1, document.2.content)

/-- What a pass publishes for a document, if it does. -/
def updateFor (store : Store) (settings : DiagnosticSettings) (document : Uri × Entry) :
    Editor.Update :=
  ⟨document.1, document.2.version, store.diagnosticsFor settings document.2⟩

theorem relink_snd (store : Store) (settings : DiagnosticSettings) :
    (store.relink settings).2 =
      (store.entries.filter fun document => mustPublish document.2).map
        (store.updateFor settings) :=
  rfl

/-! ## One document at a time -/

/-- **Visit a document**, as it was in the store `found` when the pass began: give it the link that
it ought to have, and if its diagnostics have to be published, note whether there are any. -/
def visit (found : Store) (settings : DiagnosticSettings) (reached : Store × List Editor.Update)
    (document : Uri × Entry) : Store × List Editor.Update :=
  let linked := reached.1.setLink document.1 (found.linkFor document.2)
  if mustPublish document.2 then
    (linked.setHasDiagnostics document.1 (!(found.diagnosticsFor settings document.2).isEmpty),
      reached.2 ++ [found.updateFor settings document])
  else (linked, reached.2)

/-- **How far a pass has come** that has visited the documents `visited`. -/
structure Reached (found : Store) (settings : DiagnosticSettings) (visited : List (Uri × Entry))
    (reached : Store × List Editor.Update) : Prop where
  /-- the documents keep their order -/
  uris_eq : reached.1.uris = found.uris
  /-- a document that was visited is renewed -/
  renewed : ∀ document ∈ visited,
    reached.1.get? document.1 = some (found.refreshed settings document.2)
  /-- any other is as it was found -/
  kept : ∀ uri, uri ∉ visited.map Prod.fst → reached.1.get? uri = found.get? uri
  /-- what had to be published for the visited documents is there, in order -/
  updates : reached.2 =
    (visited.filter fun document => mustPublish document.2).map (found.updateFor settings)

section Visit

variable {found : Store} {settings : DiagnosticSettings} {visited : List (Uri × Entry)}
  {reached : Store × List Editor.Update} {document : Uri × Entry}

theorem uris_visit : (found.visit settings reached document).1.uris = reached.1.uris := by
  simp only [visit]
  split
  · exact (uris_mapEntries _ _).trans (uris_mapEntries _ _)
  · exact uris_mapEntries _ _

/-- A visit changes no other document. -/
theorem get?_visit_of_ne {uri : Uri} (h : uri ≠ document.1) :
    (found.visit settings reached document).1.get? uri = reached.1.get? uri := by
  simp only [visit]
  split
  · simp only [setHasDiagnostics, setLink, get?_modify, if_neg h]
  · simp only [setLink, get?_modify, if_neg h]

/-- A document that is visited as it was found is renewed. -/
theorem get?_visit_self (h : reached.1.get? document.1 = some document.2) :
    (found.visit settings reached document).1.get? document.1 =
      some (found.refreshed settings document.2) := by
  simp only [visit]
  split
  · simp only [setHasDiagnostics, setLink, get?_modify, if_true, h, Option.map_some, refreshed]
  · next hpublish =>
    -- for an action class that shows nothing, the note stays, and says what it ought to say
    obtain ⟨hkind, hnote⟩ := not_mustPublish_iff.mp hpublish
    have hsame : document.2.hasDiagnostics =
        !(found.diagnosticsFor settings document.2).isEmpty := by
      rw [hnote, diagnosticsFor_action hkind]
      rfl
    simp only [setLink, get?_modify, if_true, h, Option.map_some, refreshed, ← hsame]

theorem Reached.visit (h : found.Reached settings visited reached)
    (hfound : document ∈ found.entries) (hnew : document.1 ∉ visited.map Prod.fst) :
    found.Reached settings (visited ++ [document]) (found.visit settings reached document) where
  uris_eq := uris_visit.trans h.uris_eq
  renewed := by
    intro other hother
    rcases List.mem_append.mp hother with hother | hother
    · have hne : other.1 ≠ document.1 := by
        intro heq
        exact hnew (heq ▸ List.mem_map_of_mem hother)
      rw [get?_visit_of_ne hne]
      exact h.renewed other hother
    · obtain rfl := List.mem_singleton.mp hother
      apply get?_visit_self
      rw [h.kept _ hnew, get?_eq_some_iff]
      exact hfound
  kept := by
    intro uri huri
    simp only [List.map_append, List.map_singleton, List.mem_append, List.mem_singleton,
      not_or] at huri
    rw [get?_visit_of_ne huri.2, h.kept uri huri.1]
  updates := by
    simp only [Store.visit, List.filter_append, List.map_append, ← h.updates]
    split
    · next hpublish =>
      rw [List.filter_cons_of_pos (by simpa using hpublish)]
      rfl
    · next hpublish =>
      rw [List.filter_cons_of_neg (by simpa using hpublish)]
      exact (List.append_nil _).symm

end Visit

section Passes

variable (store : Store) (settings : DiagnosticSettings)

/-- A pass that has visited the first documents has come so far. -/
theorem reached_foldl {visited rest : List (Uri × Entry)} (h : store.entries = visited ++ rest) :
    store.Reached settings visited (visited.foldl (store.visit settings) (store, [])) := by
  induction visited using List.reverseRecOn generalizing rest with
  | nil => exact ⟨rfl, by simp, fun _ _ => rfl, rfl⟩
  | append_singleton visited document ih =>
    rw [List.append_assoc] at h
    rw [List.foldl_append]
    apply (ih h).visit
    · rw [h]
      exact List.mem_append_right _ List.mem_cons_self
    · -- no document is there twice
      have hnodup := store.nodup
      rw [h, List.map_append, List.nodup_append] at hnodup
      intro hmem
      exact hnodup.2.2 _ hmem _ (List.mem_map_of_mem List.mem_cons_self) rfl

/-- **A pass renews all documents at once**: visiting them one after another comes to the same. -/
theorem foldl_visit :
    store.entries.foldl (store.visit settings) (store, []) = store.relink settings := by
  have hreached := store.reached_foldl settings (List.append_nil _).symm
  apply Prod.ext
  · refine eq_of_uris_of_get? ?_ fun uri => ?_
    · rw [hreached.uris_eq, uris_relink]
    · rw [get?_relink]
      rcases hopen : store.get? uri with _ | entry
      · rw [hreached.kept uri (get?_eq_none_iff.mp hopen), hopen, Option.map_none]
      · rw [hreached.renewed (uri, entry) (get?_eq_some_iff.mp hopen), Option.map_some]
  · rw [hreached.updates, relink_snd]

/-! ## What a pass depends on -/

theorem contents_mapEntries {f : Uri → Entry → Entry}
    (hf : ∀ uri entry, (f uri entry).content = entry.content) :
    (store.mapEntries f).contents = store.contents := by
  simp only [contents, mapEntries, List.map_map, Function.comp_def, hf]

/-- A pass keeps everything but links and notes. -/
theorem contents_relink : (store.relink settings).1.contents = store.contents := by
  rw [relink_fst]
  exact store.contents_mapEntries fun _ _ => rfl

theorem contents_bare : store.bare.contents = store.contents := by
  refine store.contents_mapEntries fun _ entry => ?_
  have htext := Entry.text_ofText entry.version entry.text
  rw [Entry.content, htext, Entry.model?_congr htext, Entry.syntaxError?_congr htext]
  rfl

theorem uris_eq_map_contents : store.uris = store.contents.map Prod.fst := by
  rw [uris, contents, List.map_map]
  rfl

theorem map_content_get? (uri : Uri) :
    (store.get? uri).map Entry.content =
      (store.contents.find? fun document => document.1 == uri).map Prod.snd := by
  rw [get?, contents, List.find?_map, Option.map_map, Option.map_map]
  rfl

end Passes

section Renewal

variable {store other : Store}

/-- **What a pass leaves behind depends on the contents alone**, and not on the links and notes that
it found. -/
theorem relink_congr (h : other.contents = store.contents) (settings : DiagnosticSettings) :
    (other.relink settings).1 = (store.relink settings).1 := by
  refine (settled_relink other settings).eq_of_texts (settled_relink store settings) ?_ ?_
  · rw [uris_relink, uris_relink, uris_eq_map_contents, uris_eq_map_contents, h]
  · intro uri
    have hcontent : (other.get? uri).map Entry.content = (store.get? uri).map Entry.content := by
      rw [map_content_get?, map_content_get?, h]
    have htexts := congrArg (Option.map fun content => (content.1, content.2.1)) hcontent
    rw [Option.map_map, Option.map_map] at htexts
    rw [texts_relink, texts_relink]
    exact htexts

/-- After a pass, nothing has to be cleared any more: only what is no action class is published. -/
theorem mustPublish_refreshed (settings : DiagnosticSettings) (entry : Entry) :
    mustPublish (store.refreshed settings entry) = (entry.kind? != some .action) := by
  by_cases hkind : entry.kind? = some .action
  · have hnone : (store.refreshed settings entry).hasDiagnostics = false := by
      simp only [refreshed, diagnosticsFor_action hkind, List.isEmpty_nil, Bool.not_true]
    rw [mustPublish, hnone, Bool.or_false]
    rfl
  · have hpublish : (entry.kind? != some .action) = true := bne_iff_ne.mpr hkind
    rw [hpublish, mustPublish, Bool.or_eq_true]
    exact .inl hpublish

/-- The updates that are not about action classes are those of the other documents. -/
theorem filter_relink_snd (store : Store) (settings : DiagnosticSettings) :
    ((store.relink settings).2.filter fun update =>
        (store.get? update.uri).bind Entry.kind? ≠ some .action) =
      (store.entries.filter fun document => document.2.kind? != some .action).map
        (store.updateFor settings) := by
  rw [relink_snd, List.filter_map, List.filter_filter]
  refine congrArg (List.map _) (List.filter_congr fun document hdocument => ?_)
  have hopen : store.get? document.1 = some document.2 := get?_eq_some_iff.mpr hdocument
  simp only [Function.comp_apply, updateFor, hopen, Option.bind_some, mustPublish]
  by_cases hkind : document.2.kind? = some .action
  · simp [hkind]
  · simp [hkind]

/-- **A second pass publishes what the first one did, except for action classes.** -/
theorem relink_relink_snd (store : Store) (settings : DiagnosticSettings) :
    ((store.relink settings).1.relink settings).2 =
      (store.relink settings).2.filter fun update =>
        (store.get? update.uri).bind Entry.kind? ≠ some .action := by
  have hupdate : ∀ document : Uri × Entry, (store.relink settings).1.updateFor settings
      (document.1, store.refreshed settings document.2) = store.updateFor settings document := by
    intro document
    rw [updateFor, diagnosticsFor_relink]
    rfl
  have hentries : (store.relink settings).1.entries =
      store.entries.map fun document => (document.1, store.refreshed settings document.2) := rfl
  rw [relink_snd, hentries, List.filter_map, List.map_map, filter_relink_snd]
  simp only [Function.comp_def, mustPublish_refreshed, hupdate]

/-- **A pass on any store.** It comes to the same as visiting the documents one after another. It
keeps the documents in their order, with their versions, texts, models and syntax errors; and the
links and notes that it leaves behind do not depend on those that it found, so on a store with the
same contents it comes to the same store. A second pass changes nothing, and publishes in the same
order what the first one did, except for action classes. -/
theorem relink_renews (store : Store) (settings : DiagnosticSettings) :
    store.entries.foldl (store.visit settings) (store, []) = store.relink settings ∧
      (store.relink settings).1.contents = store.contents ∧
      (∀ other : Store, other.contents = store.contents →
        (other.relink settings).1 = (store.relink settings).1) ∧
      ((store.relink settings).1.relink settings).1 = (store.relink settings).1 ∧
      ((store.relink settings).1.relink settings).2 =
        (store.relink settings).2.filter fun update =>
          (store.get? update.uri).bind Entry.kind? ≠ some .action := by
  refine ⟨store.foldl_visit settings, store.contents_relink settings, ?_, ?_, ?_⟩
  · intro other hcontents
    exact relink_congr hcontents settings
  · exact relink_congr (store.contents_relink settings) settings
  · exact store.relink_relink_snd settings

end Renewal

/-! ## A store with old links and notes -/

/-- An action class is open that was a grammar before and still shows something, with a link that
only a grammar holds; and a grammar without a link, one of whose rules has a method. -/
def outdated : Store :=
  (((empty.upsert ⟨"file:///a"⟩ (some 2) "unit class A is Actions;\nmethod m () \x7b\n").upsert
    ⟨"file:///g"⟩ (some 1) "unit grammar G;\nm: n\n").setLink ⟨"file:///a"⟩
      (some (.grammar ⟨⟨"file:///b"⟩, "B", []⟩))).setHasDiagnostics ⟨"file:///a"⟩ true

/-- The store without the old link and the old note comes to the same after a pass. The first pass
publishes for both documents, and the second one for the grammar alone. -/
theorem relink_renews_outdated :
    outdated.bare.contents = outdated.contents ∧
      (outdated.bare.relink {}).1 = (outdated.relink {}).1 ∧
      (outdated.relink {}).2.map Editor.Update.uri = [⟨"file:///a"⟩, ⟨"file:///g"⟩] ∧
      ((outdated.relink {}).1.relink {}).2.map Editor.Update.uri = [⟨"file:///g"⟩] := by
  obtain ⟨-, -, hsame, -, hagain⟩ := relink_renews outdated {}
  refine ⟨outdated.contents_bare, hsame _ outdated.contents_bare, by decide +kernel, ?_⟩
  rw [hagain]
  decide +kernel

end Store

end FanServer
