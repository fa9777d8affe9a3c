import FanServer.Proofs.Links

/-!
# What the editor shows

An editor shows, for each document, the diagnostics that were **last published** for it (`shown`).
Publication is partly suppressed: nothing is published for an action class unless a note in its
entry says that it still shows something, and nothing when an action class is closed. That the
editor is right all the same rests on the note:

* `Due` — the diagnostics that a document ought to show, read off the open documents;
* `Noted` — whatever is shown is noted: this much survives a new text and the closing of a document,
  and is all that a pass relies on;
* `Displayed` — after a pass, what is shown is what the pass computed, published or not.

Main result: after any notifications, each document shows exactly what is due, and the note of an
open document says whether that is anything (`diagnostics_current_of_run`).
-/

namespace FanServer

/-! ## What was last published -/

/-- The last update for a document. -/
def lastFor? (updates : List Editor.Update) (uri : Uri) : Option Editor.Update :=
  (updates.filter fun update => update.uri = uri).getLast?

/-- The diagnostics that an editor shows for a document, after it has received some updates. -/
def shown (updates : List Editor.Update) (uri : Uri) : List Editor.Diagnostic :=
  ((lastFor? updates uri).map Editor.Update.diagnostics).getD []

theorem lastFor?_append (updates later : List Editor.Update) (uri : Uri) :
    lastFor? (updates ++ later) uri = (lastFor? later uri).or (lastFor? updates uri) := by
  rw [lastFor?, List.filter_append, List.getLast?_append]
  rfl

theorem shown_append_of_none {updates later : List Editor.Update} {uri : Uri}
    (h : lastFor? later uri = none) : shown (updates ++ later) uri = shown updates uri := by
  rw [shown, lastFor?_append, h, Option.none_or]
  rfl

theorem shown_append_of_some {updates later : List Editor.Update} {uri : Uri}
    {update : Editor.Update} (h : lastFor? later uri = some update) :
    shown (updates ++ later) uri = update.diagnostics := by
  rw [shown, lastFor?_append, h, Option.some_or]
  rfl

/-! ## What is due -/

/-- **The diagnostics that a document ought to show.** A rule of a grammar is reported if the first
open action class has a method of its name, and the report leads to the first such method. -/
inductive Due (settings : DiagnosticSettings) (store : Store) (uri : Uri) :
    List Editor.Diagnostic → Prop where
  /-- a grammar, where an action class is open -/
  | linked {entry : Entry} {grammar : Grammar} {partnerUri : Uri} {partner : Entry}
      {actions : Actions} :
      store.get? uri = some entry → entry.outcome = .ok (some (.grammar grammar)) →
      store.IsFirst Model.action? partnerUri partner actions →
      Due settings store uri (grammar.rules.filterMap fun definition =>
        (actions.methods.find? fun method => method.name == definition.name.text).map fun method =>
          { range := entry.rangeOf definition.name.span
            severity := settings.linkedRuleSeverity
            message := settings.linkedRuleMessage
            related := some
              ⟨⟨partnerUri, partner.rangeOf method.span⟩, method.name ++ "()"⟩ })
  /-- a grammar, where no action class is open -/
  | unlinked {entry : Entry} {grammar : Grammar} :
      store.get? uri = some entry → entry.outcome = .ok (some (.grammar grammar)) →
      store.HasNone Model.action? → Due settings store uri []
  /-- an action class -/
  | action {entry : Entry} {actions : Actions} :
      store.get? uri = some entry → entry.outcome = .ok (some (.action actions)) →
      Due settings store uri []
  /-- a text that declares nothing -/
  | undeclared {entry : Entry} :
      store.get? uri = some entry → entry.outcome = .ok none → Due settings store uri []
  /-- a syntax error that is reported -/
  | reported {entry : Entry} {e : SyntaxError} :
      store.get? uri = some entry → entry.outcome = .error e →
      settings.reportSyntaxErrors = true →
      Due settings store uri
        [{ range := entry.rangeOf (e.span?.getD ⟨0, 0⟩)
           severity := .error
           message := e.message
           related := none }]
  /-- a syntax error that is not reported -/
  | unreported {entry : Entry} {e : SyntaxError} :
      store.get? uri = some entry → entry.outcome = .error e →
      settings.reportSyntaxErrors = false → Due settings store uri []
  /-- a document that is not open -/
  | closed : store.get? uri = none → Due settings store uri []

namespace Store

/-- What a pass computes for an open document is what is due. -/
theorem due_diagnosticsFor {store : Store} {uri : Uri} {entry : Entry}
    (settings : DiagnosticSettings) (h : store.get? uri = some entry) :
    Due settings store uri (store.diagnosticsFor settings entry) := by
  unfold diagnosticsFor
  rcases hmodel : entry.model? with _ | grammar | actions
  · -- without a model, the outcome tells an error from a text that declares nothing
    rcases houtcome : entry.outcome with e | model
    · simp only [Entry.syntaxError?_eq_some_iff.mpr houtcome]
      split
      · next hreport => exact .reported h houtcome hreport
      · next hreport => exact .unreported h houtcome (Bool.not_eq_true _ ▸ hreport)
    · rw [Entry.model?, houtcome] at hmodel
      subst hmodel
      rw [Entry.syntaxError?, houtcome]
      exact .undeclared h houtcome
  · have houtcome := Entry.model?_eq_some_iff.mp hmodel
    dsimp only
    rw [firstActions?_eq]
    rcases hfirst : store.first? Model.action? with _ | ⟨partnerUri, partner, actions⟩
    · exact .unlinked h houtcome (first?_eq_none_iff.mp hfirst)
    · simp only [GrammarLink.method?_ofActions]
      exact .linked h houtcome (first?_eq_some_iff.mp hfirst)
  · exact .action h (Entry.model?_eq_some_iff.mp hmodel)

/-- Exactly one list of diagnostics is due: the one a pass computes, or none if the document is not
open. -/
theorem due_iff {settings : DiagnosticSettings} {store : Store} {uri : Uri}
    {diagnostics : List Editor.Diagnostic} :
    Due settings store uri diagnostics ↔
      diagnostics = (store.get? uri).elim [] (store.diagnosticsFor settings) := by
  refine ⟨?_, ?_⟩
  · intro hdue
    cases hdue with
    | linked hopen houtcome hfirst =>
      rw [hopen, Option.elim_some, diagnosticsFor, Entry.model?_eq_some_iff.mpr houtcome,
        firstActions?_eq, first?_eq_some_iff.mpr hfirst]
      simp only [GrammarLink.method?_ofActions]
      rfl
    | unlinked hopen houtcome hnone =>
      rw [hopen, Option.elim_some, diagnosticsFor, Entry.model?_eq_some_iff.mpr houtcome,
        firstActions?_eq, first?_eq_none_iff.mpr hnone]
    | action hopen houtcome =>
      rw [hopen, Option.elim_some, diagnosticsFor, Entry.model?_eq_some_iff.mpr houtcome]
    | undeclared hopen houtcome =>
      rw [hopen, Option.elim_some, diagnosticsFor, Entry.model?, houtcome, Entry.syntaxError?,
        houtcome]
    | reported hopen houtcome hreport =>
      rw [hopen, Option.elim_some, diagnosticsFor, Entry.model?_eq_none_of_error houtcome,
        Entry.syntaxError?_eq_some_iff.mpr houtcome]
      simp only [hreport, if_true]
      rfl
    | unreported hopen houtcome hreport =>
      rw [hopen, Option.elim_some, diagnosticsFor, Entry.model?_eq_none_of_error houtcome,
        Entry.syntaxError?_eq_some_iff.mpr houtcome]
      simp [hreport]
    | closed hclosed => rw [hclosed, Option.elim_none]
  · rintro rfl
    rcases hopen : store.get? uri with _ | entry
    · exact .closed hopen
    · exact due_diagnosticsFor settings hopen

/-! ## What a pass publishes -/

/-- Of the entries at an address there is the one that is found, and no other. -/
theorem filter_entries (store : Store) (uri : Uri) :
    (store.entries.filter fun entry => entry.1 = uri) =
      ((store.get? uri).map fun entry => (uri, entry)).toList := by
  obtain ⟨entries, nodup⟩ := store
  simp only [get?]
  induction entries with
  | nil => rfl
  | cons head tail ih =>
    obtain ⟨key, entry⟩ := head
    rw [List.map_cons, List.nodup_cons] at nodup
    by_cases hkey : key = uri
    · -- no address is there twice, so the rest has no such entry
      subst hkey
      have hnone : (tail.filter fun entry => entry.1 = key) = [] := by
        rw [List.filter_eq_nil_iff]
        intro other hother heq
        exact nodup.1 (List.mem_map.mpr ⟨other, hother, by simpa using heq⟩)
      simp [hnone]
    · rw [List.filter_cons_of_neg (by simpa using hkey),
        List.find?_cons_of_neg (by simpa using hkey)]
      exact ih nodup.2

/-- A pass publishes at most one update for a document, and none for one that is not open. -/
theorem lastFor?_relink (store : Store) (settings : DiagnosticSettings) (uri : Uri) :
    lastFor? (store.relink settings).2 uri = (store.get? uri).bind fun entry =>
      if mustPublish entry then
        some ⟨uri, entry.version, store.diagnosticsFor settings entry⟩
      else none := by
  have hcut : ((store.relink settings).2.filter fun update => update.uri = uri) =
      ((store.entries.filter fun entry => entry.1 = uri).filter
        fun entry => mustPublish entry.2).map
          fun entry => ⟨entry.1, entry.2.version, store.diagnosticsFor settings entry.2⟩ := by
    simp only [relink, List.filter_map, List.filter_filter, Bool.and_comm, Function.comp_def]
  rw [lastFor?, hcut, filter_entries]
  rcases store.get? uri with _ | entry
  · rfl
  · by_cases hpublish : mustPublish entry
    · simp [hpublish]
    · simp [hpublish]

/-- An action class has no diagnostics. -/
theorem diagnosticsFor_action {entry : Entry} (h : entry.kind? = some .action) (store : Store)
    (settings : DiagnosticSettings) : store.diagnosticsFor settings entry = [] := by
  rw [Entry.kind?, Option.map_eq_some_iff] at h
  obtain ⟨model, hmodel, hkind⟩ := h
  cases model with
  | grammar grammar => cases hkind
  | action actions => rw [diagnosticsFor, hmodel]

/-- Nothing is published only for an action class about which nothing is noted. -/
theorem not_mustPublish_iff {entry : Entry} :
    ¬ mustPublish entry ↔ entry.kind? = some .action ∧ entry.hasDiagnostics = false := by
  rw [mustPublish, Bool.or_eq_true, not_or, bne_iff_ne, not_not, Bool.not_eq_true]

/-! ## The note on what is shown -/

/-- Whatever is shown is noted: a document that shows diagnostics is open, and its entry says so. -/
def Noted (store : Store) (updates : List Editor.Update) : Prop :=
  ∀ uri, shown updates uri ≠ [] →
    ∃ entry, store.get? uri = some entry ∧ entry.hasDiagnostics = true

/-- Each document shows what a pass computes for it. -/
def Displayed (settings : DiagnosticSettings) (store : Store) (updates : List Editor.Update) :
    Prop :=
  ∀ uri, shown updates uri = (store.get? uri).elim [] (store.diagnosticsFor settings)

section Note

variable {store : Store} {settings : DiagnosticSettings} {updates : List Editor.Update}

theorem displayed_empty (settings : DiagnosticSettings) : empty.Displayed settings [] :=
  fun _ => rfl

/-- In a settled store, the notes are right. -/
theorem Displayed.hasDiagnostics_iff (h : store.Displayed settings updates)
    (hsettled : store.Settled settings) {uri : Uri} {entry : Entry}
    (hopen : store.get? uri = some entry) :
    entry.hasDiagnostics = true ↔ shown updates uri ≠ [] := by
  rw [h uri, hopen, Option.elim_some, (hsettled uri entry hopen).2, Bool.not_eq_true',
    List.isEmpty_eq_false_iff]

theorem Displayed.noted (h : store.Displayed settings updates) (hsettled : store.Settled settings) :
    store.Noted updates := by
  intro uri hshown
  rcases hopen : store.get? uri with _ | entry
  · rw [h uri, hopen] at hshown
    exact absurd rfl hshown
  · exact ⟨entry, rfl, (h.hasDiagnostics_iff hsettled hopen).mpr hshown⟩

/-- A new text takes the note over. -/
theorem Noted.upsert (h : store.Noted updates) (uri : Uri) (version : Option Int) (text : String) :
    (store.upsert uri version text).Noted updates := by
  intro key hshown
  obtain ⟨entry, hopen, hnote⟩ := h key hshown
  rw [get?_upsert]
  by_cases hkey : key = uri
  · subst hkey
    rw [if_pos rfl, hopen]
    exact ⟨_, rfl, hnote⟩
  · rw [if_neg hkey]
    exact ⟨entry, hopen, hnote⟩

/-- What is published for a document that is closed is that it has no diagnostics. -/
theorem eq_of_mem_clearing {update : Editor.Update} {uri : Uri}
    (h : update ∈ store.clearing uri) :
    update.uri = uri ∧ update.diagnostics = [] := by
  rw [clearing, Option.mem_toList, Option.bind_eq_some_iff] at h
  obtain ⟨entry, -, hupdate⟩ := h
  unfold Entry.cleared? at hupdate
  split at hupdate
  · cases hupdate
  · cases hupdate
    exact ⟨rfl, rfl⟩

/-- It is for that document alone. -/
theorem lastFor?_clearing_of_ne {uri key : Uri} (h : key ≠ uri) :
    lastFor? (store.clearing uri) key = none := by
  have hempty : ((store.clearing uri).filter fun update => update.uri = key) = [] := by
    rw [List.filter_eq_nil_iff]
    intro update hupdate heq
    rw [decide_eq_true_eq, (eq_of_mem_clearing hupdate).1] at heq
    exact h heq.symm
  rw [lastFor?, hempty, List.getLast?_nil]

/-- A document that is closed shows nothing any more. An action class shows nothing as it is, so
that nothing need be published for it. -/
theorem Displayed.shown_clearing (h : store.Displayed settings updates) (uri : Uri) :
    shown (updates ++ store.clearing uri) uri = [] := by
  have hshown := h uri
  unfold clearing
  rcases hopen : store.get? uri with _ | entry <;> rw [hopen] at hshown
  · rw [Option.bind_none, Option.toList_none, List.append_nil]
    exact hshown
  · rw [Option.bind_some]
    unfold Entry.cleared?
    -- an action class shows nothing as it is; any other document is cleared
    split
    · next hkind =>
      rw [Option.toList_none, List.append_nil, hshown, Option.elim_some]
      exact diagnosticsFor_action hkind store settings
    · have hlast : lastFor? [⟨uri, entry.version, []⟩] uri = some ⟨uri, entry.version, []⟩ := by
        simp [lastFor?]
      rw [Option.toList_some, shown_append_of_some hlast]

/-- Closing a document keeps the notes on all others. -/
theorem Displayed.noted_remove (h : store.Displayed settings updates)
    (hsettled : store.Settled settings) (uri : Uri) :
    (store.remove uri).Noted (updates ++ store.clearing uri) := by
  intro key hshown
  by_cases hkey : key = uri
  · subst hkey
    exact absurd (h.shown_clearing key) hshown
  · rw [shown_append_of_none (lastFor?_clearing_of_ne hkey)] at hshown
    rw [get?_remove, if_neg hkey]
    exact h.noted hsettled key hshown

/-- **A pass brings the display up to date**, where whatever is shown is noted. -/
theorem Noted.displayed_relink (h : store.Noted updates) (settings : DiagnosticSettings) :
    (store.relink settings).1.Displayed settings (updates ++ (store.relink settings).2) := by
  intro uri
  have hlast := store.lastFor?_relink settings uri
  rw [get?_relink]
  rcases hopen : store.get? uri with _ | entry <;> rw [hopen] at hlast
  · -- a document that shows something is open
    rw [shown_append_of_none hlast, Option.map_none, Option.elim_none]
    by_contra hshown
    obtain ⟨entry, hentry, -⟩ := h uri hshown
    rw [hopen] at hentry
    cases hentry
  · rw [Option.map_some, Option.elim_some, diagnosticsFor_relink]
    by_cases hpublish : mustPublish entry
    · rw [Option.bind_some, if_pos hpublish] at hlast
      rw [shown_append_of_some hlast]
    · -- nothing is published, and nothing was shown
      rw [Option.bind_some, if_neg hpublish] at hlast
      obtain ⟨hkind, hnote⟩ := not_mustPublish_iff.mp hpublish
      rw [shown_append_of_none hlast, diagnosticsFor_action hkind]
      by_contra hshown
      obtain ⟨noted, hnoted, htrue⟩ := h uri hshown
      rw [hopen] at hnoted
      cases hnoted
      rw [hnote] at htrue
      cases htrue

/-- **One notification keeps the display right.** -/
theorem Displayed.notify (h : store.Displayed settings updates) (hsettled : store.Settled settings)
    (notification : Notification) :
    (store.notify settings notification).1.Displayed settings
      (updates ++ (store.notify settings notification).2) := by
  obtain ⟨-, -, hn⟩ | ⟨uri, version, text, -, hn⟩ | ⟨uri, -, hn⟩ :=
    store.notify_cases settings notification <;> rw [hn]
  · rw [List.append_nil]
    exact h
  · exact ((h.noted hsettled).upsert uri (some version) text).displayed_relink settings
  · -- what clears the closed document is published before what the pass computes
    rw [← List.append_assoc]
    exact (h.noted_remove hsettled uri).displayed_relink settings

end Note

end Store

/-! ## All notifications -/

namespace History

theorem displayed_run (settings : DiagnosticSettings) (notifications : List Notification) :
    (run settings notifications).store.Displayed settings
      (run settings notifications).published := by
  induction notifications using List.reverseRecOn with
  | nil => exact Store.displayed_empty settings
  | append_singleton notifications last ih =>
    rw [run_concat]
    exact ih.notify (settled_run settings notifications) last

/-- The editor is up to date with the open documents. -/
structure Current (settings : DiagnosticSettings) (history : History) : Prop where
  /-- every document, open or not, shows what is due -/
  due : ∀ uri, Due settings history.store uri (shown history.published uri)
  /-- the note in the entry of an open document says whether it shows anything -/
  noted : ∀ {uri entry}, history.store.get? uri = some entry →
    (entry.hasDiagnostics = true ↔ shown history.published uri ≠ [])

end History

/-- **The editor is up to date.** After any notifications handled one at a time, the documents stand
in the order of their opening with their latest texts, every document shows exactly the diagnostics
that are due, and the note of every open document says whether these are any. -/
theorem diagnostics_current_of_run (settings : DiagnosticSettings)
    (notifications : List Notification) :
    (History.run settings notifications).store.Reflects notifications ∧
      (History.run settings notifications).Current settings := by
  have hdisplayed := History.displayed_run settings notifications
  have hsettled := History.settled_run settings notifications
  refine ⟨History.reflects_run settings notifications, fun uri => ?_, ?_⟩
  · rw [Store.due_iff]
    exact hdisplayed uri
  · exact fun hopen => hdisplayed.hasDiagnostics_iff hsettled hopen

end FanServer
