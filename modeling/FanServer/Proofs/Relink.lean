import FanServer.Proofs.Store
import FanServer.Server
import Mathlib.Data.List.Induction

/-!
# What a pass over the open documents leaves behind

A pass renews the link and the note on diagnostics of every entry and touches nothing else
(`Store.refreshed`). Both are functions of the texts, which the pass keeps, so a pass **settles**
the store: every entry then has the link and the note that the store itself calls for.

* `Store.notify_cases` — all that a notification can do: nothing, or storing a text and a pass, or
  discarding an entry and a pass;
* `History` — the notifications of an editor handled one at a time, with the documents that are
  open and all that was published;
* `History.settled_run` — after any of them, the store is settled.
-/

namespace FanServer

namespace Store

/-! ## One pass -/

/-- An entry as a pass leaves it. -/
def refreshed (store : Store) (settings : DiagnosticSettings) (entry : Entry) : Entry :=
  { entry with
    link := store.linkFor entry
    hasDiagnostics := !(store.diagnosticsFor settings entry).isEmpty }

section Pass

variable (store : Store) (settings : DiagnosticSettings)

theorem text_refreshed (entry : Entry) : (store.refreshed settings entry).text = entry.text :=
  rfl

theorem relink_fst :
    (store.relink settings).1 = store.mapEntries fun _ entry => store.refreshed settings entry :=
  rfl

/-- A pass renews each entry in its place. -/
theorem get?_relink (uri : Uri) :
    (store.relink settings).1.get? uri = (store.get? uri).map (store.refreshed settings) := by
  rw [relink_fst, get?_mapEntries]

end Pass

section TextsKept

variable {store : Store} {f : Uri → Entry → Entry} {entry entry' : Entry}

/-- The link that a document ought to have depends on the texts alone. -/
theorem linkFor_mapEntries (hf : ∀ uri entry, (f uri entry).text = entry.text)
    (h : entry'.text = entry.text) :
    (store.mapEntries f).linkFor entry' = store.linkFor entry := by
  unfold linkFor
  rw [Entry.model?_congr h, firstActions?_eq, firstGrammar?_eq, first?_mapEntries hf,
    first?_mapEntries hf, ← firstActions?_eq, ← firstGrammar?_eq, Option.map_map, Option.map_map]
  rfl

/-- The diagnostics that a document ought to show depend on the texts alone. -/
theorem diagnosticsFor_mapEntries (hf : ∀ uri entry, (f uri entry).text = entry.text)
    (h : entry'.text = entry.text) (settings : DiagnosticSettings) :
    (store.mapEntries f).diagnosticsFor settings entry' = store.diagnosticsFor settings entry := by
  unfold diagnosticsFor linkedRuleDiagnostic syntaxErrorDiagnostic
  rw [Entry.model?_congr h, Entry.syntaxError?_congr h, Entry.rangeOf_congr h, firstActions?_eq,
    first?_mapEntries hf, ← firstActions?_eq]
  -- the partner is another entry now, but its text, and so its ranges, are the same
  rcases store.firstActions? with _ | ⟨uri, partner, actions⟩
  · rfl
  · simp only [Option.map_some, Entry.rangeOf_congr (hf uri partner)]

end TextsKept

section Pass

variable (store : Store) (settings : DiagnosticSettings)

/-- The link that a document ought to have is the same before and after a pass. -/
theorem linkFor_relink (entry : Entry) :
    (store.relink settings).1.linkFor (store.refreshed settings entry) = store.linkFor entry := by
  rw [relink_fst]
  exact linkFor_mapEntries (fun _ => store.text_refreshed settings)
    (store.text_refreshed settings entry)

/-- The diagnostics that a document ought to show are the same before and after a pass. -/
theorem diagnosticsFor_relink (entry : Entry) :
    (store.relink settings).1.diagnosticsFor settings (store.refreshed settings entry) =
      store.diagnosticsFor settings entry := by
  rw [relink_fst]
  exact diagnosticsFor_mapEntries (fun _ => store.text_refreshed settings)
    (store.text_refreshed settings entry) settings

end Pass

/-- Every open document has the link, and the note on its diagnostics, that the store calls for. -/
def Settled (settings : DiagnosticSettings) (store : Store) : Prop :=
  ∀ uri entry, store.get? uri = some entry →
    entry.link = store.linkFor entry ∧
      entry.hasDiagnostics = !(store.diagnosticsFor settings entry).isEmpty

theorem settled_empty (settings : DiagnosticSettings) : empty.Settled settings := by
  intro uri entry h
  rw [get?_empty] at h
  cases h

/-- **A pass settles the store**, whatever it finds. -/
theorem settled_relink (store : Store) (settings : DiagnosticSettings) :
    (store.relink settings).1.Settled settings := by
  intro uri entry h
  rw [get?_relink, Option.map_eq_some_iff] at h
  obtain ⟨old, -, rfl⟩ := h
  rw [linkFor_relink, diagnosticsFor_relink]
  exact ⟨rfl, rfl⟩

end Store

/-! ## One notification -/

/-- The text that a notification brings, with its document and its version. Of several texts it is
the last. -/
def Notification.stored? : Notification → Option (Uri × Int × String)
  | opened uri version text => some (uri, version, text)
  | changed uri version texts => texts.getLast?.map fun text => (uri, version, text)
  | closed _ => none

namespace Store

/-- What has to be published because a document is closed: nothing if it is not open. -/
def clearing (store : Store) (uri : Uri) : List Editor.Update :=
  ((store.get? uri).bind fun entry => entry.cleared? uri).toList

/-- **All that a notification can do.** A change without a text does nothing; any other
notification changes one entry and ends with a pass. -/
theorem notify_cases (store : Store) (settings : DiagnosticSettings) (notification : Notification) :
    (notification.stored? = none ∧ (∀ uri, notification ≠ .closed uri) ∧
      store.notify settings notification = (store, [])) ∨
    (∃ uri version text, notification.stored? = some (uri, version, text) ∧
      store.notify settings notification =
        (store.upsert uri (some version) text).relink settings) ∨
    (∃ uri, notification = .closed uri ∧ store.notify settings notification =
      (((store.remove uri).relink settings).1,
        store.clearing uri ++ ((store.remove uri).relink settings).2)) := by
  cases notification with
  | opened uri version text => exact .inr (.inl ⟨uri, version, text, rfl, rfl⟩)
  | changed uri version texts =>
    rcases h : texts.getLast? with _ | text
    · exact .inl ⟨by rw [Notification.stored?, h]; rfl, fun _ => nofun, by simp only [notify, h]⟩
    · exact .inr (.inl ⟨uri, version, text, by rw [Notification.stored?, h]; rfl,
        by simp only [notify, h, update]⟩)
  | closed uri => exact .inr (.inr ⟨uri, rfl, rfl⟩)

theorem settled_notify {store : Store} {settings : DiagnosticSettings}
    (h : store.Settled settings) (notification : Notification) :
    (store.notify settings notification).1.Settled settings := by
  obtain ⟨-, -, hn⟩ | ⟨uri, version, text, -, hn⟩ | ⟨uri, -, hn⟩ :=
    store.notify_cases settings notification <;> rw [hn]
  · exact h
  · exact settled_relink _ settings
  · exact settled_relink _ settings

end Store

/-! ## Notifications one at a time -/

/-- What came of the notifications so far. -/
structure History where
  /-- the open documents -/
  store : Store
  /-- all that was published, in order -/
  published : List Editor.Update

namespace History

/-- Nothing has happened yet. -/
def start : History :=
  ⟨.empty, []⟩

/-- Handle one more notification. -/
def step (settings : DiagnosticSettings) (history : History) (notification : Notification) :
    History :=
  ⟨(history.store.notify settings notification).1,
    history.published ++ (history.store.notify settings notification).2⟩

/-- Handle notifications one at a time. -/
def run (settings : DiagnosticSettings) (notifications : List Notification) : History :=
  notifications.foldl (step settings) start

@[simp] theorem run_concat (settings : DiagnosticSettings) (notifications : List Notification)
    (last : Notification) :
    run settings (notifications ++ [last]) = (run settings notifications).step settings last := by
  rw [run, List.foldl_append]
  rfl

/-- What holds at the start and is kept by every notification holds after all of them. -/
theorem run_induction {settings : DiagnosticSettings} {P : History → Prop} (hstart : P start)
    (hstep : ∀ history notification, P history → P (history.step settings notification))
    (notifications : List Notification) : P (run settings notifications) := by
  induction notifications using List.reverseRecOn with
  | nil => exact hstart
  | append_singleton notifications last ih =>
    rw [run_concat]
    exact hstep _ _ ih

theorem settled_run (settings : DiagnosticSettings) (notifications : List Notification) :
    (run settings notifications).store.Settled settings :=
  run_induction (P := fun history => history.store.Settled settings)
    (Store.settled_empty settings) (fun _ _ h => Store.settled_notify h _) notifications

end History

end FanServer
