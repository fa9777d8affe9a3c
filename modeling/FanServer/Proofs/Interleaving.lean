import FanServer.Proofs.Diagnostics
import FanServer.Proofs.Parse
import Mathlib.Logic.Relation

/-!
# Handlers that run at once

The notifications of an editor may be handled at once. A handler has the store to itself for one
step, in which it does all that its notification asks for, and sends the resulting updates
afterwards, **one by one and without the store**. So the steps of the handlers happen in some order,
but the updates may arrive in another.

* `System.Step` — one step of one handler: `enter` takes the store, `send` sends an update;
* `System.Accounted` — the invariant: the store is that of the notifications handled one at a time,
  in the order in which the handlers took it, and what was received and what is still to be sent
  are together what that publishes;
* `display_of_interleaving` — when all handlers have finished, a document shows what is due exactly
  if it shows what was computed last for it, and always what was due at some time;
* `closed_document_may_show_diagnostics` — that it may show something else.
-/

namespace FanServer

/-! ## The handlers -/

/-- How far a handler has come. -/
inductive Handler where
  /-- it waits for the store -/
  | waiting (notification : Notification)
  /-- it has had the store, and the updates are still to be sent -/
  | sending (updates : List Editor.Update)

/-- The notification that a handler has still to see to. -/
def Handler.notification? : Handler → Option Notification
  | waiting notification => some notification
  | sending _ => none

/-- The updates that a handler has still to send. -/
def Handler.pending : Handler → List Editor.Update
  | waiting _ => []
  | sending updates => updates

/-- Handlers that run at once, and the editor that they send to. -/
structure System where
  /-- the open documents -/
  store : Store
  /-- the handlers -/
  handlers : List Handler
  /-- the notifications whose handlers have had the store, in the order in which they had it -/
  taken : List Notification
  /-- what the editor has received, in order -/
  received : List Editor.Update

namespace System

/-- One step of one handler. Which one it is, is open. -/
inductive Step (settings : DiagnosticSettings) : System → System → Prop where
  /-- a handler takes the store, does all its work and gives the store back -/
  | enter (store : Store) (before after : List Handler) (taken : List Notification)
      (received : List Editor.Update) (notification : Notification) :
      Step settings ⟨store, before ++ .waiting notification :: after, taken, received⟩
        ⟨(store.notify settings notification).1,
          before ++ .sending (store.notify settings notification).2 :: after,
          taken ++ [notification], received⟩
  /-- a handler sends the next of its updates -/
  | send (store : Store) (before after : List Handler) (taken : List Notification)
      (received : List Editor.Update) (update : Editor.Update) (updates : List Editor.Update) :
      Step settings ⟨store, before ++ .sending (update :: updates) :: after, taken, received⟩
        ⟨store, before ++ .sending updates :: after, taken, received ++ [update]⟩

/-- The handlers lead from one state to another, by steps in any order. -/
abbrev Run (settings : DiagnosticSettings) : System → System → Prop :=
  Relation.ReflTransGen (Step settings)

/-- Nothing is open, and a handler waits for each of the notifications. -/
def start (notifications : List Notification) : System :=
  ⟨.empty, notifications.map .waiting, [], []⟩

/-- All handlers have finished. -/
def Finished (system : System) : Prop :=
  ∀ handler ∈ system.handlers, handler = .sending []

/-! ## The invariant -/

/-- The handlers have done what the notifications ask for, one at a time in the order in which they
took the store, except that some updates are still to be sent and the others may have arrived in any
order. -/
structure Accounted (settings : DiagnosticSettings) (notifications : List Notification)
    (system : System) : Prop where
  /-- the store is that of the notifications taken -/
  store : system.store = (History.run settings system.taken).store
  /-- each notification was taken or waits -/
  taken : (system.taken ++ system.handlers.filterMap Handler.notification?).Perm notifications
  /-- each update was received or is still to be sent -/
  received : (system.received ++ system.handlers.flatMap Handler.pending).Perm
    (History.run settings system.taken).published

theorem accounted_start (settings : DiagnosticSettings) (notifications : List Notification) :
    (start notifications).Accounted settings notifications where
  store := rfl
  taken := by
    have hall : (notifications.map Handler.waiting).filterMap Handler.notification? =
        notifications := by
      rw [List.filterMap_map]
      exact List.filterMap_some
    rw [start, List.nil_append, hall]
  received := by
    have hnone : (notifications.map Handler.waiting).flatMap Handler.pending = [] := by
      rw [List.flatMap_map]
      exact List.flatMap_eq_nil_iff.mpr fun _ _ => rfl
    rw [start, List.nil_append, hnone]
    rfl

/-- **What a step keeps.** -/
theorem Accounted.step {settings : DiagnosticSettings} {notifications : List Notification}
    {system next : System} (h : system.Accounted settings notifications)
    (hstep : Step settings system next) : next.Accounted settings notifications := by
  obtain ⟨hstore, htaken, hreceived⟩ := h
  cases hstep with
  | enter store before after taken received notification =>
    dsimp only at hstore htaken hreceived
    subst hstore
    refine ⟨by rw [History.run_concat]; rfl, ?_, ?_⟩
    · -- the notification moves from those that wait to those that were taken
      refine List.Perm.trans ?_ htaken
      simp only [List.filterMap_append, List.filterMap_cons, Handler.notification?,
        List.append_assoc, List.singleton_append]
      exact (List.perm_middle.symm).append_left taken
    · rw [History.run_concat]
      dsimp only [History.step]
      rw [List.perm_iff_count] at hreceived ⊢
      intro update
      have hcount := hreceived update
      simp only [List.flatMap_append, List.flatMap_cons, Handler.pending, List.count_append,
        List.count_nil] at hcount ⊢
      omega
  | send store before after taken received update updates =>
    refine ⟨hstore, ?_, ?_⟩
    · simp only [List.filterMap_append, List.filterMap_cons, Handler.notification?] at htaken ⊢
      exact htaken
    · rw [List.perm_iff_count] at hreceived ⊢
      intro other
      have hcount := hreceived other
      simp only [List.flatMap_append, List.flatMap_cons, Handler.pending, List.count_append,
        List.count_cons, List.count_nil] at hcount ⊢
      omega

/-- **What a run keeps.** -/
theorem accounted_run {settings : DiagnosticSettings} {notifications : List Notification}
    {system : System} (hrun : Run settings (start notifications) system) :
    system.Accounted settings notifications := by
  induction hrun with
  | refl => exact accounted_start settings notifications
  | tail _ hstep ih => exact ih.step hstep

section Finished

variable {system : System}

theorem Finished.notifications_eq_nil (h : system.Finished) :
    system.handlers.filterMap Handler.notification? = [] := by
  rw [List.filterMap_eq_nil_iff]
  intro handler hmem
  rw [h handler hmem]
  rfl

theorem Finished.pending_eq_nil (h : system.Finished) :
    system.handlers.flatMap Handler.pending = [] := by
  rw [List.flatMap_eq_nil_iff]
  intro handler hmem
  rw [h handler hmem]
  rfl

end Finished

end System

/-! ## Every update was due when it was computed -/

namespace Store

variable {store : Store} {settings : DiagnosticSettings} {update : Editor.Update}

theorem due_of_mem_relink (h : update ∈ (store.relink settings).2) :
    Due settings (store.relink settings).1 update.uri update.diagnostics := by
  simp only [relink, List.mem_map, List.mem_filter] at h
  obtain ⟨⟨uri, entry⟩, ⟨hmem, -⟩, rfl⟩ := h
  rw [due_iff, get?_relink, get?_eq_some_iff.mpr hmem, Option.map_some, Option.elim_some,
    diagnosticsFor_relink]

theorem due_of_mem_notify {notification : Notification}
    (h : update ∈ (store.notify settings notification).2) :
    Due settings (store.notify settings notification).1 update.uri update.diagnostics := by
  obtain ⟨-, -, hn⟩ | ⟨uri, version, text, -, hn⟩ | ⟨uri, -, hn⟩ :=
    store.notify_cases settings notification <;> rw [hn] at h ⊢
  · cases h
  · exact due_of_mem_relink h
  · rcases List.mem_append.mp h with hclearing | hrelink
    · obtain ⟨huri, hdiagnostics⟩ := eq_of_mem_clearing hclearing
      rw [huri, hdiagnostics]
      refine .closed ?_
      rw [get?_relink, get?_remove, if_pos rfl, Option.map_none]
    · exact due_of_mem_relink hrelink

end Store

namespace History

/-- Every update was due after one of the notifications. -/
theorem due_of_mem_published {settings : DiagnosticSettings} {notifications : List Notification}
    {update : Editor.Update} (h : update ∈ (run settings notifications).published) :
    ∃ count ≤ notifications.length,
      Due settings (run settings (notifications.take count)).store update.uri
        update.diagnostics := by
  induction notifications using List.reverseRecOn with
  | nil => cases h
  | append_singleton notifications last ih =>
    rw [run_concat] at h
    rcases List.mem_append.mp h with hearlier | hlast
    · obtain ⟨count, hcount, hdue⟩ := ih hearlier
      refine ⟨count, ?_, ?_⟩
      · rw [List.length_append]
        omega
      · rw [List.take_append_of_le_length hcount]
        exact hdue
    · refine ⟨(notifications ++ [last]).length, Nat.le_refl _, ?_⟩
      rw [List.take_length, run_concat]
      exact Store.due_of_mem_notify hlast

end History

theorem mem_of_lastFor?_eq_some {updates : List Editor.Update} {uri : Uri}
    {update : Editor.Update} (h : lastFor? updates uri = some update) :
    update ∈ updates ∧ update.uri = uri := by
  have hmem := List.mem_of_getLast? h
  rw [List.mem_filter] at hmem
  exact ⟨hmem.1, by simpa using hmem.2⟩

/-! ## When all handlers have finished -/

/-- **What is left on display.** When all handlers have finished, the store is that of the
notifications handled one at a time, in the order in which the handlers took it, and the editor has
received what that publishes. A document then shows what is due **exactly if** it shows what was
computed last for it; so it does if the updates for it were received in the order in which they were
computed. In any case it shows what was due after one of the notifications. -/
theorem display_of_interleaving {settings : DiagnosticSettings}
    {notifications : List Notification} {system : System}
    (hrun : System.Run settings (.start notifications) system) (hfinished : system.Finished) :
    system.taken.Perm notifications ∧
      system.store = (History.run settings system.taken).store ∧
      system.received.Perm (History.run settings system.taken).published ∧
      ∀ uri,
        (Due settings system.store uri (shown system.received uri) ↔
          shown system.received uri =
            shown (History.run settings system.taken).published uri) ∧
        ((system.received.filter fun update => update.uri = uri) =
            ((History.run settings system.taken).published.filter fun update => update.uri = uri) →
          Due settings system.store uri (shown system.received uri)) ∧
        ∃ count ≤ system.taken.length,
          Due settings (History.run settings (system.taken.take count)).store uri
            (shown system.received uri) := by
  obtain ⟨hstore, htaken, hreceived⟩ := System.accounted_run hrun
  rw [hfinished.notifications_eq_nil, List.append_nil] at htaken
  rw [hfinished.pending_eq_nil, List.append_nil] at hreceived
  refine ⟨htaken, hstore, hreceived, fun uri => ?_⟩
  have hiff : Due settings system.store uri (shown system.received uri) ↔
      shown system.received uri = shown (History.run settings system.taken).published uri := by
    rw [hstore, Store.due_iff, ← History.displayed_run settings system.taken uri]
  refine ⟨hiff, fun horder => ?_, ?_⟩
  · rw [hiff, shown, shown, lastFor?, lastFor?, horder]
  · rcases hlast : lastFor? system.received uri with _ | update
    · -- nothing was ever received: that was due at the beginning
      refine ⟨0, Nat.zero_le _, ?_⟩
      rw [shown, hlast]
      exact .closed rfl
    · obtain ⟨hmem, rfl⟩ := mem_of_lastFor?_eq_some hlast
      rw [shown, hlast]
      exact History.due_of_mem_published (hreceived.mem_iff.mp hmem)

/-! ## What is left on display may be outdated -/

namespace System

/-- A handler can send all its updates before anything else happens. -/
theorem run_send_all (settings : DiagnosticSettings) (store : Store) (before after : List Handler)
    (taken : List Notification) (received updates : List Editor.Update) :
    Run settings ⟨store, before ++ .sending updates :: after, taken, received⟩
      ⟨store, before ++ .sending [] :: after, taken, received ++ updates⟩ := by
  induction updates generalizing received with
  | nil => rw [List.append_nil]
  | cons update updates ih =>
    have hrest := ih (received ++ [update])
    rw [List.append_assoc, List.singleton_append] at hrest
    exact .head (.send store before after taken received update updates) hrest

/-- A text with a syntax error is opened and closed again. If the handler of the closing sends
first, the error stays on display. -/
theorem exists_run_stale {settings : DiagnosticSettings}
    (hreport : settings.reportSyntaxErrors = true) (uri : Uri) (version : Int) {text : String}
    {e : SyntaxError} (herror : Model.parse text = .error e) :
    ∃ system, Run settings (start [.opened uri version text, .closed uri]) system ∧
      system.Finished ∧ system.store.get? uri = none ∧ shown system.received uri ≠ [] := by
  set opening : Notification := .opened uri version text
  set opened := Store.empty.notify settings opening with hopened
  set closed := opened.1.notify settings (.closed uri) with hclosed
  -- both take the store in turn, then the second sends, then the first
  have hrun : Run settings (start [opening, .closed uri])
      ⟨closed.1, [.sending [], .sending []], [opening, .closed uri], closed.2 ++ opened.2⟩ :=
    .head (.enter .empty [] [.waiting (.closed uri)] [] [] opening) <|
    .head (.enter opened.1 [.sending opened.2] [] [opening] [] (.closed uri)) <|
    (run_send_all settings closed.1 [.sending opened.2] [] _ [] closed.2).trans
      (run_send_all settings closed.1 [] [.sending []] _ closed.2 opened.2)
  refine ⟨_, hrun, ?_, ?_, ?_⟩
  · intro handler hmem
    rcases List.mem_cons.mp hmem with rfl | hmem
    · rfl
    · exact List.mem_singleton.mp hmem
  · have hstore : closed.1 = ((opened.1.remove uri).relink settings).1 := rfl
    rw [hstore, Store.get?_relink, Store.get?_remove, if_pos rfl, Option.map_none]
  · -- the update of the opening comes last, and it reports the error
    have houtcome : ∀ entry : Entry, entry.text = text → entry.outcome = .error e := by
      intro entry htext
      rw [entry.outcome_eq, htext, herror]
    have hupdates : opened.2 =
        ((Store.empty.upsert uri (some version) text).relink settings).2 := rfl
    have hlast := (Store.empty.upsert uri (some version) text).lastFor?_relink settings uri
    rw [← hupdates, Store.get?_upsert, if_pos rfl, Option.bind_some, if_pos] at hlast
    · rw [shown_append_of_some hlast, Store.diagnosticsFor,
        Entry.model?_eq_none_of_error (houtcome _ rfl),
        Entry.syntaxError?_eq_some_iff.mpr (houtcome _ rfl)]
      simp [hreport]
    · rw [Store.mustPublish, Entry.kind?, Entry.model?_eq_none_of_error (houtcome _ rfl)]
      rfl

/-- What is due to a document that is closed is not what it shows, if it shows anything. -/
theorem not_due_of_shown {settings : DiagnosticSettings} {system : System} {uri : Uri}
    (hclosed : system.store.get? uri = none) (hshown : shown system.received uri ≠ []) :
    ¬ Due settings system.store uri (shown system.received uri) := by
  intro hdue
  rw [Store.due_iff, hclosed] at hdue
  exact hshown hdue

end System

/-- The grammar of this text has a rule without a colon. -/
theorem parse_unfinished_rule :
    Model.parse "unit grammar G;\nx" = .error (.unexpectedEnd .colon 17) := by
  have herror : (Model.parse "unit grammar G;\nx").map (fun _ => ()) =
      .error (.unexpectedEnd .colon 17) := by decide +kernel
  exact Parse.eq_error_of_map_eq_error herror

/-- **A closed document may show diagnostics.** Handlers that run at once need not leave what is due
on display. -/
theorem closed_document_may_show_diagnostics :
    ¬ ∀ (settings : DiagnosticSettings) (notifications : List Notification) (system : System),
      System.Run settings (.start notifications) system → system.Finished →
      ∀ uri, Due settings system.store uri (shown system.received uri) := by
  intro h
  have hreport : ({} : DiagnosticSettings).reportSyntaxErrors = true := rfl
  obtain ⟨system, hrun, hfinished, hclosed, hshown⟩ :=
    System.exists_run_stale hreport ⟨"file:///g"⟩ 1 parse_unfinished_rule
  exact System.not_due_of_shown hclosed hshown (h _ _ system hrun hfinished ⟨"file:///g"⟩)

/-- In such a run, the store is that of the opening and the closing one after the other, all updates
of these were received, and what is left on display is not what was computed last, but was due after
one of the two. -/
theorem display_of_opening_and_closing :
    ∃ system,
      System.Run {} (.start [.opened ⟨"file:///g"⟩ 1 "unit grammar G;\nx", .closed ⟨"file:///g"⟩])
        system ∧ system.Finished ∧
      system.store = (History.run {} system.taken).store ∧
      system.received.Perm (History.run {} system.taken).published ∧
      shown system.received ⟨"file:///g"⟩ ≠
        shown (History.run {} system.taken).published ⟨"file:///g"⟩ ∧
      ∃ count ≤ system.taken.length,
        Due {} (History.run {} (system.taken.take count)).store ⟨"file:///g"⟩
          (shown system.received ⟨"file:///g"⟩) := by
  have hreport : ({} : DiagnosticSettings).reportSyntaxErrors = true := rfl
  obtain ⟨system, hrun, hfinished, hclosed, hshown⟩ :=
    System.exists_run_stale hreport ⟨"file:///g"⟩ 1 parse_unfinished_rule
  obtain ⟨-, hstore, hreceived, hdisplay⟩ := display_of_interleaving hrun hfinished
  obtain ⟨hiff, -, hdue⟩ := hdisplay ⟨"file:///g"⟩
  refine ⟨system, hrun, hfinished, hstore, hreceived, fun heq => ?_, hdue⟩
  exact System.not_due_of_shown hclosed hshown (hiff.mpr heq)

end FanServer
