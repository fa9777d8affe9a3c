import FanServer.Proofs.Relink

/-!
# Which documents are open, and in which order

What is open can be read off the notifications alone (`openDocument?`): a document is open from the
first text that came for it since it was last closed, and its text is the latest. The store is
exactly that:

* **texts** — each open document has the version and the text that came last for it;
* **order** — the documents stand in the order of their opening, which neither new texts nor the
  closing of others disturb.

So "the first" document of a kind in the store is the first that was opened.
-/

namespace FanServer

/-- What notifications tell about a document that is open. -/
structure OpenDocument where
  /-- how many notifications came before the one that opened it -/
  since : Nat
  /-- the version that came last -/
  version : Int
  /-- the text that came last -/
  text : String

/-- What is known of a document after some notifications, **the latest of which comes first**, if
it is open then. -/
def openDocument? : List Notification → Uri → Option OpenDocument
  | [], _ => none
  | last :: earlier, uri =>
    match last.stored? with
    | some (key, version, text) =>
      if key = uri then
        some ⟨(openDocument? earlier uri).elim earlier.length OpenDocument.since, version, text⟩
      else openDocument? earlier uri
    | none => if last = .closed uri then none else openDocument? earlier uri

/-- After the notifications, both documents are open, and `uri` was opened before `other`. -/
def OpenedBefore (notifications : List Notification) (uri other : Uri) : Prop :=
  ∃ first second, openDocument? notifications.reverse uri = some first ∧
    openDocument? notifications.reverse other = some second ∧ first.since < second.since

/-- The store is what the notifications tell: it has their texts, in the order of opening. -/
structure Store.Reflects (store : Store) (notifications : List Notification) : Prop where
  /-- the versions and texts are the latest -/
  texts : ∀ uri, ((store.get? uri).map fun entry => (entry.version, entry.text)) =
    (openDocument? notifications.reverse uri).map fun document =>
      (some document.version, document.text)
  /-- the documents stand in the order of their opening -/
  order : store.uris.Pairwise (OpenedBefore notifications)

/-! ## What is known after one more notification -/

section Concat

variable {notifications : List Notification} {last : Notification} {uri key : Uri}

theorem openDocument?_of_ignored (hstored : last.stored? = none)
    (hclosed : ∀ uri, last ≠ .closed uri) :
    openDocument? (notifications ++ [last]).reverse uri =
      openDocument? notifications.reverse uri := by
  rw [List.reverse_concat, openDocument?, hstored]
  exact if_neg (hclosed uri)

theorem openDocument?_of_stored {version : Int} {text : String}
    (hstored : last.stored? = some (key, version, text)) :
    openDocument? (notifications ++ [last]).reverse uri =
      if key = uri then
        some ⟨(openDocument? notifications.reverse uri).elim notifications.length
          OpenDocument.since, version, text⟩
      else openDocument? notifications.reverse uri := by
  rw [List.reverse_concat, openDocument?, hstored]
  simp only [List.length_reverse]

theorem openDocument?_of_closed :
    openDocument? (notifications ++ [Notification.closed key]).reverse uri =
      if key = uri then none else openDocument? notifications.reverse uri := by
  rw [List.reverse_concat, openDocument?]
  simp only [Notification.stored?, Notification.closed.injEq]

/-- A document was opened by one of the notifications there were. -/
theorem since_lt {document : OpenDocument}
    (h : openDocument? notifications.reverse uri = some document) :
    document.since < notifications.length := by
  induction notifications using List.reverseRecOn generalizing document with
  | nil => cases h
  | append_singleton notifications last ih =>
    rw [List.length_append, List.length_singleton]
    rw [List.reverse_concat, openDocument?] at h
    split at h
    · split at h
      · -- the document was open before, or it is opened now
        cases h
        rcases hold : openDocument? notifications.reverse uri with _ | old
        · simp
        · have hlt : old.since < notifications.length := ih hold
          exact Nat.lt_succ_of_lt hlt
      · exact Nat.lt_succ_of_lt (ih h)
    · split at h
      · cases h
      · exact Nat.lt_succ_of_lt (ih h)

end Concat

/-! ## The store -/

namespace Store

theorem uris_relink (store : Store) (settings : DiagnosticSettings) :
    (store.relink settings).1.uris = store.uris := by
  rw [relink_fst, uris_mapEntries]

/-- A pass keeps versions and texts. -/
theorem texts_relink (store : Store) (settings : DiagnosticSettings) (uri : Uri) :
    (((store.relink settings).1.get? uri).map fun entry => (entry.version, entry.text)) =
      (store.get? uri).map fun entry => (entry.version, entry.text) := by
  rw [get?_relink, Option.map_map]
  rfl

theorem Reflects.mem_uris_iff {store : Store} {notifications : List Notification}
    (h : store.Reflects notifications) {uri : Uri} :
    uri ∈ store.uris ↔ ∃ document, openDocument? notifications.reverse uri = some document := by
  rw [← Option.isSome_iff_exists, ← Option.isSome_map, ← h.texts uri, Option.isSome_map,
    Option.isSome_iff_exists, Store.mem_uris_iff]

theorem reflects_empty : empty.Reflects [] :=
  ⟨fun _ => rfl, List.Pairwise.nil⟩

section Steps

variable {store : Store} {notifications : List Notification} {last : Notification}

/-- A text that is stored is the latest, and a document that it opens comes last. -/
theorem Reflects.upsert (h : store.Reflects notifications) {uri : Uri} {version : Int}
    {text : String} (hstored : last.stored? = some (uri, version, text)) :
    (store.upsert uri (some version) text).Reflects (notifications ++ [last]) := by
  -- a document that was open before is known to have been opened when it was
  have hsame : ∀ {key document}, openDocument? notifications.reverse key = some document →
      ∃ document', openDocument? (notifications ++ [last]).reverse key = some document' ∧
        document'.since = document.since := by
    intro key document hkey
    rw [openDocument?_of_stored hstored]
    split
    · exact ⟨_, rfl, by rw [hkey]; rfl⟩
    · exact ⟨document, hkey, rfl⟩
  have hbefore : ∀ {first second}, OpenedBefore notifications first second →
      OpenedBefore (notifications ++ [last]) first second := by
    rintro first second ⟨document, document', hfirst, hsecond, hlt⟩
    obtain ⟨document₁, hfirst', hsince⟩ := hsame hfirst
    obtain ⟨document₂, hsecond', hsince'⟩ := hsame hsecond
    exact ⟨document₁, document₂, hfirst', hsecond', by rw [hsince, hsince']; exact hlt⟩
  refine ⟨fun key => ?_, ?_⟩
  · rw [get?_upsert, openDocument?_of_stored hstored]
    by_cases hkey : key = uri
    · rw [if_pos hkey, if_pos hkey.symm]
      rfl
    · rw [if_neg hkey, if_neg fun heq => hkey heq.symm]
      exact h.texts key
  · rw [uris_upsert]
    split
    · exact h.order.imp hbefore
    · -- the document is opened now, later than all others
      next hclosed =>
      refine List.pairwise_append.mpr ⟨h.order.imp hbefore, List.pairwise_singleton _ _, ?_⟩
      intro other hother key hkey
      obtain rfl := List.mem_singleton.mp hkey
      obtain ⟨document, hdocument⟩ := h.mem_uris_iff.mp hother
      obtain ⟨document', hdocument', hsince⟩ := hsame hdocument
      have hnone : openDocument? notifications.reverse key = none := by
        rw [h.mem_uris_iff, ← Option.isSome_iff_exists, Option.not_isSome_iff_eq_none] at hclosed
        exact hclosed
      refine ⟨document', ⟨notifications.length, version, text⟩, hdocument', ?_, ?_⟩
      · rw [openDocument?_of_stored hstored, if_pos rfl, hnone]
        rfl
      · rw [hsince]
        exact since_lt hdocument

/-- Closing a document leaves what is known of the others. -/
theorem Reflects.remove (h : store.Reflects notifications) (uri : Uri) :
    (store.remove uri).Reflects (notifications ++ [.closed uri]) := by
  refine ⟨fun key => ?_, ?_⟩
  · rw [get?_remove, openDocument?_of_closed]
    by_cases hkey : key = uri
    · rw [if_pos hkey, if_pos hkey.symm]
      rfl
    · rw [if_neg hkey, if_neg fun heq => hkey heq.symm]
      exact h.texts key
  · rw [uris_remove]
    refine (h.order.filter _).imp_of_mem ?_
    rintro first second hfirst hsecond ⟨document, document', hdocument, hdocument', hlt⟩
    have hne : ∀ {key}, (key ∈ store.uris.filter fun key => key != uri) → ¬ uri = key := by
      intro key hkey heq
      exact (bne_iff_ne.mp (List.mem_filter.mp hkey).2) heq.symm
    refine ⟨document, document', ?_, ?_, hlt⟩
    · rw [openDocument?_of_closed, if_neg (hne hfirst)]
      exact hdocument
    · rw [openDocument?_of_closed, if_neg (hne hsecond)]
      exact hdocument'

theorem Reflects.relink (h : store.Reflects notifications) (settings : DiagnosticSettings) :
    (store.relink settings).1.Reflects notifications :=
  ⟨fun uri => by rw [texts_relink]; exact h.texts uri, by rw [uris_relink]; exact h.order⟩

theorem Reflects.notify (h : store.Reflects notifications) (settings : DiagnosticSettings)
    (last : Notification) :
    (store.notify settings last).1.Reflects (notifications ++ [last]) := by
  obtain ⟨hstored, hclosed, hn⟩ | ⟨uri, version, text, hstored, hn⟩ | ⟨uri, rfl, hn⟩ :=
    store.notify_cases settings last <;> rw [hn]
  · refine ⟨fun uri => ?_, h.order.imp ?_⟩
    · rw [openDocument?_of_ignored hstored hclosed]
      exact h.texts uri
    · intro first second hbefore
      unfold OpenedBefore
      simp only [openDocument?_of_ignored hstored hclosed]
      exact hbefore
  · exact (h.upsert hstored).relink settings
  · exact (h.remove uri).relink settings

end Steps

end Store

/-- **The store is what the notifications tell.** -/
theorem History.reflects_run (settings : DiagnosticSettings) (notifications : List Notification) :
    (run settings notifications).store.Reflects notifications := by
  induction notifications using List.reverseRecOn with
  | nil => exact Store.reflects_empty
  | append_singleton notifications last ih =>
    rw [run_concat]
    exact ih.notify settings last

end FanServer
