import FanServer.Proofs.Definition
import Mathlib.Logic.Relation

/-!
# Requests that are overtaken

Where a rule is defined or referred to is found out in two steps: one looks up the document and
finds the targets in it, and another resolves the targets against the documents that are open then.
**The store is free between the two steps**, so notifications may come in between.

* `Request.Step` — the steps of one request, and the notifications that come in between;
* `Request.Traced` — the invariant: after how many notifications each step was made, and that what
  was found and answered is what these two stores give;
* `answer_of_overtaken_request` — the answer is that of the first store, without the locations in
  documents that were closed in between, as long as their texts stay the same;
* `requests_not_atomic` — it need not be the answer of any one store.
-/

namespace FanServer

/-! ## Questions and answers -/

/-- A question that is answered in two steps. -/
inductive Inquiry where
  /-- where the rule at a place is defined -/
  | definition (uri : Uri) (p : Editor.Position)
  /-- where the rule at a place is referred to, and defined if `declaration` is set -/
  | references (uri : Uri) (p : Editor.Position) (declaration : Bool)

/-- The locations that answer a question, if there is an answer. -/
abbrev Answer : Type :=
  Option (List Editor.Location)

/-- All locations of an answer. -/
def Answer.locations (answer : Answer) : List Editor.Location :=
  answer.getD []

/-- The documents that an answer points into, in the order of its locations. -/
def Answer.documents (answer : Answer) : Option (List Uri) :=
  answer.map fun locations => locations.map Editor.Location.uri

namespace Inquiry

/-- The document that is asked about. -/
def uri : Inquiry → Uri
  | definition uri _ => uri
  | references uri _ _ => uri

/-- The targets that are found in the entry of the document. -/
def targets? (inquiry : Inquiry) (entry : Entry) : Option (List Location) :=
  match inquiry with
  | definition uri p => (entry.definition? uri p).map fun target => [target]
  | references uri p declaration => entry.references? uri p declaration

/-- **The first step**: look up the document and find the targets. -/
def found? (inquiry : Inquiry) (store : Store) : Option (List Location) :=
  (store.get? inquiry.uri).bind inquiry.targets?

/-- The answer that locations make. A question for a definition has no answer without a location. -/
def pack (inquiry : Inquiry) (locations : List Editor.Location) : Answer :=
  match inquiry with
  | definition _ _ => if locations = [] then none else some locations
  | references _ _ _ => some locations

/-- **The second step**: resolve the targets against the open documents. -/
def resolve (inquiry : Inquiry) (store : Store) (targets : List Location) : Answer :=
  inquiry.pack (store.resolve targets)

/-- The answer that the server gives at once. -/
def ask (inquiry : Inquiry) (store : Store) : Answer :=
  match inquiry with
  | definition uri p => (store.definition? uri p).map fun location => [location]
  | references uri p declaration => store.references? uri p declaration

/-- At once means: both steps on the same store. -/
theorem ask_eq (inquiry : Inquiry) (store : Store) :
    inquiry.ask store = (inquiry.found? store).bind (inquiry.resolve store) := by
  cases inquiry with
  | definition uri p =>
    simp only [ask, found?, Inquiry.uri, targets?, Store.definition?, Option.bind_eq_bind,
      Option.map_bind, Option.bind_assoc]
    refine Option.bind_congr fun entry _ => ?_
    rw [Function.comp_apply]
    rcases entry.definition? uri p with _ | target
    · rfl
    · -- one target makes one location or none
      rcases hget : store.get? target.uri with _ | partner <;>
        simp [resolve, pack, Store.resolve, hget]
  | references uri p declaration =>
    simp only [ask, found?, Inquiry.uri, targets?, Store.references?, Option.bind_eq_bind,
      Option.bind_assoc]
    rfl

/-- The answer without the locations in documents that are not open. -/
def keepOpen (inquiry : Inquiry) (store : Store) (answer : Answer) : Answer :=
  answer.bind fun locations =>
    inquiry.pack (locations.filter fun location => location.uri ∈ store.uris)

end Inquiry

/-! ## The steps of a request -/

/-- How far a request has come. -/
inductive Progress where
  /-- nothing has been done yet -/
  | asked
  /-- the targets were found after `first` notifications -/
  | found (first : Nat) (targets : List Location)
  /-- the targets were found after `first` notifications, and resolved after `second` -/
  | answered (first second : Nat) (answer : Answer)

/-- A request, and the open documents meanwhile. -/
structure Request where
  /-- the open documents -/
  store : Store
  /-- how far the request has come -/
  progress : Progress
  /-- the notifications that came since the request began -/
  taken : List Notification

namespace Request

/-- One step: of the request, or of a notification that comes before the answer. -/
inductive Step (settings : DiagnosticSettings) (inquiry : Inquiry) : Request → Request → Prop where
  /-- a notification is handled -/
  | notify (store : Store) (progress : Progress) (taken : List Notification)
      (notification : Notification)
      (waiting : ∀ first second answer, progress ≠ .answered first second answer) :
      Step settings inquiry ⟨store, progress, taken⟩
        ⟨(store.notify settings notification).1, progress, taken ++ [notification]⟩
  /-- nothing is found, which is the answer -/
  | miss (store : Store) (taken : List Notification) (found : inquiry.found? store = none) :
      Step settings inquiry ⟨store, .asked, taken⟩
        ⟨store, .answered taken.length taken.length none, taken⟩
  /-- targets are found -/
  | find (store : Store) (taken : List Notification) (targets : List Location)
      (found : inquiry.found? store = some targets) :
      Step settings inquiry ⟨store, .asked, taken⟩ ⟨store, .found taken.length targets, taken⟩
  /-- the targets are resolved, which makes the answer -/
  | resolve (store : Store) (taken : List Notification) (first : Nat) (targets : List Location) :
      Step settings inquiry ⟨store, .found first targets, taken⟩
        ⟨store, .answered first taken.length (inquiry.resolve store targets), taken⟩

/-- A request and notifications lead from one state to another. -/
abbrev Run (settings : DiagnosticSettings) (inquiry : Inquiry) : Request → Request → Prop :=
  Relation.ReflTransGen (Step settings inquiry)

/-- A request that begins after some notifications. -/
def start (settings : DiagnosticSettings) (before : List Notification) : Request :=
  ⟨(History.run settings before).store, .asked, []⟩

/-- The open documents after `count` of the notifications that came since the request began. -/
def storeAfter (settings : DiagnosticSettings) (before : List Notification) (request : Request)
    (count : Nat) : Store :=
  (History.run settings (before ++ request.taken.take count)).store

/-! ## The invariant -/

/-- What a request has found and answered is what the stores at its two steps give. -/
def Traced (settings : DiagnosticSettings) (before : List Notification) (inquiry : Inquiry)
    (request : Request) : Prop :=
  request.store = (History.run settings (before ++ request.taken)).store ∧
    match request.progress with
    | .asked => True
    | .found first targets => first ≤ request.taken.length ∧
        inquiry.found? (request.storeAfter settings before first) = some targets
    | .answered first second answer => first ≤ second ∧ second ≤ request.taken.length ∧
        answer = (inquiry.found? (request.storeAfter settings before first)).bind
          (inquiry.resolve (request.storeAfter settings before second))

section Traced

variable {settings : DiagnosticSettings} {before : List Notification} {inquiry : Inquiry}

theorem traced_start : (start settings before).Traced settings before inquiry :=
  ⟨by rw [start, List.append_nil], trivial⟩

/-- The store at hand is the last one. -/
theorem storeAfter_length {store : Store} {progress : Progress} {taken : List Notification} :
    storeAfter settings before ⟨store, progress, taken⟩ taken.length =
      (History.run settings (before ++ taken)).store := by
  rw [storeAfter, List.take_length]

/-- **What a step keeps.** -/
theorem Traced.step {request next : Request} (h : request.Traced settings before inquiry)
    (hstep : Step settings inquiry request next) : next.Traced settings before inquiry := by
  obtain ⟨hstore, hprogress⟩ := h
  cases hstep with
  | notify store progress taken notification waiting =>
    dsimp only at hstore
    refine ⟨by rw [hstore, ← List.append_assoc, History.run_concat]; rfl, ?_⟩
    -- the stores of the notifications that came before are still the same
    have hsame : ∀ first ≤ taken.length,
        storeAfter settings before ⟨(store.notify settings notification).1, progress,
          taken ++ [notification]⟩ first =
            storeAfter settings before ⟨store, progress, taken⟩ first := by
      intro first hle
      rw [storeAfter, storeAfter, List.take_append_of_le_length hle]
    cases progress with
    | asked => trivial
    | found first targets =>
      obtain ⟨hle, hfound⟩ := hprogress
      refine ⟨?_, by rw [hsame first hle]; exact hfound⟩
      rw [List.length_append]
      exact Nat.le_add_right_of_le hle
    | answered first second answer => exact absurd rfl (waiting first second answer)
  | miss store taken found =>
    refine ⟨hstore, Nat.le_refl _, Nat.le_refl _, ?_⟩
    rw [storeAfter_length, ← hstore, found, Option.bind_none]
  | find store taken targets found =>
    refine ⟨hstore, Nat.le_refl _, ?_⟩
    rw [storeAfter_length, ← hstore, found]
  | resolve store taken first targets =>
    obtain ⟨hle, hfound⟩ := hprogress
    refine ⟨hstore, hle, Nat.le_refl _, ?_⟩
    have hsame : storeAfter settings before ⟨store, .answered first taken.length
        (inquiry.resolve store targets), taken⟩ first =
          storeAfter settings before ⟨store, .found first targets, taken⟩ first := rfl
    rw [storeAfter_length, ← hstore, hsame, hfound, Option.bind_some]

/-- **What a run keeps.** -/
theorem traced_run {request : Request}
    (hrun : Run settings inquiry (start settings before) request) :
    request.Traced settings before inquiry := by
  induction hrun with
  | refl => exact traced_start
  | tail _ hstep ih => exact ih.step hstep

end Traced

end Request

/-! ## What is open in between -/

/-- The document that a notification is about. -/
def Notification.uri : Notification → Uri
  | opened uri _ _ => uri
  | changed uri _ _ => uri
  | closed uri => uri

theorem Notification.uri_of_stored? {notification : Notification} {uri : Uri} {version : Int}
    {text : String} (h : notification.stored? = some (uri, version, text)) :
    notification.uri = uri := by
  cases notification with
  | opened key version' text' =>
    cases h
    rfl
  | changed key version' texts =>
    obtain ⟨last, -, heq⟩ := Option.map_eq_some_iff.mp h
    cases heq
    rfl
  | closed key => cases h

namespace Store

/-- A notification about another document keeps the text. -/
theorem texts_notify (store : Store) (settings : DiagnosticSettings) {notification : Notification}
    {uri : Uri} (h : notification.uri ≠ uri) :
    (((store.notify settings notification).1.get? uri).map fun entry =>
      (entry.version, entry.text)) =
        (store.get? uri).map fun entry => (entry.version, entry.text) := by
  obtain ⟨-, -, hn⟩ | ⟨key, version, text, hstored, hn⟩ | ⟨key, rfl, hn⟩ :=
    store.notify_cases settings notification <;> rw [hn]
  · rw [Notification.uri_of_stored? hstored] at h
    rw [texts_relink, get?_upsert, if_neg (Ne.symm h)]
  · have hne : uri ≠ key := Ne.symm h
    rw [texts_relink, get?_remove, if_neg hne]

/-- The documents of resolved targets are those of the targets that are open. -/
theorem map_uri_resolve (store : Store) (targets : List Location) :
    (store.resolve targets).map Editor.Location.uri =
      (targets.map Location.uri).filter fun uri => uri ∈ store.uris := by
  induction targets with
  | nil => rfl
  | cons target targets ih =>
    rw [resolve] at ih
    rcases h : store.get? target.uri with _ | entry
    · have hclosed := get?_eq_none_iff.mp h
      simp [resolve, h, hclosed, ih]
    · have hopen := mem_uris_iff.mpr ⟨entry, h⟩
      simp [resolve, h, hopen, ih]

/-- **Targets that were resolved before**, in documents that have kept their texts, are the same
locations now, if they are still open. -/
theorem resolve_eq_filter {earlier later : Store} {targets : List Location}
    (hopen : ∀ target ∈ targets, ∃ entry, earlier.get? target.uri = some entry)
    (hkept : ∀ target ∈ targets, ∀ entry entry', earlier.get? target.uri = some entry →
      later.get? target.uri = some entry' → entry'.text = entry.text) :
    later.resolve targets =
      (earlier.resolve targets).filter fun location => location.uri ∈ later.uris := by
  rw [resolve, resolve, List.filter_filterMap]
  refine List.filterMap_congr fun target htarget => ?_
  obtain ⟨entry, hentry⟩ := hopen target htarget
  rcases hlater : later.get? target.uri with _ | entry'
  · have hclosed := get?_eq_none_iff.mp hlater
    simp [hentry, hclosed, Option.filter]
  · have hmem := mem_uris_iff.mpr ⟨entry', hlater⟩
    have hrange := Entry.rangeOf_congr (hkept target htarget entry entry' hentry hlater)
    simp [hentry, hmem, hrange, Option.filter]

end Store

/-- Notifications about other documents keep the text. -/
theorem History.texts_run_append (settings : DiagnosticSettings)
    (notifications : List Notification) {between : List Notification} {uri : Uri}
    (h : ∀ notification ∈ between, notification.uri ≠ uri) :
    (((run settings (notifications ++ between)).store.get? uri).map fun entry =>
      (entry.version, entry.text)) =
        ((run settings notifications).store.get? uri).map fun entry =>
          (entry.version, entry.text) := by
  induction between using List.reverseRecOn with
  | nil => rw [List.append_nil]
  | append_singleton between last ih =>
    rw [← List.append_assoc, run_concat]
    have hlast := h last (List.mem_append_right _ (List.mem_singleton.mpr rfl))
    have hothers := ih fun notification hmem => h notification (List.mem_append_left _ hmem)
    rw [← hothers]
    exact Store.texts_notify _ settings hlast

namespace Inquiry

variable {inquiry : Inquiry} {store : Store} {settings : DiagnosticSettings}

/-- In a grammar, everything is found in the grammar itself. -/
theorem uri_of_targets? {entry : Entry} {grammar : Grammar}
    (hmodel : entry.model? = some (.grammar grammar)) {targets : List Location}
    (hfound : inquiry.targets? entry = some targets) {target : Location}
    (htarget : target ∈ targets) : target.uri = inquiry.uri := by
  cases inquiry with
  | definition uri p =>
    simp only [targets?, Option.map_eq_some_iff, Entry.definition?, hmodel, Model.definition?,
      Option.bind_eq_bind, Option.bind_some, Option.bind_eq_some_iff, Option.pure_def,
      Option.some.injEq] at hfound
    obtain ⟨found, ⟨name, -, span, -, rfl⟩, rfl⟩ := hfound
    obtain rfl := List.mem_singleton.mp htarget
    rfl
  | references uri p declaration =>
    simp only [targets?, Entry.references?, hmodel, Model.references?, Option.bind_eq_bind,
      Option.bind_some, Option.bind_eq_some_iff, Option.pure_def, Option.some.injEq] at hfound
    obtain ⟨found, ⟨name, -, rfl⟩, rfl⟩ := hfound
    have hmem : target ∈ (grammar.referencesOf name).map fun span => (⟨uri, span⟩ : Location) := by
      split at htarget
      · exact htarget
      · exact List.mem_of_mem_drop htarget
    obtain ⟨span, -, rfl⟩ := List.mem_map.mp hmem
    rfl

/-- **What is found is open**: targets are in the document itself, or in the grammar that it is
linked to. -/
theorem open_of_found? (h : store.Settled settings) {targets : List Location}
    (hfound : inquiry.found? store = some targets) {target : Location}
    (htarget : target ∈ targets) : ∃ entry, store.get? target.uri = some entry := by
  obtain ⟨entry, hopen, htargets⟩ := Option.bind_eq_some_iff.mp hfound
  rcases hmodel : entry.model? with _ | grammar | actions
  · -- without a model there are no targets
    cases inquiry <;> simp [targets?, Entry.definition?, Entry.references?, hmodel] at htargets
  · exact ⟨entry, by rw [uri_of_targets? hmodel htargets htarget]; exact hopen⟩
  · cases inquiry with
    | definition uri p =>
      obtain ⟨found, hdefinition, rfl⟩ := Option.map_eq_some_iff.mp htargets
      obtain rfl := List.mem_singleton.mp htarget
      obtain ⟨-, -, -, link, rule, hlink, -, rfl⟩ :=
        (Entry.definition?_eq_some_iff hmodel).mp hdefinition
      obtain ⟨-, partner, -, hpartner, -, -⟩ := h.linksConsistent.of_action hopen hlink
      exact ⟨partner, hpartner⟩
    | references uri p declaration =>
      simp [targets?, Entry.references?, hmodel, Model.references?] at htargets

@[simp]
theorem locations_pack (inquiry : Inquiry) (locations : List Editor.Location) :
    Answer.locations (inquiry.pack locations) = locations := by
  unfold pack
  split
  · split
    · next hnil => exact hnil.symm
    · rfl
  · rfl

theorem documents_pack (inquiry : Inquiry) {locations others : List Editor.Location}
    (h : locations.map Editor.Location.uri = others.map Editor.Location.uri) :
    Answer.documents (inquiry.pack locations) = Answer.documents (inquiry.pack others) := by
  have hnil : locations = [] ↔ others = [] := by
    rw [← List.map_eq_nil_iff (f := Editor.Location.uri), h, List.map_eq_nil_iff]
  unfold pack Answer.documents
  split
  · by_cases hempty : others = []
    · rw [if_pos hempty, if_pos (hnil.mpr hempty)]
    · rw [if_neg hempty, if_neg fun h' => hempty (hnil.mp h'), Option.map_some, Option.map_some, h]
  · rw [Option.map_some, Option.map_some, h]

theorem keepOpen_pack (inquiry : Inquiry) (store : Store) (locations : List Editor.Location) :
    inquiry.keepOpen store (inquiry.pack locations) =
      inquiry.pack (locations.filter fun location => location.uri ∈ store.uris) := by
  rcases inquiry with ⟨uri, p⟩ | ⟨uri, p, declaration⟩
  · by_cases hnil : locations = []
    · subst hnil
      rfl
    · simp only [keepOpen, pack, if_neg hnil, Option.bind_some]
  · rfl

section Overtaken

variable {earlier later : Store} {targets : List Location}

theorem ask_of_found? (hfound : inquiry.found? earlier = some targets) :
    inquiry.ask earlier = inquiry.pack (earlier.resolve targets) := by
  rw [ask_eq, hfound]
  rfl

theorem ask_of_not_found (hfound : inquiry.found? earlier = none) : inquiry.ask earlier = none := by
  rw [ask_eq, hfound]
  rfl

/-- Whatever happens in between, the answer points into the documents that it would have pointed
into before, if they are still open. -/
theorem documents_overtaken (h : earlier.Settled settings) :
    Answer.documents ((inquiry.found? earlier).bind (inquiry.resolve later)) =
      Answer.documents (inquiry.keepOpen later (inquiry.ask earlier)) := by
  rcases hfound : inquiry.found? earlier with _ | targets
  · rw [ask_of_not_found hfound]
    rfl
  · rw [ask_of_found? hfound, keepOpen_pack, Option.bind_some]
    refine documents_pack inquiry ?_
    have hopen : (targets.map Location.uri).filter (fun uri => uri ∈ earlier.uris) =
        targets.map Location.uri := by
      refine List.filter_eq_self.mpr fun uri hmem => ?_
      obtain ⟨target, htarget, rfl⟩ := List.mem_map.mp hmem
      exact decide_eq_true (Store.mem_uris_iff.mpr (open_of_found? h hfound htarget))
    calc (later.resolve targets).map Editor.Location.uri
        = (targets.map Location.uri).filter (fun uri => uri ∈ later.uris) :=
          later.map_uri_resolve targets
      _ = ((earlier.resolve targets).map Editor.Location.uri).filter
            (fun uri => uri ∈ later.uris) := by
          rw [earlier.map_uri_resolve, hopen]
      _ = ((earlier.resolve targets).filter fun location => location.uri ∈ later.uris).map
            Editor.Location.uri := List.filter_map

/-- **If texts stay the same in between**, the answer is the one before, without the locations in
documents that were closed. -/
theorem answer_overtaken (h : earlier.Settled settings)
    (hkept : ∀ location ∈ Answer.locations (inquiry.ask earlier), ∀ entry entry',
      earlier.get? location.uri = some entry → later.get? location.uri = some entry' →
        entry'.text = entry.text) :
    (inquiry.found? earlier).bind (inquiry.resolve later) =
      inquiry.keepOpen later (inquiry.ask earlier) := by
  rcases hfound : inquiry.found? earlier with _ | targets
  · rw [ask_of_not_found hfound]
    rfl
  · have hopen : ∀ target ∈ targets, ∃ entry, earlier.get? target.uri = some entry :=
      fun target htarget => open_of_found? h hfound htarget
    rw [ask_of_found? hfound, locations_pack] at hkept
    rw [ask_of_found? hfound, keepOpen_pack, Option.bind_some, resolve,
      Store.resolve_eq_filter hopen]
    intro target htarget entry entry' hentry hentry'
    have hmem : (⟨target.uri, entry.rangeOf target.span⟩ : Editor.Location) ∈
        earlier.resolve targets :=
      List.mem_filterMap.mpr ⟨target, htarget, by rw [hentry, Option.map_some]⟩
    exact hkept _ hmem entry entry' hentry hentry'

/-- Where nothing was closed, nothing is left out. -/
theorem keepOpen_eq_self
    (hopen : ∀ location ∈ Answer.locations (inquiry.ask earlier), location.uri ∈ later.uris) :
    inquiry.keepOpen later (inquiry.ask earlier) = inquiry.ask earlier := by
  rcases hfound : inquiry.found? earlier with _ | targets
  · rw [ask_of_not_found hfound]
    rfl
  · rw [ask_of_found? hfound, locations_pack] at hopen
    rw [ask_of_found? hfound, keepOpen_pack, List.filter_eq_self.mpr]
    simpa using hopen

/-- An answer points into open documents. -/
theorem open_of_mem_locations {location : Editor.Location}
    (h : location ∈ Answer.locations (inquiry.ask earlier)) :
    ∃ entry, earlier.get? location.uri = some entry := by
  rcases hfound : inquiry.found? earlier with _ | targets
  · rw [ask_of_not_found hfound] at h
    cases h
  · rw [ask_of_found? hfound, locations_pack] at h
    obtain ⟨target, -, htarget⟩ := List.mem_filterMap.mp h
    obtain ⟨entry, hentry, rfl⟩ := Option.map_eq_some_iff.mp htarget
    exact ⟨entry, hentry⟩

/-- **If nothing happens in between to the documents that the answer points into**, it is the one
before. -/
theorem ask_overtaken (h : earlier.Settled settings)
    (hsame : ∀ location ∈ Answer.locations (inquiry.ask earlier),
      ((later.get? location.uri).map fun entry => (entry.version, entry.text)) =
        (earlier.get? location.uri).map fun entry => (entry.version, entry.text)) :
    (inquiry.found? earlier).bind (inquiry.resolve later) = inquiry.ask earlier := by
  rw [answer_overtaken h, keepOpen_eq_self]
  · intro location hlocation
    obtain ⟨entry, hentry⟩ := open_of_mem_locations hlocation
    have htexts := hsame location hlocation
    rw [hentry, Option.map_some, Option.map_eq_some_iff] at htexts
    obtain ⟨entry', hentry', -⟩ := htexts
    exact Store.mem_uris_iff.mpr ⟨entry', hentry'⟩
  · intro location hlocation entry entry' hentry hentry'
    have htexts := hsame location hlocation
    rw [hentry, hentry', Option.map_some, Option.map_some, Option.some.injEq,
      Prod.mk.injEq] at htexts
    exact htexts.2

end Overtaken

end Inquiry

/-- Notifications about other documents keep the text while a request is under way. -/
theorem Request.texts_storeAfter (settings : DiagnosticSettings) (before : List Notification)
    (request : Request) {first second : Nat} (hle : first ≤ second) {uri : Uri}
    (h : ∀ notification ∈ (request.taken.take second).drop first, notification.uri ≠ uri) :
    (((request.storeAfter settings before second).get? uri).map fun entry =>
      (entry.version, entry.text)) =
        ((request.storeAfter settings before first).get? uri).map fun entry =>
          (entry.version, entry.text) := by
  have htaken : request.taken.take second =
      request.taken.take first ++ (request.taken.take second).drop first := by
    conv_lhs => rw [← List.take_append_drop first (request.taken.take second), List.take_take,
      Nat.min_eq_left hle]
  rw [storeAfter, storeAfter, htaken, ← List.append_assoc]
  exact History.texts_run_append settings _ h

/-! ## Any notifications may overtake a request -/

namespace Request

section Overtaken

variable {settings : DiagnosticSettings} {before : List Notification} {inquiry : Inquiry}
  {targets : List Location}

/-- Notifications come in while the targets wait to be resolved. -/
theorem run_notify_all (between : List Notification) :
    Run settings inquiry ⟨(History.run settings before).store, .found 0 targets, []⟩
      ⟨(History.run settings (before ++ between)).store, .found 0 targets, between⟩ := by
  induction between using List.reverseRecOn with
  | nil =>
    rw [List.append_nil]
  | append_singleton between last ih =>
    rw [← List.append_assoc, History.run_concat]
    exact ih.tail (.notify _ _ _ last fun _ _ _ => nofun)

/-- Any notifications may come in between. -/
theorem run_overtaken (hfound : inquiry.found? (History.run settings before).store = some targets)
    (between : List Notification) :
    Run settings inquiry (start settings before)
      ⟨(History.run settings (before ++ between)).store,
        .answered 0 between.length
          (inquiry.resolve (History.run settings (before ++ between)).store targets),
        between⟩ :=
  .head (.find _ [] targets hfound)
    ((run_notify_all between).tail (.resolve _ between 0 targets))

end Overtaken

end Request

/-! ## The answer -/

/-- **A request that is overtaken.** Let its two steps be made after `first` and after `second` of
the notifications that come while it is under way. Then the answer points into the documents of the
answer that the first store gives at once, in the same order, without those that are not open in the
second store. It is that answer without the locations in such documents, if the others have the same
text in both stores; and it is that answer, if no notification in between is about a document that
the answer points into. -/
theorem answer_of_overtaken_request {settings : DiagnosticSettings} {before : List Notification}
    {inquiry : Inquiry} {request : Request} {first second : Nat} {answer : Answer}
    (hrun : Request.Run settings inquiry (.start settings before) request)
    (hanswer : request.progress = .answered first second answer) :
    first ≤ second ∧ second ≤ request.taken.length ∧
      Answer.documents answer =
        Answer.documents (inquiry.keepOpen (request.storeAfter settings before second)
          (inquiry.ask (request.storeAfter settings before first))) ∧
      ((∀ location ∈ Answer.locations (inquiry.ask (request.storeAfter settings before first)),
          ∀ entry entry',
            (request.storeAfter settings before first).get? location.uri = some entry →
            (request.storeAfter settings before second).get? location.uri = some entry' →
              entry'.text = entry.text) →
        answer = inquiry.keepOpen (request.storeAfter settings before second)
          (inquiry.ask (request.storeAfter settings before first))) ∧
      ((∀ location ∈ Answer.locations (inquiry.ask (request.storeAfter settings before first)),
          ∀ notification ∈ (request.taken.take second).drop first,
            notification.uri ≠ location.uri) →
        answer = inquiry.ask (request.storeAfter settings before first)) := by
  obtain ⟨-, htraced⟩ := Request.traced_run hrun
  rw [hanswer] at htraced
  obtain ⟨hle, hle', rfl⟩ := htraced
  have hsettled : (request.storeAfter settings before first).Settled settings :=
    History.settled_run settings _
  refine ⟨hle, hle', Inquiry.documents_overtaken hsettled, Inquiry.answer_overtaken hsettled, ?_⟩
  intro hothers
  exact Inquiry.ask_overtaken hsettled fun location hlocation =>
    request.texts_storeAfter settings before hle (hothers location hlocation)

/-- In an action class, a method is asked about, and the class is emptied before the answer is made.
The answer is still where the rule is defined, for nothing happened to the grammar. -/
theorem answer_of_overtaken_definition :
    ∃ request answer,
      Request.Run {} (.definition ⟨"file:///a"⟩ ⟨1, 10⟩) (.start {} methodOpenings) request ∧
      request.progress = .answered 0 1 answer ∧
      request.taken = [.changed ⟨"file:///a"⟩ 2 [""]] ∧
      answer = Inquiry.ask (.definition ⟨"file:///a"⟩ ⟨1, 10⟩)
        (request.storeAfter {} methodOpenings 0) ∧
      Answer.documents answer = some [⟨"file:///g"⟩] := by
  have hfound : (Inquiry.definition ⟨"file:///a"⟩ ⟨1, 10⟩).found?
      (History.run {} methodOpenings).store = some [⟨⟨"file:///g"⟩, ⟨26, 27⟩⟩] := by decide +kernel
  have hrun := Request.run_overtaken hfound [.changed ⟨"file:///a"⟩ 2 [""]]
  obtain ⟨-, -, -, -, hsame⟩ := answer_of_overtaken_request hrun rfl
  have hanswer := hsame (by decide +kernel)
  exact ⟨_, _, hrun, rfl, rfl, hanswer, by decide +kernel⟩

/-- Whatever overtakes the request, its answer is the one that the server gives at once at some time
while the request is under way. -/
def Request.AnsweredAtOnce (settings : DiagnosticSettings) (before : List Notification)
    (inquiry : Inquiry) : Prop :=
  ∀ request first second answer, Run settings inquiry (start settings before) request →
    request.progress = .answered first second answer →
    ∃ count ≤ request.taken.length, answer = inquiry.ask (request.storeAfter settings before count)

theorem Request.not_answeredAtOnce {settings : DiagnosticSettings} {before : List Notification}
    {inquiry : Inquiry} {targets : List Location}
    (hfound : inquiry.found? (History.run settings before).store = some targets)
    (between : List Notification)
    (hne : ∀ count ≤ between.length,
      inquiry.resolve (History.run settings (before ++ between)).store targets ≠
        inquiry.ask (History.run settings (before ++ between.take count)).store) :
    ¬ AnsweredAtOnce settings before inquiry := by
  intro h
  obtain ⟨count, hle, heq⟩ := h _ _ _ _ (run_overtaken hfound between) rfl
  exact hne count hle heq

/-- **The answer need not be that of any one store.** If a grammar is closed after its references
were found, none of them is left, while there are some before and no answer at all afterwards. And
if its text is changed after a definition was found, the range is that of the old name in the new
text, where the name has moved. -/
theorem requests_not_atomic :
    ¬ Request.AnsweredAtOnce {} [.opened ⟨"file:///g"⟩ 1 "unit grammar G;\nm: a\n"]
        (.references ⟨"file:///g"⟩ ⟨1, 0⟩ true) ∧
      ¬ Request.AnsweredAtOnce {} [.opened ⟨"file:///g"⟩ 1 "unit grammar G;\nm: a\n"]
        (.definition ⟨"file:///g"⟩ ⟨1, 0⟩) := by
  refine ⟨?_, ?_⟩
  · have hfound : (Inquiry.references ⟨"file:///g"⟩ ⟨1, 0⟩ true).found?
        (History.run {} [.opened ⟨"file:///g"⟩ 1 "unit grammar G;\nm: a\n"]).store =
          some [⟨⟨"file:///g"⟩, ⟨16, 17⟩⟩] := by decide +kernel
    exact Request.not_answeredAtOnce hfound [.closed ⟨"file:///g"⟩] (by decide +kernel)
  · have hfound : (Inquiry.definition ⟨"file:///g"⟩ ⟨1, 0⟩).found?
        (History.run {} [.opened ⟨"file:///g"⟩ 1 "unit grammar G;\nm: a\n"]).store =
          some [⟨⟨"file:///g"⟩, ⟨16, 17⟩⟩] := by decide +kernel
    exact Request.not_answeredAtOnce hfound
      [.changed ⟨"file:///g"⟩ 2 ["unit grammar GG;\nm: a\n"]] (by decide +kernel)

end FanServer
