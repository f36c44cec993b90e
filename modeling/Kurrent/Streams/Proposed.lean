import Kurrent.Streams.Readers

/-!
# What is written is what is read

An `EventData` as its builders make it (`types.rs`), the two messages it is proposed in
(`From<EventData> for AppendReq`, `convert_event_data_to_batch_proposed_message`) and the
records a server keeps of it. A record echoes a message when it carries the message's id,
data and metadata; the server adds metadata of its own, the creation time among it. Both
read paths make the same event of an echo, and it is the one that was built.
-/

namespace Kurrent

open Lib

/-! ## Building an event -/

/-- `HashMap::insert` -/
def insertKey (metadata : List (String × String)) (key value : String) :
    List (String × String) :=
  (key, value) :: metadata.filter fun p => p.1 ≠ key

namespace EventData

section

variable {P : Type} (toVec : P → Except String Bytes)

/-- An event with a JSON payload; `toVec` is the serializer, which may fail. -/
def json (eventType : String) (payload : P) : Except String EventData := do
  let payload ← toVec payload
  let metadata := insertKey [] "type" eventType
  let metadata := insertKey metadata "content-type" "application/json"
  return ⟨payload, none, metadata, none⟩

def metadataAsJson (e : EventData) (payload : P) : Except String EventData := do
  let customMetadata ← toVec payload
  return { e with customMetadata := some customMetadata }

end

def binary (eventType : String) (payload : Bytes) : EventData :=
  let metadata := insertKey [] "type" eventType
  let metadata := insertKey metadata "content-type" "application/octet-stream"
  ⟨payload, none, metadata, none⟩

def id (e : EventData) (value : Uuid) : EventData := { e with idOpt := some value }

def withMetadata (e : EventData) (payload : Bytes) : EventData :=
  { e with customMetadata := some payload }

end EventData

/-! ## Proposing it -/

/-- The id as two signed halves. -/
def Proto.Uuid.from (value : Kurrent.Uuid) : Proto.Uuid :=
  let mostSignificant := (value >>> 64).setWidth 64
  let leastSignificant := value.setWidth 64
  ⟨some (.structured (Int64.ofBitVec mostSignificant) (Int64.ofBitVec leastSignificant))⟩

namespace Proto

/-- `streams::append_req::ProposedMessage` -/
structure ProposedMessage where
  id : Option Uuid
  metadata : List (String × String)
  customMetadata : Bytes
  data : Bytes
  deriving DecidableEq, Repr

inductive AppendContent where
  | options
  | proposedMessage (msg : ProposedMessage)
  deriving DecidableEq, Repr

structure AppendReq where
  content : Option AppendContent
  deriving DecidableEq, Repr

/-- `streams::batch_append_req::ProposedMessage` -/
structure BatchProposedMessage where
  id : Option Uuid
  metadata : List (String × String)
  customMetadata : Bytes
  data : Bytes
  deriving DecidableEq, Repr

end Proto

/-- The request for one event; `newV4` is the id drawn for an event that has none. -/
def Proto.AppendReq.from (newV4 : Kurrent.Uuid) (value : EventData) : Proto.AppendReq :=
  let id := Proto.Uuid.from (value.idOpt.getD newV4)
  let customMetadata := value.customMetadata.getD []
  ⟨some (.proposedMessage ⟨some id, value.metadata, customMetadata, value.payload⟩)⟩

def convertEventDataToBatchProposedMessage (newV4 : Uuid) (event : EventData) :
    Proto.BatchProposedMessage :=
  let id := Proto.Uuid.from (event.idOpt.getD newV4)
  let customMetadata := event.customMetadata.getD []
  ⟨some id, event.metadata, customMetadata, event.payload⟩

/-- The halves are put together again. -/
theorem tryInto_from (crates : Crates) (id : Uuid) :
    (Proto.Uuid.from id).tryInto crates = some id := by
  have h : (id >>> 64).setWidth 64 ++ id.setWidth 64 = id := by
    apply BitVec.eq_of_getLsbD_eq
    intro i hi
    simp only [BitVec.getLsbD_append, BitVec.getLsbD_setWidth, BitVec.getLsbD_ushiftRight]
    by_cases hlow : i < 64
    · simp [hlow]
    · have hhigh : i - 64 < 64 := by omega
      have hsum : 64 + (i - 64) = i := by omega
      rw [if_neg hlow, hsum]
      simp [hhigh]
  simp [Proto.Uuid.from, Proto.Uuid.tryInto, h]

/-! ## What the builders were given -/

/-- The arguments of the builders, whichever were called. -/
structure Written where
  isJson : Bool
  eventType : String
  payload : Bytes
  id : Option Uuid := none
  customMetadata : Option Bytes := none
  deriving DecidableEq, Repr

def Written.contentType (w : Written) : String :=
  if w.isJson then "application/json" else "application/octet-stream"

/-- The event is built by `json` or `binary` and any calls of the setters after it. -/
inductive Written.Builds {P : Type} (toVec : P → Except String Bytes) :
    Written → EventData → Prop where
  | json {ty : String} {p : P} {payload : Bytes} {e : EventData} :
    toVec p = .ok payload → EventData.json toVec ty p = .ok e →
      Builds toVec ⟨true, ty, payload, none, none⟩ e
  | binary (ty : String) (payload : Bytes) :
    Builds toVec ⟨false, ty, payload, none, none⟩ (EventData.binary ty payload)
  | id {w : Written} {e : EventData} (value : Uuid) :
    Builds toVec w e → Builds toVec { w with id := some value } (e.id value)
  | metadata {w : Written} {e : EventData} (payload : Bytes) :
    Builds toVec w e →
      Builds toVec { w with customMetadata := some payload } (e.withMetadata payload)
  | metadataAsJson {w : Written} {e e' : EventData} {p : P} {payload : Bytes} :
    Builds toVec w e → toVec p = .ok payload → e.metadataAsJson toVec p = .ok e' →
      Builds toVec { w with customMetadata := some payload } e'

/-- Whatever the order of the calls, the event holds the arguments of the last ones. -/
theorem Written.Builds.eq {P : Type} {toVec : P → Except String Bytes} {w : Written}
    {e : EventData} (h : w.Builds toVec e) :
    e = ⟨w.payload, w.id, [("content-type", w.contentType), ("type", w.eventType)],
      w.customMetadata⟩ := by
  induction h with
  | json hp he =>
    unfold EventData.json at he
    rw [hp] at he
    cases he
    rfl
  | binary ty payload => rfl
  | id value _ ih => rw [ih]; rfl
  | metadata payload _ ih => rw [ih]; rfl
  | metadataAsJson _ hp he ih =>
    unfold EventData.metadataAsJson at he
    rw [hp] at he
    cases he
    rw [ih]
    rfl

/-! ## Echoes -/

/-- The same id: as it was sent, or as its text. -/
def Proto.Uuid.SameAs (crates : Crates) (u sent : Proto.Uuid) : Prop :=
  u = sent ∨ ∃ text, u = ⟨some (.string text)⟩ ∧ crates.parseUuid text = sent.tryInto crates

/-- The record of a message with these parts: it names a stream and may hold any metadata
beside the message's own. -/
structure Echoes (crates : Crates) (id : Option Proto.Uuid) (metadata : List (String × String))
    (customMetadata data : Bytes) (r : Proto.RecordedEvent) : Prop where
  id : ∃ u sent, r.id = some u ∧ id = some sent ∧ u.SameAs crates sent
  stream : r.streamIdentifier.isSome
  metadata : ∀ key value, metadata.lookup key = some value → r.metadata.lookup key = some value
  customMetadata : r.customMetadata = customMetadata
  data : r.data = data

def Proto.ProposedMessage.EchoedBy (crates : Crates) (m : Proto.ProposedMessage) :
    Proto.RecordedEvent → Prop :=
  Echoes crates m.id m.metadata m.customMetadata m.data

def Proto.BatchProposedMessage.EchoedBy (crates : Crates) (m : Proto.BatchProposedMessage) :
    Proto.RecordedEvent → Prop :=
  Echoes crates m.id m.metadata m.customMetadata m.data

/-- One record in the messages of the two protocols, field by field. -/
structure SameRecord (r : Proto.RecordedEvent) (p : Proto.PersistentRecordedEvent) : Prop where
  id : p.id = r.id
  streamIdentifier : p.streamIdentifier = r.streamIdentifier
  streamRevision : p.streamRevision = r.streamRevision
  preparePosition : p.preparePosition = r.preparePosition
  commitPosition : p.commitPosition = r.commitPosition
  metadata : p.metadata = r.metadata
  customMetadata : p.customMetadata = r.customMetadata
  data : p.data = r.data

/-- One event, with its link and its position, in the messages of the two protocols. -/
structure SameEvent (e : Proto.ReadEvent) (q : Proto.PersistentReadEvent) : Prop where
  event : Option.Rel SameRecord e.event q.event
  link : Option.Rel SameRecord e.link q.link
  position : q.position = e.position

/-- The event both read paths make of the record is the one that was built, with this id. -/
def ReadsBack (crates : Crates) (w : Written) (id : Uuid) (r : Proto.RecordedEvent)
    (p : Proto.PersistentRecordedEvent) : Prop :=
  ∃ ev, RecordedEvent.from crates r = .ret ev ∧ RecordedEvent.fromPersistent crates p = .ret ev ∧
    ev.id = id ∧ ev.eventType = w.eventType ∧ ev.data = w.payload ∧
    ev.customMetadata = w.customMetadata.getD [] ∧ (ev.isJson = true ↔ w.isJson = true)

section

variable {crates : Crates} {r : Proto.RecordedEvent} {p : Proto.PersistentRecordedEvent}

theorem SameRecord.into (h : SameRecord r p) : p.into = r := by
  obtain ⟨h₁, h₂, h₃, h₄, h₅, h₆, h₇, h₈⟩ := h
  unfold Proto.PersistentRecordedEvent.into
  rw [h₁, h₂, h₃, h₄, h₅, h₆, h₇, h₈]

theorem map_into_of_rel {o : Option Proto.RecordedEvent} {q : Option Proto.PersistentRecordedEvent}
    (h : Option.Rel SameRecord o q) : q.map (·.into) = o := by
  cases h with
  | none => rfl
  | some h => exact congrArg some h.into

theorem SameEvent.into {e : Proto.ReadEvent} {q : Proto.PersistentReadEvent}
    (h : SameEvent e q) : q.into = e := by
  unfold Proto.PersistentReadEvent.into
  rw [map_into_of_rel h.event, map_into_of_rel h.link, h.position]

/-- The two paths make the same of a message whose records can be read. -/
theorem SameEvent.paths_agree {e : Proto.ReadEvent} {q : Proto.PersistentReadEvent}
    (h : SameEvent e q) (hc : e.Complete crates) :
    ∃ res n, ResolvedEvent.from crates e = .ret res ∧
      PersistentSubscriptionEvent.from crates (.event q) = .ret (.eventAppeared n res) ∧
      recordedOpt crates e.event = .ret res.event ∧ recordedOpt crates e.link = .ret res.link := by
  obtain ⟨res, hres⟩ := resolvedEvent_ret_iff.mpr hc
  have hq : ∃ n, PersistentSubscriptionEvent.from crates (.event q) =
      .ret (.eventAppeared n res) := by
    simp only [PersistentSubscriptionEvent.from]
    rw [h.into, hres]
    exact ⟨_, rfl⟩
  obtain ⟨n, hn⟩ := hq
  exact ⟨res, n, hres, hn, resolvedEvent_ret hres⟩

theorem Proto.Uuid.SameAs.tryInto {u : Proto.Uuid} {id : Kurrent.Uuid}
    (h : u.SameAs crates (Proto.Uuid.from id)) : u.tryInto crates = some id := by
  rcases h with rfl | ⟨text, rfl, htext⟩
  · exact tryInto_from crates id
  · rw [tryInto_from] at htext
    exact htext

/-- A key that was not removed is still there. -/
theorem lookup_filter_ne {metadata : List (String × String)} {key other : String}
    (h : other ≠ key) :
    (metadata.filter fun p => p.1 ≠ key).lookup other = metadata.lookup other := by
  induction metadata with
  | nil => rfl
  | cons q metadata ih =>
    obtain ⟨k, v⟩ := q
    by_cases hk : k = key
    · subst hk
      rw [List.filter_cons_of_neg (by simp), ih, List.lookup_cons, beq_false_of_ne h]
    · rw [List.filter_cons_of_pos (by simpa using hk), List.lookup_cons, List.lookup_cons, ih]

theorem contentType_eq_json_iff {w : Written} :
    w.contentType = "application/json" ↔ w.isJson = true := by
  unfold Written.contentType
  cases w.isJson
  · simp
  · simp

/-- Both paths read an echo of the event's parts back, whatever the server added. -/
theorem Echoes.readsBack {w : Written} {id : Uuid}
    (h : Echoes crates (some (.from id))
      [("content-type", w.contentType), ("type", w.eventType)]
      (w.customMetadata.getD []) w.payload r)
    (hp : SameRecord r p) : ReadsBack crates w id r p := by
  obtain ⟨u, sent, hu, hsent, hsame⟩ := h.id
  cases hsent
  obtain ⟨raw, hraw⟩ := Option.isSome_iff_exists.mp h.stream
  have htype : r.metadata.lookup "type" = some w.eventType := h.metadata _ _ rfl
  have hcontent : r.metadata.lookup "content-type" = some w.contentType := h.metadata _ _ rfl
  unfold ReadsBack RecordedEvent.fromPersistent
  rw [hp.into]
  unfold RecordedEvent.from
  rw [hu, hraw]
  simp only [Call.expect, Call.ret_bind, hsame.tryInto, removeKey, dateTimeFrom_created]
  refine ⟨_, rfl, rfl, rfl, ?_, h.data, h.customMetadata, ?_⟩
  · rw [htype]; rfl
  · simp only [lookup_filter_ne (show "content-type" ≠ "type" by decide), hcontent]
    simp [contentType_eq_json_iff]

end

/-- **What is written is what is read.** The two encoders propose the same id, metadata and
data for an event, however it was built. Any record that echoes one of the two messages is
read by both paths, without a panic, as the event that was built; and the paths agree on
every message whose records can be read. -/
theorem events_read_back (crates : Crates) {P : Type} {toVec : P → Except String Bytes}
    {w : Written} {e : EventData} (h : w.Builds toVec e) (new₁ new₂ : Uuid) :
    (∃ m, Proto.AppendReq.from new₁ e = ⟨some (.proposedMessage m)⟩ ∧
      (w.id ≠ none → m.id = (convertEventDataToBatchProposedMessage new₂ e).id) ∧
      m.metadata = (convertEventDataToBatchProposedMessage new₂ e).metadata ∧
      m.customMetadata = (convertEventDataToBatchProposedMessage new₂ e).customMetadata ∧
      m.data = (convertEventDataToBatchProposedMessage new₂ e).data ∧
      ∀ r p, m.EchoedBy crates r → SameRecord r p → ReadsBack crates w (w.id.getD new₁) r p) ∧
    (∀ r p, (convertEventDataToBatchProposedMessage new₂ e).EchoedBy crates r → SameRecord r p →
      ReadsBack crates w (w.id.getD new₂) r p) ∧
    ∀ msg q, SameEvent msg q → msg.Complete crates → ∃ res n,
      ResolvedEvent.from crates msg = .ret res ∧
      PersistentSubscriptionEvent.from crates (.event q) = .ret (.eventAppeared n res) ∧
      recordedOpt crates msg.event = .ret res.event ∧
      recordedOpt crates msg.link = .ret res.link := by
  have he := h.eq
  subst he
  refine ⟨⟨_, rfl, ?_, rfl, rfl, rfl, ?_⟩, ?_, fun msg q => SameEvent.paths_agree⟩
  · intro hid
    obtain ⟨id, hid⟩ := Option.ne_none_iff_exists'.mp hid
    simp only [convertEventDataToBatchProposedMessage, hid, Option.getD_some]
  · exact fun r p hr hp => Echoes.readsBack hr hp
  · exact fun r p hr hp => Echoes.readsBack hr hp

/-- The record of an event of type `order` with id 7, created at a time nobody can read. -/
def orderRecord : Proto.RecordedEvent where
  id := some (.from 7)
  streamIdentifier := some [97]
  streamRevision := 0
  preparePosition := 10
  commitPosition := 10
  metadata := [("created", "yesterday"), ("type", "order"), ("content-type", "application/json")]
  data := [123, 125]

/-- The event as `json` builds it, before it has an id. -/
def orderData : EventData :=
  ⟨[123, 125], none, [("content-type", "application/json"), ("type", "order")], none⟩

theorem order_reads_back :
    ReadsBack soloCrates ⟨true, "order", [123, 125], some 7, none⟩ 7 orderRecord
      ⟨some (.from 7), some [97], 0, 10, 10, orderRecord.metadata, [], [123, 125]⟩ := by
  have hb : (⟨true, "order", [123, 125], some 7, none⟩ : Written).Builds
      (fun _ : Unit => .ok [123, 125]) (orderData.id 7) :=
    .id 7 (.json (p := ()) rfl rfl)
  have hecho : (convertEventDataToBatchProposedMessage 0 (orderData.id 7)).EchoedBy soloCrates
      orderRecord := by
    refine ⟨⟨_, _, rfl, rfl, .inl rfl⟩, rfl, ?_, rfl, rfl⟩
    intro key value h
    simp only [convertEventDataToBatchProposedMessage, orderData, EventData.id, List.lookup_cons, List.lookup_nil] at h
    by_cases hc : key = "content-type"
    · subst hc; exact h
    · by_cases ht : key = "type"
      · subst ht; exact h
      · rw [beq_false_of_ne hc, beq_false_of_ne ht] at h
        cases h
  exact (events_read_back soloCrates hb 0 0).2.1 _ _ hecho ⟨rfl, rfl, rfl, rfl, rfl, rfl, rfl, rfl⟩

end Kurrent
