import Kurrent.Grpc.Failover
import Kurrent.Lib.Pull
import Kurrent.Streams.Metadata
import Kurrent.Streams.Subscription

/-!
# What readers make of the server's messages

The four readers of a response stream: `ReadStream` (with `next` and, on top of it,
`get_stream_metadata`), `Subscription` and `PersistentSubscription`. Each is the body of its
loop, run over an `Incoming` stream. A message may lack its content, which is how one of a
newer server decodes; a record may lack its id or its stream; and the stream may end at any
point. Which of these a reader survives differs from reader to reader.
-/

namespace Kurrent

open Lib

/-- What an operation returns, and the report it sends to the connection task. -/
structure Returns (α : Type) where
  result : Except Error α
  report : Option Msg := none

/-! ## Reading a stream -/

inductive ReadEvent where
  | event (e : ResolvedEvent)
  | firstStreamPosition (n : UInt64)
  | lastStreamPosition (n : UInt64)
  | lastAllStreamPosition (p : Position)
  deriving DecidableEq, Repr

abbrev Responses := Incoming Status ReadResp

structure ReadStream where
  channelId : Uuid
  inner : Responses

namespace ReadStream

/-- The loop of `next_read_event`. -/
def onItem (crates : Crates) (channelId : Uuid) :
    Body Unit Status ReadResp (Returns (Option ReadEvent))
  | (), .error status =>
    let e := Error.fromGrpc status
    .ret ⟨.error e, handleError channelId e⟩ ()
  | (), .ok none => .ret ⟨.ok none, none⟩ ()
  | (), .ok (some resp) =>
    match resp.content with
    | none => .panic "called `Option::unwrap()` on a `None` value"
    | some .streamNotFound => .ret ⟨.error .resourceNotFound, none⟩ ()
    | some (.event e) =>
      match ResolvedEvent.from crates e with
      | .ret event => .ret ⟨.ok (some (.event event)), none⟩ ()
      | .panic m => .panic m
    | some (.firstStreamPosition n) => .ret ⟨.ok (some (.firstStreamPosition n)), none⟩ ()
    | some (.lastStreamPosition n) => .ret ⟨.ok (some (.lastStreamPosition n)), none⟩ ()
    | some (.lastAllStreamPosition p) => .ret ⟨.ok (some (.lastAllStreamPosition p)), none⟩ ()
    | some _ => .again ()

def nextReadEvent (crates : Crates) (s : ReadStream) :
    Got Unit Status ReadResp (Returns (Option ReadEvent)) :=
  pull (onItem crates s.channelId) () s.inner

/-- One pass of `next`. -/
def nextBody (crates : Crates) (channelId : Uuid) (inner : Responses) :
    Flow Responses (Got Unit Status ReadResp (Returns (Option ResolvedEvent))) :=
  match nextReadEvent crates ⟨channelId, inner⟩ with
  | .ret ⟨.ok (some (.event e)), report⟩ _ rest => .done (.ret ⟨.ok (some e), report⟩ () rest)
  | .ret ⟨.ok (some _), _⟩ _ rest => .again rest
  | .ret ⟨.ok none, report⟩ _ rest => .done (.ret ⟨.ok none, report⟩ () rest)
  | .ret ⟨.error e, report⟩ _ rest => .done (.ret ⟨.error e, report⟩ () rest)
  | .waits => .done .waits
  | .left _ => .done (.left ())
  | .spins => .done .spins
  | .panic m => .done (.panic m)

/-- Something that was read came off the stream. -/
theorem nextReadEvent_size {crates : Crates} {channelId : Uuid} {inner rest : Responses}
    {ev : ReadEvent} {report : Option Msg} {u : Unit}
    (h : nextReadEvent crates ⟨channelId, inner⟩ = .ret ⟨.ok (some ev), report⟩ u rest) :
    rest.size < inner.size := by
  unfold nextReadEvent at h
  induction inner with
  | wait => cases h
  | close => cases h
  | fail status => cases h
  | msg resp tail ih =>
    simp only [pull] at h
    split at h
    · exact Nat.lt_succ_of_lt (ih h)
    · cases h; exact Nat.lt_succ_self _
    · cases h
    · cases h

def nextLoop (crates : Crates) (channelId : Uuid) :
    Loop Responses (Got Unit Status ReadResp (Returns (Option ResolvedEvent))) where
  body := nextBody crates channelId
  measure := Incoming.size
  decreases := by
    intro inner inner' h
    unfold nextBody at h
    split at h
    all_goals try cases h
    next hr => exact nextReadEvent_size hr

def next (crates : Crates) (s : ReadStream) :
    Got Unit Status ReadResp (Returns (Option ResolvedEvent)) :=
  (nextLoop crates s.channelId).run s.inner

end ReadStream

/-- `read_stream`, once the node is selected and the server has answered the request. -/
def readStream (node : Except Error Handle) (resp : Except Status Responses) : Returns ReadStream :=
  match node with
  | .error e => ⟨.error e, none⟩
  | .ok handle =>
    match resp with
    | .error status =>
      let e := Error.fromGrpc status
      ⟨.error e, handleError handle.id e⟩
    | .ok inner => ⟨.ok ⟨handle.id, inner⟩, none⟩

/-! ## Stream metadata -/

structure VersionedMetadata where
  /-- the stream's name, taken for UTF-8 unchecked -/
  stream : Bytes
  version : UInt64
  metadata : StreamMetadata

inductive StreamMetadataResult where
  | deleted
  | notFound
  | success (metadata : VersionedMetadata)

/-- `serde_json`: the text of a payload, and what an error prints. -/
structure JsonText where
  parse : Bytes → Except String Json
  display : DeError → String

def RecordedEvent.asMetadata (json : JsonText) (e : RecordedEvent) : Except Error StreamMetadata :=
  match json.parse e.data with
  | .error message => .error (.internalParsingError message)
  | .ok j =>
    match StreamMetadata.deserialize j with
    | .error err => .error (.internalParsingError (json.display err))
    | .ok metadata => .ok metadata

/-- The part of `get_stream_metadata` after the event was read. -/
def metadataOf (json : JsonText) (event : Option ResolvedEvent) :
    Call (Except Error StreamMetadataResult) := do
  let event ← Call.expect "to be defined" event
  let original ← event.getOriginalEvent
  match original.asMetadata json with
  | .error e => return .error e
  | .ok metadata => return .ok (.success ⟨original.streamIdRaw, original.revision, metadata⟩)

def getStreamMetadata (crates : Crates) (json : JsonText) (node : Except Error Handle)
    (resp : Except Status Responses) : Got Unit Status ReadResp (Returns StreamMetadataResult) :=
  match readStream node resp with
  | ⟨.error e, report⟩ => .ret ⟨.error e, report⟩ () .close
  | ⟨.ok stream, _⟩ =>
    match stream.next crates with
    | .ret ⟨.ok event, report⟩ _ rest =>
      match metadataOf json event with
      | .ret r => .ret ⟨r, report⟩ () rest
      | .panic m => .panic m
    | .ret ⟨.error .resourceNotFound, report⟩ _ rest => .ret ⟨.ok .notFound, report⟩ () rest
    | .ret ⟨.error .resourceDeleted, report⟩ _ rest => .ret ⟨.ok .deleted, report⟩ () rest
    | .ret ⟨.error e, report⟩ _ rest => .ret ⟨.error e, report⟩ () rest
    | .waits => .waits
    | .left _ => .left ()
    | .spins => .spins
    | .panic m => .panic m

/-! ## Subscriptions -/

/-- The loop of `next_subscription_event` on the stream it holds, whose other end is
`reader`. The subscription is as it is with the stream taken out. A stream that fails is not
put back: the call returns the error or subscribes again. -/
def Subscription.onStream (crates : Crates) (reader : Reader Key) :
    Body Subscription Status ReadResp (Except Error SubscriptionEvent) := fun sub r =>
  let o := sub.onItem crates reader r
  match r, o.turn with
  | .error _, _ => .leave o.sub
  | .ok _, .again => .again o.sub.head.1
  | .ok _, .ret res => .ret res o.sub.head.1
  | .ok _, .sleep => .leave o.sub
  | .ok _, .panic m => .panic m

namespace Proto

inductive Count where
  | retryCount (n : Int32)
  | noRetryCount
  deriving DecidableEq, Repr

/-- The record of the persistent subscriptions' protocol, a message type of its own. -/
structure PersistentRecordedEvent where
  id : Option Uuid
  streamIdentifier : Option Bytes
  streamRevision : UInt64
  preparePosition : UInt64
  commitPosition : UInt64
  metadata : List (String × String) := []
  customMetadata : Bytes := []
  data : Bytes := []
  deriving DecidableEq, Repr

def PersistentRecordedEvent.into (value : PersistentRecordedEvent) : RecordedEvent where
  id := value.id
  streamIdentifier := value.streamIdentifier
  streamRevision := value.streamRevision
  preparePosition := value.preparePosition
  commitPosition := value.commitPosition
  metadata := value.metadata
  customMetadata := value.customMetadata
  data := value.data

structure PersistentReadEvent where
  event : Option PersistentRecordedEvent
  link : Option PersistentRecordedEvent
  position : Option EventPosition
  count : Option Count
  deriving DecidableEq, Repr

inductive PersistentContent where
  | event (e : PersistentReadEvent)
  | subscriptionConfirmation (subscriptionId : String)
  deriving DecidableEq, Repr

/-- The event with the records of the streams' protocol. -/
def PersistentReadEvent.into (value : PersistentReadEvent) : ReadEvent :=
  ⟨value.event.map (·.into), value.link.map (·.into), value.position⟩

structure PersistentReadResp where
  content : Option PersistentContent
  deriving DecidableEq, Repr

end Proto

inductive PersistentSubscriptionEvent where
  | eventAppeared (retryCount : UInt64) (event : ResolvedEvent)
  | confirmed (subscriptionId : String)
  deriving DecidableEq, Repr

/-- `From<persistent RecordedEvent> for RecordedEvent`, by way of the streams' record. -/
def RecordedEvent.fromPersistent (crates : Crates) (value : Proto.PersistentRecordedEvent) :
    Call RecordedEvent :=
  RecordedEvent.from crates value.into

def PersistentSubscriptionEvent.from (crates : Crates) :
    Proto.PersistentContent → Call PersistentSubscriptionEvent
  | .event value => do
    let resolved ← ResolvedEvent.from crates value.into
    let retryCount := match value.count with
      | some (.retryCount count) => count.toInt64.toUInt64
      | some .noRetryCount => 0
      | none => 0
    return .eventAppeared retryCount resolved
  | .subscriptionConfirmation id => .ret (.confirmed id)

/-- `next_subscription_event`, which has no loop. -/
def PersistentSubscription.onItem (crates : Crates) (channelId : Uuid) :
    Body Unit Status Proto.PersistentReadResp (Returns PersistentSubscriptionEvent)
  | (), .error status =>
    if (status.get "exception").bind headerToStr = some "persistent-subscription-dropped" then
      .ret ⟨.error (.illegalStateError "Persistent subscription has dropped"), none⟩ ()
    else
      let e := Error.fromGrpc status
      .ret ⟨.error e, handleError channelId e⟩ ()
  | (), .ok resp =>
    match resp.bind Proto.PersistentReadResp.content with
    | none => .panic "internal error: entered unreachable code"
    | some content =>
      match PersistentSubscriptionEvent.from crates content with
      | .ret ev => .ret ⟨.ok ev, none⟩ ()
      | .panic m => .panic m

/-! ## Messages that can be read -/

/-- The record has an id that can be read and names its stream. -/
def Proto.RecordedEvent.Complete (crates : Crates) (r : Proto.RecordedEvent) : Prop :=
  (∃ id, r.id = some id ∧ (id.tryInto crates).isSome) ∧ r.streamIdentifier.isSome

/-- So do the event and the link, those that are there. -/
def Proto.ReadEvent.Complete (crates : Crates) (e : Proto.ReadEvent) : Prop :=
  (∀ r ∈ e.event, r.Complete crates) ∧ ∀ r ∈ e.link, r.Complete crates

section

variable {crates : Crates} {e : Proto.ReadEvent} {m : String}

theorem recordedEvent_ret_iff {r : Proto.RecordedEvent} :
    (∃ ev, RecordedEvent.from crates r = .ret ev) ↔ r.Complete crates := by
  constructor
  · rintro ⟨ev, h⟩
    obtain ⟨id, hid, h⟩ := Call.bind_eq_ret h
    obtain ⟨id', hid', h⟩ := Call.bind_eq_ret h
    obtain ⟨secs, -, h⟩ := Call.bind_eq_ret h
    obtain ⟨raw, hraw, -⟩ := Call.bind_eq_ret h
    refine ⟨⟨id, Call.expect_eq_ret hid, ?_⟩, ?_⟩
    · rw [Call.expect_eq_ret hid']; rfl
    · rw [Call.expect_eq_ret hraw]; rfl
  · rintro ⟨⟨id, hid, htext⟩, hraw⟩
    obtain ⟨id', hid'⟩ := Option.isSome_iff_exists.mp htext
    obtain ⟨raw, hraw⟩ := Option.isSome_iff_exists.mp hraw
    unfold RecordedEvent.from
    rw [hid, hraw]
    simp only [Call.expect, Call.ret_bind, hid', dateTimeFrom_created]
    exact ⟨_, rfl⟩

theorem recordedOpt_ret_iff {o : Option Proto.RecordedEvent} :
    (∃ ev, recordedOpt crates o = .ret ev) ↔ ∀ r ∈ o, r.Complete crates := by
  cases o with
  | none => simp [recordedOpt]
  | some r =>
    simp only [Option.mem_some_iff, forall_eq', ← recordedEvent_ret_iff]
    constructor
    · rintro ⟨ev, h⟩
      obtain ⟨ev', h', -⟩ := Call.bind_eq_ret h
      exact ⟨ev', h'⟩
    · rintro ⟨ev, h⟩
      exact ⟨some ev, by simp only [recordedOpt, h]; rfl⟩

theorem resolvedEvent_ret_iff :
    (∃ ev, ResolvedEvent.from crates e = .ret ev) ↔ e.Complete crates := by
  unfold Proto.ReadEvent.Complete
  rw [← recordedOpt_ret_iff, ← recordedOpt_ret_iff]
  constructor
  · rintro ⟨ev, h⟩
    obtain ⟨he, hl⟩ := resolvedEvent_ret h
    exact ⟨⟨_, he⟩, ⟨_, hl⟩⟩
  · rintro ⟨⟨ev, he⟩, ⟨l, hl⟩⟩
    exact ⟨_, by unfold ResolvedEvent.from; rw [he, hl]; rfl⟩

/-- A conversion that panics was given an incomplete record. -/
theorem not_complete (h : ResolvedEvent.from crates e = .panic m) : ¬ e.Complete crates := by
  rw [← resolvedEvent_ret_iff]
  rintro ⟨ev, hev⟩
  rw [h] at hev
  cases hev

theorem complete_of_ret {ev : ResolvedEvent} (h : ResolvedEvent.from crates e = .ret ev) :
    e.Complete crates := resolvedEvent_ret_iff.mp ⟨ev, h⟩

/-! ## Reader by reader -/

/-- It has content, and an event has complete records. -/
def ReadResp.Readable (crates : Crates) (resp : ReadResp) : Prop :=
  ∃ c, resp.content = some c ∧ ∀ e, c = .event e → e.Complete crates

theorem readable_of_content {resp : ReadResp} {c : Content} (hc : resp.content = some c)
    (hevent : ∀ e, c ≠ .event e) : resp.Readable crates :=
  ⟨c, hc, fun e he => absurd he (hevent e)⟩

theorem readStream_safe_iff {channelId : Uuid} {inner : Responses} :
    Safe (ReadStream.onItem crates channelId) () inner ↔ inner.All (ReadResp.Readable crates) := by
  have closed : Safe (ReadStream.onItem crates channelId) () (.close : Responses) := by
    intro n
    induction n with
    | zero => trivial
    | succ n ih => exact ih
  have hmsg : ∀ s resp, (ReadStream.onItem crates channelId s (.ok (some resp))).Reads
      (resp.Readable crates) := by
    intro s resp
    cases hc : resp.content with
    | none =>
      simp only [ReadStream.onItem, hc, ReadResp.Readable]
      rintro ⟨c, hc', -⟩
      cases hc'
    | some c =>
      cases c with
      | event e =>
        simp only [ReadStream.onItem, hc]
        cases he : ResolvedEvent.from crates e with
        | ret ev => exact ⟨_, hc, fun e' he' => by cases he'; exact complete_of_ret he⟩
        | panic m =>
          rintro ⟨c, hc', h⟩
          rw [hc] at hc'
          cases hc'
          exact not_complete he (h e rfl)
      | confirmation | checkpoint | streamNotFound | firstStreamPosition | lastStreamPosition
      | lastAllStreamPosition | caughtUp | fellBehind =>
        simp only [ReadStream.onItem, hc]
        exact readable_of_content hc (by simp)
  have h := safe_iff (E := fun _ => True) hmsg trivial (fun _ => iff_true_intro closed)
    (fun s status => iff_true_intro ((safe_of_pull_ret rfl).mpr closed)) () inner
  rw [h, and_true]

/-- It says nothing this client does not expect of a subscription, and an event has
complete records, one at least. -/
def ReadResp.Deliverable (crates : Crates) (resp : ReadResp) : Prop :=
  resp.content ≠ some .streamNotFound ∧
    ∀ e, resp.content = some (.event e) → e.Complete crates ∧ e.original ≠ none

theorem deliverable_of_content {resp : ReadResp} {c : Option Content} (hc : resp.content = c)
    (hfound : c ≠ some .streamNotFound) (hevent : ∀ e, c ≠ some (.event e)) :
    resp.Deliverable crates := by
  rw [← hc] at hfound hevent
  exact ⟨hfound, fun e he => absurd he (hevent e)⟩

theorem subscription_safe_iff {reader : Reader Key} {sub : Subscription} {inner : Responses} :
    Safe (Subscription.onStream crates reader) sub inner ↔
      inner.All (ReadResp.Deliverable crates) ∧ inner.last ≠ .close := by
  have hmsg : ∀ sub resp, (Subscription.onStream crates reader sub (.ok (some resp))).Reads
      (resp.Deliverable crates) := by
    intro sub resp
    unfold Subscription.onStream Subscription.onItem
    simp only [Option.bind_some]
    cases hc : resp.content with
    | none => exact deliverable_of_content hc (by simp) (by simp)
    | some c =>
      cases c with
      | event e =>
        simp only [Subscription.onContent]
        cases he : ResolvedEvent.from crates e with
        | panic m =>
          rintro ⟨-, h⟩
          exact not_complete he (h e hc).1
        | ret ev =>
          simp only [Call.ret_bind]
          cases ho : ev.getOriginalEvent with
          | panic m =>
            rintro ⟨-, h⟩
            exact (h e hc).2 (original_eq_none he ho)
          | ret o =>
            refine ⟨by simp [hc], fun e' he' => ?_⟩
            rw [hc] at he'
            cases he'
            obtain ⟨w, hw, -⟩ := getOriginalEvent_from he ho
            exact ⟨complete_of_ret he, by rw [hw]; exact nofun⟩
      | streamNotFound =>
        simp only [Subscription.onContent]
        exact fun h => h.1 hc
      | confirmation | checkpoint | firstStreamPosition | lastStreamPosition
      | lastAllStreamPosition | caughtUp | fellBehind =>
        simp only [Subscription.onContent]
        exact deliverable_of_content hc (by simp) (by simp)
  refine safe_iff (E := fun i => i ≠ .close) hmsg nofun (fun s => ?_) (fun s status => ?_) sub inner
  · exact iff_of_false (not_safe_of_pull id) (fun h => h rfl)
  · exact iff_of_true (safe_of_fine trivial fun _ _ _ => nofun) nofun

def Proto.PersistentReadResp.Readable (crates : Crates) (resp : Proto.PersistentReadResp) : Prop :=
  ∃ c, resp.content = some c ∧
    ∀ e, c = .event e → Proto.ReadEvent.Complete crates e.into

theorem persistent_safe_iff {channelId : Uuid} {inner : Incoming Status Proto.PersistentReadResp} :
    Safe (PersistentSubscription.onItem crates channelId) () inner ↔
      inner.All (Proto.PersistentReadResp.Readable crates) ∧ inner.last = .wait := by
  have closed : ¬ Safe (PersistentSubscription.onItem crates channelId) () .close :=
    not_safe_of_pull id
  have hmsg : ∀ s resp, (PersistentSubscription.onItem crates channelId s (.ok (some resp))).Reads
      (resp.Readable crates) := by
    intro s resp
    unfold PersistentSubscription.onItem
    simp only [Option.bind_some]
    cases hc : resp.content with
    | none =>
      rintro ⟨c, hc', -⟩
      rw [hc] at hc'
      cases hc'
    | some c =>
      cases c with
      | event e =>
        simp only [PersistentSubscriptionEvent.from]
        cases he : ResolvedEvent.from crates e.into with
        | ret ev => exact ⟨_, hc, fun e' he' => by cases he'; exact complete_of_ret he⟩
        | panic m =>
          rintro ⟨c, hc', h⟩
          rw [hc] at hc'
          cases hc'
          exact not_complete he (h e rfl)
      | subscriptionConfirmation id => exact ⟨_, hc, fun e he => by cases he⟩
  refine safe_iff (E := fun i => i = .wait) hmsg rfl (fun s => ?_) (fun s status => ?_) () inner
  · exact iff_of_false closed nofun
  · -- the call after the one that returned the error finds the stream exhausted
    refine iff_of_false (fun h => closed ?_) nofun
    have hret : ∃ r, pull (PersistentSubscription.onItem crates channelId) s
        (.fail status) = .ret r () .close := by
      by_cases hx : (status.get "exception").bind headerToStr =
        some "persistent-subscription-dropped"
      · simp only [pull, PersistentSubscription.onItem, hx, if_true]
        exact ⟨_, rfl⟩
      · simp only [pull, PersistentSubscription.onItem, hx, if_false]
        exact ⟨_, rfl⟩
    obtain ⟨r, hr⟩ := hret
    exact (safe_of_pull_ret hr).mp h

/-- A stream the metadata can be read from: its first event has complete records, one at
least, and nothing before it lacks its content; or it is not found, fails or falls silent
before an event, but does not end. -/
def MetadataReadable (crates : Crates) : Responses → Prop
  | .wait | .fail _ => True
  | .close => False
  | .msg resp rest =>
    match resp.content with
    | none => False
    | some .streamNotFound => True
    | some (.event e) => e.Complete crates ∧ e.original ≠ none
    | some _ => MetadataReadable crates rest

/-- What `get_stream_metadata` makes of the outcome of `next`. -/
def onNext (json : JsonText) :
    Got Unit Status ReadResp (Returns (Option ResolvedEvent)) → Prop
  | .ret ⟨.ok event, _⟩ _ _ => ∃ r, metadataOf json event = .ret r
  | .ret ⟨.error _, _⟩ _ _ | .waits | .left _ => True
  | .spins | .panic _ => False

theorem metadataOf_ret_iff {json : JsonText} {ev : ResolvedEvent}
    (h : ResolvedEvent.from crates e = .ret ev) :
    (∃ r, metadataOf json (some ev) = .ret r) ↔ e.original ≠ none := by
  constructor
  · rintro ⟨r, hr⟩
    obtain ⟨ev', hev', hr⟩ := Call.bind_eq_ret hr
    cases hev'
    obtain ⟨o, ho, -⟩ := Call.bind_eq_ret hr
    obtain ⟨w, hw, -⟩ := getOriginalEvent_from h ho
    rw [hw]
    exact nofun
  · intro hne
    cases ho : ev.getOriginalEvent with
    | panic m => exact absurd (original_eq_none h ho) hne
    | ret o =>
      simp only [metadataOf, Call.expect, Call.ret_bind, ho]
      cases o.asMetadata json <;> exact ⟨_, rfl⟩

theorem next_eq {channelId : Uuid} {inner : Responses} :
    ReadStream.next crates ⟨channelId, inner⟩ =
      match ReadStream.nextBody crates channelId inner with
      | .done r => r
      | .again rest => ReadStream.next crates ⟨channelId, rest⟩ := by
  cases hb : ReadStream.nextBody crates channelId inner with
  | done r => exact Loop.run_of_done (L := ReadStream.nextLoop crates channelId) hb
  | again rest => exact Loop.run_of_again (L := ReadStream.nextLoop crates channelId) hb

/-- What `next` does with a message: it is done with the stream, or goes on with the rest. -/
theorem next_msg {channelId : Uuid} {resp : ReadResp} {rest : Responses} :
    ReadStream.next crates ⟨channelId, .msg resp rest⟩ =
      match resp.content with
      | none => .panic "called `Option::unwrap()` on a `None` value"
      | some .streamNotFound => .ret ⟨.error .resourceNotFound, none⟩ () rest
      | some (.event e) =>
        match ResolvedEvent.from crates e with
        | .ret ev => .ret ⟨.ok (some ev), none⟩ () rest
        | .panic m => .panic m
      | some _ => ReadStream.next crates ⟨channelId, rest⟩ := by
  rw [next_eq]
  unfold ReadStream.nextBody ReadStream.nextReadEvent
  simp only [pull, ReadStream.onItem]
  cases resp.content with
  | none => rfl
  | some c =>
    cases c with
    | event e =>
      simp only
      cases ResolvedEvent.from crates e with
      | ret ev => rfl
      | panic m => rfl
    | streamNotFound | firstStreamPosition | lastStreamPosition | lastAllStreamPosition => rfl
    | confirmation | checkpoint | caughtUp | fellBehind => exact next_eq.symm

theorem next_metadata_iff {json : JsonText} {channelId : Uuid} {inner : Responses} :
    onNext json (ReadStream.next crates ⟨channelId, inner⟩) ↔ MetadataReadable crates inner := by
  induction inner with
  | wait => exact iff_of_true trivial trivial
  | close => exact iff_of_false (fun ⟨r, hr⟩ => by cases hr) id
  | fail status => exact iff_of_true trivial trivial
  | msg resp rest ih =>
    rw [next_msg]
    unfold MetadataReadable
    cases resp.content with
    | none => exact iff_of_false id id
    | some c =>
      cases c with
      | streamNotFound => exact iff_of_true trivial trivial
      | event e =>
        simp only
        cases he : ResolvedEvent.from crates e with
        | ret ev => rw [and_iff_right (complete_of_ret he)]; exact metadataOf_ret_iff he
        | panic m => exact iff_of_false id (fun h => not_complete he h.1)
      | confirmation | checkpoint | firstStreamPosition | lastStreamPosition
      | lastAllStreamPosition | caughtUp | fellBehind => exact ih

theorem metadata_fine_iff {json : JsonText} {node : Except Error Handle}
    {resp : Except Status Responses} :
    (getStreamMetadata crates json node resp).Fine ↔
      ∀ handle inner, node = .ok handle → resp = .ok inner → MetadataReadable crates inner := by
  cases node with
  | error e => exact iff_of_true trivial fun _ _ h => by cases h
  | ok handle =>
    cases resp with
    | error status => exact iff_of_true trivial fun _ _ _ h => by cases h
    | ok inner =>
      have hone : (∀ h i, Except.ok handle = (.ok h : Except Error Handle) →
          (Except.ok inner : Except Status Responses) = .ok i → MetadataReadable crates i) ↔
          MetadataReadable crates inner :=
        ⟨fun h => h _ _ rfl rfl, fun h _ _ _ hi => by cases hi; exact h⟩
      rw [hone, ← @next_metadata_iff crates json handle.id inner]
      simp only [getStreamMetadata, readStream]
      cases hn : ReadStream.next crates ⟨handle.id, inner⟩ with
      | ret r u rest =>
        obtain ⟨result, report⟩ := r
        cases result with
        | ok event =>
          cases hm : metadataOf json event with
          | ret r =>
            simp only [hm]
            exact iff_of_true trivial ⟨r, hm⟩
          | panic m =>
            simp only [hm]
            refine iff_of_false id ?_
            rintro ⟨r, hr⟩
            rw [hm] at hr
            cases hr
        | error err => cases err <;> exact iff_of_true trivial trivial
      | waits | left u => exact iff_of_true trivial trivial
      | spins | panic m => exact iff_of_false id id

end

/-- **Which messages the readers survive.** However often it is called, no call of a reader
panics, nor goes round for ever at the end of the stream, exactly when: for a read stream,
every message has content and the records of every event are complete; for a subscription,
no message says that the stream is not found, the records of every event are complete and
there is one, and the stream does not end; for a persistent subscription, every message has
content and complete records, and the stream neither ends nor fails; for the metadata of a
stream, the same of the messages up to the first event, which comes before the end. -/
theorem readers_answer_iff (crates : Crates) (json : JsonText) :
    (∀ channelId inner, Safe (ReadStream.onItem crates channelId) () inner ↔
      inner.All (ReadResp.Readable crates)) ∧
    (∀ reader sub inner, Safe (Subscription.onStream crates reader) sub inner ↔
      inner.All (ReadResp.Deliverable crates) ∧ inner.last ≠ .close) ∧
    (∀ channelId inner, Safe (PersistentSubscription.onItem crates channelId) () inner ↔
      inner.All (Proto.PersistentReadResp.Readable crates) ∧ inner.last = .wait) ∧
    (∀ node resp, (getStreamMetadata crates json node resp).Fine ↔
      ∀ handle inner, node = .ok handle → resp = .ok inner → MetadataReadable crates inner) :=
  ⟨fun _ _ => readStream_safe_iff, fun _ _ _ => subscription_safe_iff,
    fun _ _ => persistent_safe_iff, fun _ _ => metadata_fine_iff⟩

/-- No payload is read. -/
def noJson : JsonText := ⟨fun _ => .error "expected value", fun _ => ""⟩

/-- A message whose content this client does not know, a subscription to a stream that is
not there, and streams that end. -/
theorem readers_panic :
    ReadStream.nextReadEvent soloCrates ⟨1, .msg ⟨none⟩ .wait⟩ =
      .panic "called `Option::unwrap()` on a `None` value" ∧
    (∀ reader sub, pull (Subscription.onStream soloCrates reader) sub
      (.msg ⟨some .streamNotFound⟩ .wait) = .panic "internal error: entered unreachable code") ∧
    pull (PersistentSubscription.onItem soloCrates 1) () .close =
      .panic "internal error: entered unreachable code" ∧
    getStreamMetadata soloCrates noJson (.ok (Handle.ofInfo (soloInfo 1 2113))) (.ok .close) =
      .panic "to be defined" :=
  ⟨rfl, fun _ _ => rfl, rfl, rfl⟩

end Kurrent
