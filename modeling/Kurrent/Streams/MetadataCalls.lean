import Kurrent.Lib.Optimistic
import Kurrent.Streams.Write

/-!
# Setting metadata and getting it back

`set_stream_metadata` appends an event to the metadata stream and `get_stream_metadata` reads
one (`client.rs`): the first that a read under the caller's options finds, whatever came after
it. The server may have cleaned up the front of the stream, so events keep their numbers.

`Editors` are callers that get metadata, compute new ones from what they got, and set these
under the version they got. `Lib.Optimistic` says what that comes to.
-/

namespace Kurrent

open Lib

/-! ## What a read finds -/

/-- `ReadStreamOptions::position`, which sets the direction too. -/
def ReadStreamOptions.withPosition (o : ReadStreamOptions) (position : StreamPosition UInt64) :
    ReadStreamOptions :=
  match position with
  | .start => { o with position, direction := .forward }
  | .end => { o with position, direction := .backward }
  | .position _ => { o with position }

section

variable {α β : Type}

/-- The entries of a list that are left when the first `gone` are cleaned up, with their
numbers. -/
def keptFrom (gone : Nat) (l : List α) : List (α × Nat) := l.zipIdx.drop gone

/-- The entries that the options of a read name, in the order in which it gives them. -/
def ReadStreamOptions.finds (o : ReadStreamOptions) (kept : List (α × Nat)) : List (α × Nat) :=
  let found := match o.direction, o.position with
    | .forward, .start => kept
    | .forward, .position rev => kept.filter fun e : α × Nat => rev.toNat ≤ e.2
    | .forward, .end => []
    | .backward, .start => (kept.filter fun e : α × Nat => e.2 ≤ 0).reverse
    | .backward, .position rev => (kept.filter fun e : α × Nat => e.2 ≤ rev.toNat).reverse
    | .backward, .end => kept.reverse
  found.take o.maxCount.toNat

/-- The same, as the server takes it from the request. -/
def Proto.ReadReq.finds (req : Proto.ReadReq) (kept : List (α × Nat)) : List (α × Nat) :=
  match req.options.streamOption with
  | .all _ => []
  | .stream _ revision =>
    let found := if req.readDirection = 0 then
        match revision with
        | .start => kept
        | .revision rev => kept.filter fun e : α × Nat => rev.toNat ≤ e.2
        | .end => []
      else
        match revision with
        | .start => (kept.filter fun e : α × Nat => e.2 ≤ 0).reverse
        | .revision rev => (kept.filter fun e : α × Nat => e.2 ≤ rev.toNat).reverse
        | .end => kept.reverse
    found.take req.count.toNat

theorem getStreamMetadataCall_finds (name : NameArg) (options : ReadStreamOptions)
    (kept : List (α × Nat)) : (getStreamMetadataCall name options).finds kept =
      options.finds kept := by
  unfold getStreamMetadataCall readStreamCall Proto.ReadReq.finds ReadStreamOptions.finds
  cases options.direction <;> cases options.position <;> rfl

/-- A read from the end finds the last entry, whatever was cleaned up. -/
theorem finds_end {o : ReadStreamOptions} {gone : Nat} {l : List α} (hcount : o.maxCount ≠ 0)
    (hkept : keptFrom gone l ≠ []) : ((o.withPosition .end).finds (keptFrom gone l)).head? =
      l.getLast?.map fun a => (a, l.length - 1) := by
  have hpos : o.maxCount.toNat ≠ 0 := fun h => hcount (UInt64.toNat_inj.mp h)
  have hgone : gone < l.length := by
    by_contra hle
    exact hkept (List.drop_eq_nil_of_le (by rw [List.length_zipIdx]; omega))
  have hlast : (keptFrom gone l).getLast? = l.getLast?.map fun a => (a, l.length - 1) := by
    unfold keptFrom
    rw [List.getLast?_drop, List.length_zipIdx, if_neg (by omega), List.getLast?_eq_getElem?,
      List.getLast?_eq_getElem?, List.length_zipIdx, List.getElem?_zipIdx]
    simp
  show (((keptFrom gone l).reverse).take o.maxCount.toNat).head? = _
  rw [List.head?_take, if_neg hpos, List.head?_reverse, hlast]

/-- Lists whose entries correspond, number by number. -/
def Numbered (R : α → β → Prop) (a : α × Nat) (b : β × Nat) : Prop := R a.1 b.1 ∧ a.2 = b.2

theorem zipIdx_rel {R : α → β → Prop} {l : List α} {l' : List β} (h : List.Forall₂ R l l')
    (n : Nat) : List.Forall₂ (Numbered R) (l.zipIdx n) (l'.zipIdx n) := by
  induction h generalizing n with
  | nil => exact .nil
  | cons hr _ ih =>
    rw [List.zipIdx_cons, List.zipIdx_cons]
    exact .cons ⟨hr, rfl⟩ (ih (n + 1))

theorem keptFrom_rel {R : α → β → Prop} {l : List α} {l' : List β} (h : List.Forall₂ R l l')
    (gone : Nat) : List.Forall₂ (Numbered R) (keptFrom gone l) (keptFrom gone l') :=
  List.forall₂_drop gone (zipIdx_rel h 0)

theorem finds_rel {R : α → β → Prop} {kept : List (α × Nat)} {kept' : List (β × Nat)}
    (o : ReadStreamOptions) (h : List.Forall₂ (Numbered R) kept kept') :
    List.Forall₂ (Numbered R) (o.finds kept) (o.finds kept') := by
  have hfilter (p : Nat → Bool) : List.Forall₂ (Numbered R) (kept.filter fun e => p e.2)
      (kept'.filter fun e => p e.2) :=
    List.rel_filter (fun a b hab => show p a.2 = true ↔ p b.2 = true by rw [hab.2]) h
  unfold ReadStreamOptions.finds
  refine List.forall₂_take _ ?_
  split
  · exact h
  · next rev _ _ => exact hfilter fun n => rev.toNat ≤ n
  · exact .nil
  · exact List.rel_reverse (hfilter fun n => n ≤ 0)
  · next rev _ _ => exact List.rel_reverse (hfilter fun n => n ≤ rev.toNat)
  · exact List.rel_reverse h

end

/-! ## What the server answers -/

/-- What a server may send for these events of a stream: a record for each, under its number,
with anything between them that is not an event; it may fall silent or fail at any point. -/
inductive Sends (crates : Crates) (stream : Bytes) :
    List (Proto.ProposedMessage × Nat) → Responses → Prop where
  | finished : Sends crates stream [] .close
  | silent (found : List (Proto.ProposedMessage × Nat)) : Sends crates stream found .wait
  | fails (found : List (Proto.ProposedMessage × Nat)) (status : Status) :
    Sends crates stream found (.fail status)
  | control {found : List (Proto.ProposedMessage × Nat)} {c : Content} {rest : Responses} :
    (∀ e, c ≠ .event e) → c ≠ .streamNotFound → Sends crates stream found rest →
      Sends crates stream found (.msg ⟨some c⟩ rest)
  | event {m : Proto.ProposedMessage} {n : Nat} {found : List (Proto.ProposedMessage × Nat)}
      {r : Proto.RecordedEvent} {rest : Responses} (position : Option Proto.EventPosition) :
    m.EchoedBy crates r → r.streamIdentifier = some stream → r.streamRevision.toNat = n →
      Sends crates stream found rest →
      Sends crates stream ((m, n) :: found) (.msg ⟨some (.event ⟨some r, none, position⟩)⟩ rest)

/-- The answer to a read of a stream of which this is left. -/
inductive Answered (crates : Crates) (stream : Bytes) (req : Proto.ReadReq) :
    List (Proto.ProposedMessage × Nat) → Responses → Prop where
  | found {kept : List (Proto.ProposedMessage × Nat)} {inner : Responses} : kept ≠ [] →
    Sends crates stream (req.finds kept) inner → Answered crates stream req kept inner
  | notFound (rest : Responses) : Answered crates stream req [] (.msg ⟨some .streamNotFound⟩ rest)
  | silent (kept : List (Proto.ProposedMessage × Nat)) : Answered crates stream req kept .wait
  | fails (kept : List (Proto.ProposedMessage × Nat)) (status : Status) :
    Answered crates stream req kept (.fail status)

/-- What the first call of `next` comes to. -/
inductive FirstRead (id : Uuid) (stream : Bytes) : List (Proto.ProposedMessage × Nat) →
    Got Unit Status ReadResp (Returns (Option ResolvedEvent)) → Prop where
  | event {m : Proto.ProposedMessage} {n : Nat} {found : List (Proto.ProposedMessage × Nat)}
      {event : ResolvedEvent} {e : RecordedEvent} {rest : Responses} :
    event.getOriginalEvent = .ret e → e.data = m.data → e.revision.toNat = n →
      e.streamIdRaw = stream →
      FirstRead id stream ((m, n) :: found) (.ret ⟨.ok (some event), none⟩ () rest)
  | finished : FirstRead id stream [] (.ret ⟨.ok none, none⟩ () .close)
  | failed {found : List (Proto.ProposedMessage × Nat)} (status : Status) :
    FirstRead id stream found (.ret ⟨.error (Error.fromGrpc status),
      handleError id (Error.fromGrpc status)⟩ () .close)
  | waits {found : List (Proto.ProposedMessage × Nat)} : FirstRead id stream found .waits

section

variable {crates : Crates} {stream : Bytes} {id : Uuid}

/-- A record of a message that carries an id is read as the message, under its number. -/
theorem record_read {m : Proto.ProposedMessage} {r : Proto.RecordedEvent} {newId : Uuid}
    (hid : m.id = some (.from newId)) (hecho : m.EchoedBy crates r)
    (hstream : r.streamIdentifier = some stream) (position : Option Proto.EventPosition) :
    ∃ event e, ResolvedEvent.from crates ⟨some r, none, position⟩ = .ret event ∧
      event.getOriginalEvent = .ret e ∧ e.data = m.data ∧ e.revision = r.streamRevision ∧
      e.streamIdRaw = stream := by
  obtain ⟨u, sent, hu, hsent, hsame⟩ := hecho.id
  rw [hid] at hsent
  cases hsent
  have hcomplete : r.Complete crates :=
    ⟨⟨u, hu, by rw [hsame.tryInto]; rfl⟩, by rw [hstream]; rfl⟩
  obtain ⟨e, he⟩ := recordedEvent_ret_iff.mpr hcomplete
  have hfields : e.data = r.data ∧ r.streamIdentifier = some e.streamIdRaw := by
    obtain ⟨_, -, h⟩ := Call.bind_eq_ret he
    obtain ⟨_, -, h⟩ := Call.bind_eq_ret h
    obtain ⟨_, -, h⟩ := Call.bind_eq_ret h
    obtain ⟨raw, hraw, h⟩ := Call.bind_eq_ret h
    cases h
    exact ⟨rfl, Call.expect_eq_ret hraw⟩
  have hev : ∃ pos, ResolvedEvent.from crates ⟨some r, none, position⟩ =
      .ret ⟨some e, none, pos⟩ := by
    simp only [ResolvedEvent.from, recordedOpt, he, Call.ret_bind, Call.pure_eq]
    exact ⟨_, rfl⟩
  obtain ⟨pos, hev⟩ := hev
  refine ⟨_, e, hev, rfl, hfields.1.trans hecho.data, (recordedEvent_place he).1, ?_⟩
  rw [hstream] at hfields
  exact (Option.some.inj hfields.2).symm

theorem firstRead_of_sends {found : List (Proto.ProposedMessage × Nat)} {inner : Responses}
    (h : Sends crates stream found inner)
    (hids : ∀ e ∈ found, ∃ newId, e.1.id = some (.from newId)) :
    FirstRead id stream found (ReadStream.next crates ⟨id, inner⟩) := by
  induction h with
  | finished => exact .finished
  | silent found => exact .waits
  | fails found status => exact .failed status
  | control hevent hfound _ ih =>
    rw [next_msg]
    split
    · next h => cases h
    · next h => exact absurd (Option.some.inj h) hfound
    · next e h => exact absurd (Option.some.inj h) (hevent e)
    · exact ih hids
  | event position hecho hstream hn _ _ =>
    obtain ⟨newId, hid⟩ := hids _ (List.mem_cons_self ..)
    obtain ⟨event, e, hev, horiginal, hdata, hrev, hraw⟩ := record_read hid hecho hstream position
    rw [next_msg]
    simp only [hev]
    exact .event horiginal hdata (by rw [hrev, hn]) hraw

end

/-! ## Metadata on the wire -/

/-- The parts of a duration that the text does not hold are lost. -/
def StreamMetadata.cut (m : StreamMetadata) : StreamMetadata :=
  { m with maxAge := m.maxAge.map Duration.cut, cacheControl := m.cacheControl.map Duration.cut }

/-- No property has the name of a field. -/
def StreamMetadata.Plain (m : StreamMetadata) : Prop :=
  ∀ k ∈ m.customProperties, k ∉ metadataFields

/-- `serde_json` reads the text that it wrote. -/
def JsonText.Reads (json : JsonText) (toVec : StreamMetadata → Except String Bytes) : Prop :=
  ∀ m bytes, toVec m = .ok bytes →
    ∃ order : Visit m.customProperties, json.parse bytes = .ok (m.serialize order)

/-- The message has an id and its data are these metadata. -/
def IsMetadata (json : JsonText) (m : StreamMetadata) (msg : Proto.ProposedMessage) : Prop :=
  (∃ id, msg.id = some (.from id)) ∧
    ∃ j, json.parse msg.data = .ok j ∧ StreamMetadata.deserialize j = .ok m

/-- The result when the read fails. -/
def failedGet (id : Uuid) (status : Status) : Returns StreamMetadataResult :=
  let e := Error.fromGrpc status
  match e with
  | .resourceNotFound => ⟨.ok .notFound, handleError id e⟩
  | .resourceDeleted => ⟨.ok .deleted, handleError id e⟩
  | e => ⟨.error e, handleError id e⟩

/-- What `get_stream_metadata` comes to, from the metadata that are there and those that its
read finds. -/
inductive MetadataGot (id : Uuid) (stream : Bytes) (kept found : List (StreamMetadata × Nat)) :
    Got Unit Status ReadResp (Returns StreamMetadataResult) → Prop where
  | success {m : StreamMetadata} {version : UInt64} {rest : Responses} :
    found.head? = some (m, version.toNat) →
      MetadataGot id stream kept found (.ret ⟨.ok (.success ⟨stream, version, m⟩), none⟩ () rest)
  | notFound {rest : Responses} : kept = [] →
    MetadataGot id stream kept found (.ret ⟨.ok .notFound, none⟩ () rest)
  /-- there are metadata, but the read was not asked for them -/
  | nothing : kept ≠ [] → found = [] → MetadataGot id stream kept found (.panic "to be defined")
  | failed (status : Status) {rest : Responses} :
    MetadataGot id stream kept found (.ret (failedGet id status) () rest)
  | waits : MetadataGot id stream kept found .waits

section

variable {crates : Crates} {json : JsonText} {toVec : StreamMetadata → Except String Bytes}
  {handle : Handle} {stream : Bytes}

/-- What is set is what the message of the request holds. -/
theorem setStreamMetadataCall_write {newV4 : Nat → Uuid} {name : NameArg}
    {options : AppendToStreamOptions} {state : StreamState} {m : StreamMetadata}
    {call : Proto.AppendCall} (hjson : json.Reads toVec) (hm : m.Plain)
    (h : setStreamMetadataCall toVec newV4 name (options.streamState state) m = .ok call) :
    ∃ msg, call.write = some ⟨name.intoMetadataStreamName, state, [msg]⟩ ∧
      IsMetadata json m.cut msg := by
  unfold setStreamMetadataCall at h
  split at h
  · cases h
  · next event hevent =>
    cases h
    rw [appendToStreamCall_write]
    unfold EventData.json at hevent
    obtain ⟨payload, hpayload, hevent⟩ := bind_eq_ok hevent
    cases hevent
    obtain ⟨order, horder⟩ := hjson m payload hpayload
    exact ⟨_, rfl, ⟨_, rfl⟩, _, horder, deserialize_serialized order hm⟩

theorem metadataOf_isMetadata {m : StreamMetadata} {msg : Proto.ProposedMessage}
    {event : ResolvedEvent} {e : RecordedEvent} (h : IsMetadata json m msg)
    (he : event.getOriginalEvent = .ret e) (hdata : e.data = msg.data) :
    metadataOf json (some event) = .ret (.ok (.success ⟨e.streamIdRaw, e.revision, m⟩)) := by
  obtain ⟨-, j, hj, hm⟩ := h
  have hparse : e.asMetadata json = .ok m := by
    unfold RecordedEvent.asMetadata
    rw [hdata, hj]
    simp only [hm]
  simp only [metadataOf, Call.expect, Call.ret_bind, he, hparse, Call.pure_eq]

theorem getStreamMetadata_failed {inner rest : Responses} {status : Status}
    (h : ReadStream.next crates ⟨handle.id, inner⟩ = .ret ⟨.error (Error.fromGrpc status),
      handleError handle.id (Error.fromGrpc status)⟩ () rest) :
    getStreamMetadata crates json (.ok handle) (.ok inner) =
      .ret (failedGet handle.id status) () rest := by
  simp only [getStreamMetadata, readStream, h, failedGet]
  cases Error.fromGrpc status <;> rfl

theorem getStreamMetadata_event {inner rest : Responses} {event : ResolvedEvent}
    {v : VersionedMetadata}
    (h : ReadStream.next crates ⟨handle.id, inner⟩ = .ret ⟨.ok (some event), none⟩ () rest)
    (hv : metadataOf json (some event) = .ret (.ok (.success v))) :
    getStreamMetadata crates json (.ok handle) (.ok inner) =
      .ret ⟨.ok (.success v), none⟩ () rest := by
  simp only [getStreamMetadata, readStream, h, hv]

/-- **Getting metadata**: of a stream that holds metadata, the first that the read finds comes
back under its number. -/
theorem metadataGot {metas : List StreamMetadata} {msgs : List Proto.ProposedMessage}
    {name : NameArg} {options : ReadStreamOptions} {gone : Nat} {inner : Responses}
    (hmetas : List.Forall₂ (IsMetadata json) metas msgs)
    (hanswer : Answered crates stream (getStreamMetadataCall name options) (keptFrom gone msgs)
      inner) :
    MetadataGot handle.id stream (keptFrom gone metas) (options.finds (keptFrom gone metas))
      (getStreamMetadata crates json (.ok handle) (.ok inner)) := by
  have hkept := keptFrom_rel hmetas gone
  have hfound := finds_rel options hkept
  generalize keptFrom gone metas = kept at hkept hfound ⊢
  generalize keptFrom gone msgs = keptMsgs at hkept hfound hanswer
  cases hanswer with
  | silent => exact .waits
  | fails _ status =>
    rw [getStreamMetadata_failed rfl]
    exact .failed status
  | notFound rest =>
    obtain rfl := List.forall₂_nil_right_iff.mp hkept
    exact .notFound rfl
  | found hne hsends =>
    rw [getStreamMetadataCall_finds] at hsends
    have hids : ∀ e ∈ options.finds keptMsgs, ∃ newId, e.1.id = some (.from newId) := by
      intro e he
      obtain ⟨m, -, hm⟩ := exists_of_mem_right hfound he
      exact hm.1.1
    have hfirst : FirstRead handle.id stream _ (ReadStream.next crates ⟨handle.id, inner⟩) :=
      firstRead_of_sends hsends hids
    generalize hr : ReadStream.next crates ⟨handle.id, inner⟩ = r at hfirst
    generalize options.finds kept = found at hfound ⊢
    generalize options.finds keptMsgs = foundMsgs at hfound hfirst
    cases hfirst with
    | waits =>
      have hget : getStreamMetadata crates json (.ok handle) (.ok inner) = .waits := by
        simp only [getStreamMetadata, readStream, hr]
      rw [hget]
      exact .waits
    | failed status =>
      rw [getStreamMetadata_failed hr]
      exact .failed status
    | finished =>
      obtain rfl := List.forall₂_nil_right_iff.mp hfound
      have hget : getStreamMetadata crates json (.ok handle) (.ok inner) =
          .panic "to be defined" := by
        simp only [getStreamMetadata, readStream, hr]
        rfl
      rw [hget]
      refine .nothing (fun hnil => hne ?_) rfl
      subst hnil
      exact List.forall₂_nil_left_iff.mp hkept
    | event he hdata hn hraw =>
      obtain ⟨⟨m, n⟩, found, ⟨hm, hmn⟩, -, rfl⟩ := List.forall₂_cons_right_iff.mp hfound
      have hget := metadataOf_isMetadata hm he hdata
      rw [hraw] at hget
      rw [getStreamMetadata_event hr hget]
      exact .success (congrArg (fun k => some (m, k)) (hmn.trans hn.symm))

end

/-! ## Any number of calls -/

/-- What a request does to the metadata stream: metadata that are set under an expectation, or
nothing, as it is for another stream. -/
inductive SetBy (toVec : StreamMetadata → Except String Bytes) (stream : Bytes) :
    Option (StreamState × StreamMetadata) → WriteReq → Prop where
  | set {newV4 : Nat → Uuid} {name : NameArg} {options : AppendToStreamOptions}
      {state : StreamState} {m : StreamMetadata} {call : Proto.AppendCall} {req : WriteReq} :
    name.intoMetadataStreamName = stream → m.Plain →
      setStreamMetadataCall toVec newV4 name (options.streamState state) m = .ok call →
      call.write = some req → SetBy toVec stream (some (state, m)) req
  | other {req : WriteReq} : req.stream ≠ stream → SetBy toVec stream none req

/-- The metadata of the stream after that. -/
def setMetadata (metas : List StreamMetadata) :
    Option (StreamState × StreamMetadata) → List StreamMetadata
  | some (state, m) => (write state.expect [m.cut] metas).getD metas
  | none => metas

section

variable {crates : Crates} {json : JsonText} {toVec : StreamMetadata → Except String Bytes}
  {stream : Bytes} {stored : Stored} {metas : List StreamMetadata}

/-- The server takes metadata as their writer would. -/
theorem serve_isMetadata {state : StreamState} {m : StreamMetadata} {msg : Proto.ProposedMessage}
    (hmsg : IsMetadata json m msg) (h : List.Forall₂ (IsMetadata json) metas (stored stream)) :
    List.Forall₂ (IsMetadata json) ((write state.expect [m] metas).getD metas)
      (stored.serve ⟨stream, state, [msg]⟩ stream) := by
  have hmet : state.expect.met (stored stream) = state.expect.met metas :=
    met_of_length h.length_eq.symm
  unfold Stored.serve
  rw [writeAt_self]
  unfold write
  rw [hmet]
  split
  · exact List.rel_append h (.cons hmsg .nil)
  · exact h

theorem serve_all_set {sets : List (Option (StreamState × StreamMetadata))} {reqs : List WriteReq}
    (hjson : json.Reads toVec) (hsets : List.Forall₂ (SetBy toVec stream) sets reqs)
    (h : List.Forall₂ (IsMetadata json) metas (stored stream)) :
    List.Forall₂ (IsMetadata json) (sets.foldl setMetadata metas)
      (reqs.foldl Stored.serve stored stream) := by
  induction hsets generalizing metas stored with
  | nil => exact h
  | cons hset _ ih =>
    refine ih ?_
    cases hset with
    | set hname hm hcall hwrite =>
      obtain ⟨msg, hreq, hmsg⟩ := setStreamMetadataCall_write hjson hm hcall
      rw [hwrite, hname] at hreq
      cases hreq
      exact serve_isMetadata hmsg h
    | other hne =>
      rw [Stored.serve, writeAt_of_ne hne.symm]
      exact h

end

/-- **Set, then got**: whatever metadata callers set for a stream, under whatever expectations
and whatever they write elsewhere, `get_stream_metadata` gives the first of those that were
taken that a read under its options finds, as it was set but for the parts of a duration that
JSON does not hold, and under its number: the last one, if it is asked to start at the end. It
says that there are none if the server has none, fails as the read fails, and panics if there
are some and the options name none of them. -/
theorem metadata_set_then_got {crates : Crates} {json : JsonText}
    {toVec : StreamMetadata → Except String Bytes} {name : NameArg} {options : ReadStreamOptions}
    {handle : Handle} {sets : List (Option (StreamState × StreamMetadata))} {reqs : List WriteReq}
    {gone : Nat} {inner : Responses} (hjson : json.Reads toVec)
    (hsets : List.Forall₂ (SetBy toVec name.intoMetadataStreamName) sets reqs)
    (hanswer : Answered crates name.intoMetadataStreamName (getStreamMetadataCall name options)
      (keptFrom gone (reqs.foldl Stored.serve (fun _ => []) name.intoMetadataStreamName)) inner) :
    let metas := sets.foldl setMetadata []
    let kept := keptFrom gone metas
    MetadataGot handle.id name.intoMetadataStreamName kept (options.finds kept)
      (getStreamMetadata crates json (.ok handle) (.ok inner)) ∧
    ∀ o : ReadStreamOptions, options = o.withPosition .end → o.maxCount ≠ 0 → kept ≠ [] →
      (options.finds kept).head? = metas.getLast?.map fun m => (m, metas.length - 1) := by
  refine ⟨metadataGot (serve_all_set hjson hsets .nil) hanswer, ?_⟩
  rintro o rfl hcount hkept
  exact finds_end hcount hkept

/-- Metadata with a maximal count of five, and a serializer for just these. -/
def five : StreamMetadata := { maxCount := some 5 }

def fiveText : Bytes := Kurrent.utf8 "\x7b\"$maxCount\":5\x7d"

def fiveToVec (m : StreamMetadata) : Except String Bytes :=
  if m.maxCount = some 5 ∧ m.maxAge = none ∧ m.truncateBefore = none ∧ m.cacheControl = none ∧
      m.acl = none ∧ m.customProperties.entries.card = 0 then .ok fiveText
  else .error "not supported"

def fiveJson : JsonText where
  parse bytes := if bytes = fiveText then .ok (.object [("$maxCount", Json.ofUInt64 5)])
    else .error "expected value"
  display _ := ""

theorem fiveJson_reads : fiveJson.Reads fiveToVec := by
  rintro ⟨maxCount, maxAge, truncateBefore, cacheControl, acl, properties⟩ bytes h
  unfold fiveToVec at h
  split at h
  · next hm =>
    obtain ⟨rfl, rfl, rfl, rfl, rfl, hcard⟩ := hm
    obtain rfl : properties = ∅ := Finmap.ext (Multiset.card_eq_zero.mp hcard)
    cases h
    have hparse : fiveJson.parse fiveText = .ok (.object [("$maxCount", Json.ofUInt64 5)]) := by
      simp only [fiveJson, if_true]
    exact ⟨⟨∅, rfl⟩, hparse⟩
  · cases h

theorem five_plain : five.Plain := fun _ hk => absurd hk Finmap.notMem_empty

def fiveMessage : Proto.ProposedMessage :=
  ⟨some (.from 7), [("content-type", "application/json"), ("type", "$metadata")], [], fiveText⟩

def fiveServed : Responses :=
  .msg ⟨some (.event ⟨some ⟨some (.from 7), some (Kurrent.utf8 "$$orders"), 0, 0, 0,
    fiveMessage.metadata, [], fiveText⟩, none, none⟩)⟩ .close

theorem fiveCall (state : StreamState) : ∃ call,
    setStreamMetadataCall fiveToVec (fun _ => 7) (.str "orders")
      (AppendToStreamOptions.streamState {} state) five = .ok call ∧
    call.write = some ⟨Kurrent.utf8 "$$orders", state, [fiveMessage]⟩ := by
  have htext : EventData.json fiveToVec "$metadata" five = .ok ⟨fiveText, none,
      [("content-type", "application/json"), ("type", "$metadata")], none⟩ := by
    unfold EventData.json
    rw [show fiveToVec five = .ok fiveText from if_pos ⟨rfl, rfl, rfl, rfl, rfl, rfl⟩]
    rfl
  unfold setStreamMetadataCall
  rw [htext]
  refine ⟨_, rfl, ?_⟩
  rw [appendToStreamCall_write]
  rfl

/-- Metadata that were set for `orders`, read from the end. -/
theorem metadata_set_then_got_orders :
    MetadataGot batchHandle.id (Kurrent.utf8 "$$orders") [(five, 0)] [(five, 0)]
      (getStreamMetadata soloCrates fiveJson (.ok batchHandle) (.ok fiveServed)) := by
  obtain ⟨call, hcall, hwrite⟩ := fiveCall .any
  have hset : SetBy fiveToVec (NameArg.str "orders").intoMetadataStreamName
      (some (.any, five)) ⟨Kurrent.utf8 "$$orders", .any, [fiveMessage]⟩ :=
    .set rfl five_plain hcall hwrite
  have hecho : fiveMessage.EchoedBy soloCrates ⟨some (.from 7), some (Kurrent.utf8 "$$orders"),
      0, 0, 0, fiveMessage.metadata, [], fiveText⟩ :=
    ⟨⟨_, _, rfl, rfl, .inl rfl⟩, rfl, fun _ _ h => h, rfl, rfl⟩
  have hkept : keptFrom 0 ([⟨Kurrent.utf8 "$$orders", .any, [fiveMessage]⟩].foldl Stored.serve
      (fun _ => []) (Kurrent.utf8 "$$orders")) = [(fiveMessage, 0)] := by
    rw [List.foldl_cons, List.foldl_nil, Stored.serve, writeAt_self]
    rfl
  have hanswer : Answered soloCrates (NameArg.str "orders").intoMetadataStreamName
      (getStreamMetadataCall (.str "orders") (ReadStreamOptions.withPosition {} .end))
      (keptFrom 0 ([⟨Kurrent.utf8 "$$orders", .any, [fiveMessage]⟩].foldl Stored.serve
        (fun _ => []) (NameArg.str "orders").intoMetadataStreamName)) fiveServed := by
    have hname : (NameArg.str "orders").intoMetadataStreamName = Kurrent.utf8 "$$orders" := rfl
    rw [hname, hkept]
    exact .found (List.cons_ne_nil _ _) (.event none hecho rfl rfl .finished)
  exact (metadata_set_then_got fiveJson_reads (.cons hset .nil) hanswer).1

/-! ## Callers that change metadata -/

/-- What a caller may go on from: the metadata it got, or that there are none. -/
def StreamMetadataResult.base : StreamMetadataResult → Option (Option VersionedMetadata)
  | .success v => some (some v)
  | .notFound => some none
  | .deleted => none

/-- The state a caller expects that goes on from this. -/
def guardOf : Option VersionedMetadata → StreamState
  | some v => .streamRevision v.version
  | none => .noStream

structure Editors (ι : Type) where
  stored : Stored
  /-- what each caller got last -/
  held : ι → Option (Option VersionedMetadata) := fun _ => none
  /-- the changes whose call returned a result, in their order -/
  applied : List (Edit StreamMetadata) := []

namespace Editors

variable {ι : Type}

inductive Move (ι : Type) where
  | get (i : ι) (name : NameArg) (options : ReadStreamOptions) (handle : Handle)
    (inner : Responses)
  | set (i : ι) (name : NameArg) (newV4 : Nat → Uuid) (handle : Handle)
    (position : Proto.PositionOption) (change : Edit StreamMetadata)
  /-- any other write that reaches the server -/
  | other (req : WriteReq)

/-- A caller gets metadata; or it sets what it makes of those it got, under their version. -/
def step [DecidableEq ι] (crates : Crates) (json : JsonText)
    (toVec : StreamMetadata → Except String Bytes) (s : Editors ι) : Move ι → Option (Editors ι)
  | .get i _ _ handle inner =>
    match getStreamMetadata crates json (.ok handle) (.ok inner) with
    | .ret ⟨.ok result, _⟩ _ _ =>
      match result.base with
      | some base => some { s with held := Function.update s.held i (some base) }
      | none => some s
    | _ => some s
  | .set i name newV4 handle position change => do
    let base ← s.held i
    match setStreamMetadataCall toVec newV4 name
        (AppendToStreamOptions.streamState {} (guardOf base)) (change (base.map (·.metadata))) with
    | .error _ => some s
    | .ok call =>
      let req ← call.write
      let s' := { s with stored := s.stored.serve req }
      match appendToStreamResult (.ok handle) (.ok (s.stored.appendResp position req)) with
      | .ret ⟨.ok _, _⟩ => some { s' with applied := s.applied ++ [change] }
      | _ => some s'
  | .other req => some { s with stored := s.stored.serve req }

/-- The server answers reads of the stream `stream` from what it has; callers change the
metadata of this stream, and nobody else writes to it. -/
def Allowed (crates : Crates) (stream : Bytes) (s : Editors ι) : Move ι → Prop
  | .get _ name options _ inner => name.intoMetadataStreamName = stream ∧
    ∃ gone, Answered crates stream (getStreamMetadataCall name options)
      (keptFrom gone (s.stored stream)) inner
  | .set _ name _ _ _ change => name.intoMetadataStreamName = stream ∧ ∀ o, (change o).Plain
  | .other req => req.stream ≠ stream

end Editors

namespace Editors

variable {ι : Type} [DecidableEq ι] {crates : Crates} {json : JsonText}
  {toVec : StreamMetadata → Except String Bytes} {stream : Bytes}

end Editors

end Kurrent
