import Kurrent.Persistent.Info

/-!
# Selectors and what they cannot take

A selector is chosen by the function the user calls, the kind of a start position by what
the server sends: by its text over gRPC, over HTTP by the stream the payload names and the
one of two fields that goes with it. Where the two do not agree the selector ends in an
`unreachable!()`. The name of a regular stream has no part in it.
-/

namespace Kurrent

open Lib

/-- The three selectors; a regular stream has the name the user gave. -/
inductive Selector where
  | regularStream (name : String)
  | allStream
  | bothTypeOfStream
  deriving DecidableEq, Repr

namespace Selector

def Value : Selector → Type
  | regularStream _ => UInt64
  | allStream => Position
  | bothTypeOfStream => RevisionOrPosition

def select : (s : Selector) → RevisionOrPosition → Call s.Value
  | regularStream _ => RegularStream.select
  | allStream => AllStream.select
  | bothTypeOfStream => BothTypeOfStream.select

/-- A regular stream is read from a revision, `$all` from a position. -/
def fits : Selector → RevisionOrPosition → Bool
  | regularStream _, .revision _ => true
  | allStream, .position _ => true
  | bothTypeOfStream, _ => true
  | _, _ => false

/-- The kind of a start position fits; the start and the end have none. -/
def Takes (s : Selector) : StreamPosition RevisionOrPosition → Prop
  | .position v => s.fits v = true
  | _ => True

end Selector

/-- The answer of the server to a request for one subscription. -/
def getPersistentSubscriptionInfo (s : Selector) (resp : Option Proto.SubscriptionInfo) :
    Call (Except Error (PersistentSubscriptionInfo s.Value)) :=
  match resp with
  | some info => decodeGrpc s.select info
  | none => .ret (.error .resourceNotFound)

/-- The loop over a list of them: the first that does not convert ends it. -/
def listPersistentSubscriptions (s : Selector) :
    List Proto.SubscriptionInfo → Call (Except Error (List (PersistentSubscriptionInfo s.Value)))
  | [] => .ret (.ok [])
  | info :: rest => do
    match ← decodeGrpc s.select info with
    | .error e => return .error e
    | .ok sub =>
      match ← listPersistentSubscriptions s rest with
      | .error e => return .error e
      | .ok infos => return .ok (sub :: infos)

/-! ## One position -/

section

variable {s : Selector}

theorem Selector.select_of_fits {v : RevisionOrPosition} (h : s.fits v = true) :
    ∃ a, s.select v = .ret a := by
  cases s with
  | regularStream name =>
    cases v with
    | revision rev => exact ⟨rev, rfl⟩
    | position pos => cases h
  | allStream =>
    cases v with
    | revision rev => cases h
    | position pos => exact ⟨pos, rfl⟩
  | bothTypeOfStream => exact ⟨v, rfl⟩

theorem Selector.select_of_not_fits {v : RevisionOrPosition} (h : s.fits v = false) :
    s.select v = .panic unreachable := by
  cases s with
  | regularStream name =>
    cases v with
    | revision rev => cases h
    | position pos => rfl
  | allStream =>
    cases v with
    | revision rev => rfl
    | position pos => cases h
  | bothTypeOfStream => cases h

theorem StreamPosition.map_of_takes {p : StreamPosition RevisionOrPosition} (h : s.Takes p) :
    ∃ q, p.map s.select = .ret q := by
  cases p with
  | start => exact ⟨_, rfl⟩
  | «end» => exact ⟨_, rfl⟩
  | position v =>
    obtain ⟨a, ha⟩ := Selector.select_of_fits h
    exact ⟨.position a, by rw [StreamPosition.map, ha]; rfl⟩

theorem StreamPosition.map_of_not_takes {p : StreamPosition RevisionOrPosition}
    (h : ¬ s.Takes p) : p.map s.select = .panic unreachable := by
  cases p with
  | start => exact absurd trivial h
  | «end» => exact absurd trivial h
  | position v =>
    have hv : s.fits v = false := Bool.eq_false_iff.mpr h
    rw [StreamPosition.map, Selector.select_of_not_fits hv]
    rfl

end

/-! ## What is decoded -/

/-- The start position of a message, where its text stands for one. -/
def Proto.SubscriptionInfo.start (value : Proto.SubscriptionInfo) :
    Option (StreamPosition RevisionOrPosition) :=
  (parseStreamPosition value.startFrom).toOption

/-- The start position of a payload: for `$all` its text, where that stands for one, else the
number or text of the other field. -/
def PersistentSubscriptionInfoHttpJson.start (info : PersistentSubscriptionInfoHttpJson) :
    Option (StreamPosition RevisionOrPosition) :=
  info.config.bind fun c =>
    if info.eventStreamId = "$all" then (parseStreamPosition c.startPosition).toOption
    else some c.startFrom

/-- Every text of a payload that is read stands for what it is read as. -/
def PersistentSubscriptionInfoHttpJson.Readable (info : PersistentSubscriptionInfoHttpJson) : Prop :=
  (∀ c, info.config = some c → info.eventStreamId = "$all" →
    ∃ p, parseStreamPosition c.startPosition = .ok p) ∧
  ∃ stats, httpStats info = .ok stats

/-- A start position of the wrong kind is an error, of the right kind it is decoded; nothing
panics. `readable` says that the texts around it can be read. -/
structure DecodesByKind {A : Type} (s : Selector) (start : Option (StreamPosition RevisionOrPosition))
    (readable : Prop) (result : Call (Except Error A)) : Prop where
  returns : ∃ r, result = .ret r
  mismatch : ∀ p, start = some p → ¬ s.Takes p → ∃ e, result = .ret (.error e)
  fitting : readable → (∀ p, start = some p → s.Takes p) → ∃ a, result = .ret (.ok a)

section

variable {s : Selector} {A : Type} {start : Option (StreamPosition RevisionOrPosition)}
  {readable : Prop} {result : Call (Except Error A)}

/-- A decoder that panics on every position of the wrong kind, and only there. -/
theorem decodesByKind_iff
    (hpanic : ∀ p, start = some p → ¬ s.Takes p → result = .panic unreachable)
    (hret : (∀ p, start = some p → s.Takes p) →
      ∃ r, result = .ret r ∧ (readable → ∃ a, r = .ok a)) :
    DecodesByKind s start readable result ↔ ∀ p, start = some p → s.Takes p := by
  constructor
  · intro h p hp
    by_contra hn
    obtain ⟨r, hr⟩ := h.returns
    rw [hpanic p hp hn] at hr
    cases hr
  · intro h
    obtain ⟨r, hr, hok⟩ := hret h
    refine ⟨⟨r, hr⟩, fun p hp hn => absurd (h p hp) hn, fun hread _ => ?_⟩
    obtain ⟨a, rfl⟩ := hok hread
    exact ⟨a, hr⟩

end

section

variable {s : Selector} {value : Proto.SubscriptionInfo} {info : PersistentSubscriptionInfoHttpJson}

/-! ## Over gRPC -/

/-- The conversion fails with the start position and nothing else. -/
theorem tryFrom_error {e : Error} (hp : parseStreamPosition value.startFrom = .error e) :
    PersistentSubscriptionInfo.tryFrom value = .error e := by
  unfold PersistentSubscriptionInfo.tryFrom
  rw [hp]
  rfl

theorem tryFrom_ok {p : StreamPosition RevisionOrPosition}
    (hp : parseStreamPosition value.startFrom = .ok p) :
    ∃ sub setts, PersistentSubscriptionInfo.tryFrom value = .ok sub ∧
      sub.settings = some setts ∧ setts.startFrom = p := by
  unfold PersistentSubscriptionInfo.tryFrom
  rw [hp]
  exact ⟨_, _, rfl, rfl, rfl⟩

/-- Decoding goes as the start position goes. -/
theorem decodeGrpc_eq {B : Type} (select : RevisionOrPosition → Call B)
    {p : StreamPosition RevisionOrPosition} (hp : parseStreamPosition value.startFrom = .ok p) :
    (∀ q, p.map select = .ret q → ∃ sub, decodeGrpc select value = .ret (.ok sub)) ∧
    ∀ m, p.map select = .panic m → decodeGrpc select value = .panic m := by
  obtain ⟨sub, setts, hsub, hsetts, hstart⟩ := tryFrom_ok hp
  unfold decodeGrpc
  rw [hsub]
  simp only [PersistentSubscriptionInfo.map, hsetts, PersistentSubscriptionSettings.map, hstart]
  refine ⟨fun q hq => ?_, fun m hm => ?_⟩
  · rw [hq]
    exact ⟨_, rfl⟩
  · rw [hm]
    rfl

theorem decodeGrpc_unreadable {B : Type} (select : RevisionOrPosition → Call B)
    (hp : value.start = none) : ∃ e, decodeGrpc select value = .ret (.error e) := by
  unfold Proto.SubscriptionInfo.start at hp
  cases hv : parseStreamPosition value.startFrom with
  | error e => exact ⟨e, by unfold decodeGrpc; rw [tryFrom_error hv]⟩
  | ok p => rw [hv] at hp; cases hp

theorem start_eq_some {p : StreamPosition RevisionOrPosition} (h : value.start = some p) :
    parseStreamPosition value.startFrom = .ok p := by
  unfold Proto.SubscriptionInfo.start at h
  cases hp : parseStreamPosition value.startFrom with
  | error e => rw [hp] at h; cases h
  | ok q => rw [hp] at h; cases h; rfl

theorem decodeGrpc_panic {p : StreamPosition RevisionOrPosition} (hp : value.start = some p)
    (hn : ¬ s.Takes p) : decodeGrpc s.select value = .panic unreachable :=
  (decodeGrpc_eq s.select (start_eq_some hp)).2 _ (StreamPosition.map_of_not_takes hn)

theorem decodeGrpc_ret (h : ∀ p, value.start = some p → s.Takes p) :
    ∃ r, decodeGrpc s.select value = .ret r ∧ (value.start.isSome = true → ∃ sub, r = .ok sub) := by
  cases hp : value.start with
  | none =>
    obtain ⟨e, he⟩ := decodeGrpc_unreadable s.select hp
    exact ⟨_, he, fun h => by cases h⟩
  | some p =>
    obtain ⟨q, hq⟩ := StreamPosition.map_of_takes (h p hp)
    obtain ⟨sub, hsub⟩ := (decodeGrpc_eq s.select (start_eq_some hp)).1 q hq
    exact ⟨_, hsub, fun _ => ⟨sub, rfl⟩⟩

/-! ## Over HTTP -/

theorem httpStartFrom_panic {c : PersistentSubscriptionConfig} (hc : info.config = some c)
    {p : StreamPosition RevisionOrPosition} (hp : info.start = some p) (hn : ¬ s.Takes p) :
    httpStartFrom s.select info.eventStreamId c = .panic unreachable := by
  unfold PersistentSubscriptionInfoHttpJson.start at hp
  rw [hc, Option.bind_some] at hp
  unfold httpStartFrom
  split at hp
  next hall =>
    rw [if_pos hall]
    cases hq : parseStreamPosition c.startPosition with
    | error e => rw [hq] at hp; cases hp
    | ok q =>
      rw [hq] at hp
      cases hp
      simp only [StreamPosition.map_of_not_takes hn]
      rfl
  next hall =>
    cases hp
    rw [if_neg hall, StreamPosition.map_of_not_takes hn]
    rfl

theorem httpStartFrom_ret {c : PersistentSubscriptionConfig} (hc : info.config = some c)
    (h : ∀ p, info.start = some p → s.Takes p) :
    ∃ r, httpStartFrom s.select info.eventStreamId c = .ret r ∧
      (info.Readable → ∃ q, r = .ok q) := by
  unfold PersistentSubscriptionInfoHttpJson.start at h
  rw [hc, Option.bind_some] at h
  unfold httpStartFrom
  by_cases hall : info.eventStreamId = "$all"
  · rw [if_pos hall]
    rw [if_pos hall] at h
    cases hq : parseStreamPosition c.startPosition with
    | error e =>
      refine ⟨_, rfl, fun hread => ?_⟩
      obtain ⟨p, hp⟩ := hread.1 c hc hall
      rw [hq] at hp
      cases hp
    | ok q =>
      obtain ⟨q', hq'⟩ := StreamPosition.map_of_takes (h q (by rw [hq]; rfl))
      simp only [hq']
      exact ⟨_, rfl, fun _ => ⟨q', rfl⟩⟩
  · rw [if_neg hall]
    rw [if_neg hall] at h
    obtain ⟨q', hq'⟩ := StreamPosition.map_of_takes (h _ rfl)
    rw [hq']
    exact ⟨_, rfl, fun _ => ⟨q', rfl⟩⟩

/-- The configuration is decoded before the statistics, so nothing saves it. -/
theorem fromHttpInfo_panic {p : StreamPosition RevisionOrPosition} (hp : info.start = some p)
    (hn : ¬ s.Takes p) : fromHttpInfo s.select info = .panic unreachable := by
  cases hc : info.config with
  | none => rw [PersistentSubscriptionInfoHttpJson.start, hc] at hp; cases hp
  | some c =>
    unfold fromHttpInfo
    rw [hc, httpConfig, httpSettings, httpStartFrom_panic hc hp hn]
    rfl

theorem httpConfig_ret (h : ∀ p, info.start = some p → s.Takes p) :
    ∃ r, httpConfig s.select info.eventStreamId info.config = .ret r ∧
      (info.Readable → ∃ setts, r = .ok setts) := by
  cases hc : info.config with
  | none => exact ⟨_, rfl, fun _ => ⟨none, rfl⟩⟩
  | some c =>
    obtain ⟨r, hr, hok⟩ := httpStartFrom_ret hc h
    unfold httpConfig httpSettings
    simp only [hr, Call.ret_bind]
    cases r with
    | error e =>
      refine ⟨_, rfl, fun hread => ?_⟩
      obtain ⟨q, hq⟩ := hok hread
      cases hq
    | ok q => exact ⟨_, rfl, fun _ => ⟨_, rfl⟩⟩

theorem fromHttpInfo_ret (h : ∀ p, info.start = some p → s.Takes p) :
    ∃ r, fromHttpInfo s.select info = .ret r ∧ (info.Readable → ∃ sub, r = .ok sub) := by
  obtain ⟨r, hr, hok⟩ := httpConfig_ret h
  unfold fromHttpInfo
  simp only [hr, Call.ret_bind]
  cases r with
  | error e =>
    refine ⟨_, rfl, fun hread => ?_⟩
    obtain ⟨setts, hs⟩ := hok hread
    cases hs
  | ok setts =>
    cases hst : httpStats info with
    | error e =>
      refine ⟨_, rfl, fun hread => ?_⟩
      obtain ⟨stats, hs⟩ := hread.2
      rw [hst] at hs
      cases hs
    | ok stats => exact ⟨_, rfl, fun _ => ⟨_, rfl⟩⟩

/-! ## The calls over gRPC -/

theorem decodeGrpc_returns_iff :
    (∃ r, decodeGrpc s.select value = .ret r) ↔ ∀ p, value.start = some p → s.Takes p := by
  constructor
  · rintro ⟨r, hr⟩ p hp
    by_contra hn
    rw [decodeGrpc_panic hp hn] at hr
    cases hr
  · intro h
    obtain ⟨r, hr, -⟩ := decodeGrpc_ret h
    exact ⟨r, hr⟩

/-- A list is read up to the first message whose start position is none, so what comes
behind that one does no harm. -/
theorem listPersistentSubscriptions_returns_iff (values : List Proto.SubscriptionInfo) :
    (∃ r, listPersistentSubscriptions s values = .ret r) ↔
      ∀ value ∈ values.takeWhile fun v => v.start.isSome,
        ∀ p, value.start = some p → s.Takes p := by
  induction values with
  | nil => simp [listPersistentSubscriptions]
  | cons value values ih =>
    rw [listPersistentSubscriptions]
    cases hp : value.start with
    | none =>
      obtain ⟨e, he⟩ := decodeGrpc_unreadable s.select hp
      rw [he, List.takeWhile_cons_of_neg (by rw [hp]; simp)]
      exact ⟨fun _ _ h => (by cases h), fun _ => ⟨_, rfl⟩⟩
    | some p =>
      rw [List.takeWhile_cons_of_pos (by rw [hp]; rfl), List.forall_mem_cons]
      by_cases hs : s.Takes p
      · obtain ⟨q, hq⟩ := StreamPosition.map_of_takes hs
        obtain ⟨sub, hsub⟩ := (decodeGrpc_eq s.select (start_eq_some hp)).1 q hq
        have hfirst : ∀ p, value.start = some p → s.Takes p := by
          intro p' hp'
          rw [hp] at hp'
          cases hp'
          exact hs
        rw [hsub, ← ih]
        simp only [Call.ret_bind]
        constructor
        · rintro ⟨r, hr⟩
          obtain ⟨r', hr', -⟩ := Call.bind_eq_ret hr
          exact ⟨hfirst, r', hr'⟩
        · rintro ⟨-, r, hr⟩
          rw [hr]
          cases r with
          | error e => exact ⟨_, rfl⟩
          | ok infos => exact ⟨_, rfl⟩
      · rw [decodeGrpc_panic hp hs]
        constructor
        · rintro ⟨r, hr⟩
          cases hr
        · rintro ⟨hfirst, -⟩
          exact absurd (hfirst p hp) hs

theorem getPersistentSubscriptionInfo_returns_iff (resp : Option Proto.SubscriptionInfo) :
    (∃ r, getPersistentSubscriptionInfo s resp = .ret r) ↔
      ∀ value ∈ resp, ∀ p, value.start = some p → s.Takes p := by
  cases resp with
  | none => exact ⟨fun _ _ h => (by cases h), fun _ => ⟨_, rfl⟩⟩
  | some value =>
    have hget := @decodeGrpc_returns_iff s value
    simpa [getPersistentSubscriptionInfo] using hget

end

/-! ## Both ways -/

/-- **Decoding is safe where the kinds agree.** On either way, a start position of a kind the
selector cannot take ends in a panic, and only that does: the decoders keep to the kinds of
positions exactly for payloads whose start position the selector takes. -/
theorem decoding_by_kind_iff (s : Selector) (value : Proto.SubscriptionInfo)
    (info : PersistentSubscriptionInfoHttpJson) :
    (DecodesByKind s value.start (value.start.isSome = true) (decodeGrpc s.select value) ↔
      ∀ p, value.start = some p → s.Takes p) ∧
    (DecodesByKind s info.start info.Readable (fromHttpInfo s.select info) ↔
      ∀ p, info.start = some p → s.Takes p) :=
  ⟨decodesByKind_iff (fun _ => decodeGrpc_panic) decodeGrpc_ret,
    decodesByKind_iff (fun _ => fromHttpInfo_panic) fromHttpInfo_ret⟩

/-- A group of `$all` that starts at a position, as a message. -/
def allMessage : Proto.SubscriptionInfo where
  eventSource := "$all"
  groupName := "group"
  status := "Live"
  connections := []
  averagePerSecond := 0
  totalItems := 0
  countSinceLastMeasurement := 0
  lastCheckpointedEventPosition := ""
  lastKnownEventPosition := ""
  resolveLinkTos := false
  startFrom := "C:10/P:10"
  messageTimeoutMilliseconds := 30000
  extraStatistics := false
  maxRetryCount := 10
  liveBufferSize := 500
  bufferSize := 500
  readBatchSize := 20
  checkPointAfterMilliseconds := 2000
  minCheckPointCount := 10
  maxCheckPointCount := 1000
  readBufferCount := 0
  liveBufferCount := 0
  retryBufferCount := 0
  totalInFlightMessages := 0
  outstandingMessagesCount := 0
  namedConsumerStrategy := "RoundRobin"
  maxSubscriberCount := 0
  parkedMessageCount := 0

/-- The same group over HTTP. -/
def allPayload : PersistentSubscriptionInfoHttpJson where
  eventStreamId := "$all"
  groupName := "group"
  status := "Live"
  averageItemsPerSecond := 0
  totalItemsProcessed := 0
  lastProcessedEventNumber := 0
  lastCheckpointedEventPosition := none
  lastKnownEventPosition := none
  lastKnownEventNumber := 0
  connectionCount := 0
  totalInFlightMessages := 0
  config := some {
    resolveLinktos := false
    startFrom := .start
    startPosition := "C:10/P:10"
    messageTimeoutMilliseconds := 30000
    extraStatistics := false
    maxRetryCount := 10
    liveBufferSize := 500
    bufferSize := 500
    readBatchSize := 20
    preferRoundRobin := true
    checkpointAfterMilliseconds := 2000
    minCheckpointCount := 10
    maxCheckpointCount := 1000
    maxSubscriberCount := 0
    namedConsumerStrategy := .roundRobin }
  readBufferCount := 0
  liveBufferCount := 0
  retryBufferCount := 0
  outstandingMessagesCount := 0
  parkedMessageCount := 0
  countSinceLastMeasurement := 0
  connections := []

/-- Asked for as a regular stream, `$all` is read where a revision is expected. -/
theorem decoding_all_as_regular :
    decodeGrpc (Selector.regularStream "$all").select allMessage = .panic unreachable ∧
    fromHttpInfo (Selector.regularStream "$all").select allPayload = .panic unreachable ∧
    ¬ DecodesByKind (.regularStream "$all") allMessage.start (allMessage.start.isSome = true)
      (decodeGrpc (Selector.regularStream "$all").select allMessage) ∧
    ¬ DecodesByKind (.regularStream "$all") allPayload.start allPayload.Readable
      (fromHttpInfo (Selector.regularStream "$all").select allPayload) := by
  have hn : ¬ (Selector.regularStream "$all").Takes (.position (.position ⟨10, 10⟩)) := by
    intro h
    cases h
  have hmsg : decodeGrpc (Selector.regularStream "$all").select allMessage = .panic unreachable :=
    decodeGrpc_panic rfl hn
  have hinfo : fromHttpInfo (Selector.regularStream "$all").select allPayload =
      .panic unreachable := fromHttpInfo_panic rfl hn
  refine ⟨hmsg, hinfo, fun h => ?_, fun h => ?_⟩
  · obtain ⟨r, hr⟩ := h.returns
    rw [hmsg] at hr
    cases hr
  · obtain ⟨r, hr⟩ := h.returns
    rw [hinfo] at hr
    cases hr

end Kurrent
