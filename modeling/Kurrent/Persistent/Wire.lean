import Kurrent.Persistent.Selectors
import Kurrent.Streams.Event

/-!
# Settings on the wire

How the settings of a persistent subscription are written into a create and an update
request (`event_store/generated.rs`), with the two options beside them that are numbers:
the buffer of a subscriber and the limit of a replay (`commands.rs`). A duration goes as an
`i32` of milliseconds, the buffer as an `i32` and the limit as an `i64`, each cut to the
bits that fit. What the server tells of a group is read back through `tryFrom`.
-/

namespace Kurrent

open Lib

/-- `Display` for `SystemConsumerStrategy`. -/
def SystemConsumerStrategy.text : SystemConsumerStrategy → String
  | dispatchToSingle => "DispatchToSingle"
  | roundRobin => "RoundRobin"
  | pinned => "Pinned"
  | pinnedByCorrelation => "PinnedByCorrelation"
  | custom value => value

namespace PersistentSubscriptionSettings

variable {A : Type}

def namedConsumerStrategyAsI32 (s : PersistentSubscriptionSettings A) : Except Error Int32 :=
  match s.consumerStrategyName with
  | .dispatchToSingle => .ok 0
  | .roundRobin => .ok 1
  | .pinned => .ok 2
  | .custom _ | .pinnedByCorrelation => .error .unsupportedFeature

def default : PersistentSubscriptionSettings A where
  resolveLinkTos := false
  startFrom := .end
  extraStatistics := false
  messageTimeout := .fromSecs 30
  maxRetryCount := 10
  liveBufferSize := 500
  readBatchSize := 20
  historyBufferSize := 500
  checkpointAfter := .fromSecs 2
  checkpointLowerBound := 10
  checkpointUpperBound := 1000
  maxSubscriberCount := 0
  consumerStrategyName := .roundRobin

end PersistentSubscriptionSettings

/-! ## Messages -/

namespace Proto

inductive MessageTimeout where
  | messageTimeoutTicks (ticks : Int64)
  | messageTimeoutMs (ms : Int32)
  deriving DecidableEq, Repr

inductive CheckpointAfter where
  | checkpointAfterTicks (ticks : Int64)
  | checkpointAfterMs (ms : Int32)
  deriving DecidableEq, Repr

/-- `update_req::Settings` -/
structure UpdateSettings where
  resolveLinks : Bool
  revision : UInt64
  extraStatistics : Bool
  messageTimeout : Option MessageTimeout
  maxRetryCount : Int32
  checkpointAfter : Option CheckpointAfter
  minCheckpointCount : Int32
  maxCheckpointCount : Int32
  maxSubscriberCount : Int32
  liveBufferSize : Int32
  readBatchSize : Int32
  historyBufferSize : Int32
  namedConsumerStrategy : Int32
  deriving DecidableEq, Repr

/-- `create_req::Settings` -/
structure CreateSettings where
  resolveLinks : Bool
  revision : UInt64
  extraStatistics : Bool
  messageTimeout : Option MessageTimeout
  maxRetryCount : Int32
  checkpointAfter : Option CheckpointAfter
  minCheckpointCount : Int32
  maxCheckpointCount : Int32
  maxSubscriberCount : Int32
  liveBufferSize : Int32
  readBatchSize : Int32
  historyBufferSize : Int32
  namedConsumerStrategy : Int32
  consumerStrategy : String
  deriving DecidableEq, Repr

/-- The fields that an update has too. -/
def CreateSettings.shared (c : CreateSettings) : UpdateSettings where
  resolveLinks := c.resolveLinks
  revision := c.revision
  extraStatistics := c.extraStatistics
  messageTimeout := c.messageTimeout
  maxRetryCount := c.maxRetryCount
  checkpointAfter := c.checkpointAfter
  minCheckpointCount := c.minCheckpointCount
  maxCheckpointCount := c.maxCheckpointCount
  maxSubscriberCount := c.maxSubscriberCount
  liveBufferSize := c.liveBufferSize
  readBatchSize := c.readBatchSize
  historyBufferSize := c.historyBufferSize
  namedConsumerStrategy := c.namedConsumerStrategy

/-- `stream_options::RevisionOption`, of a create and of an update request. -/
inductive RevisionOption where
  | revision (rev : UInt64)
  | start
  | end
  deriving DecidableEq, Repr

/-- `all_options::AllOption`, of a create and of an update request. -/
inductive AllOption where
  | position (commitPosition preparePosition : UInt64)
  | start
  | end
  deriving DecidableEq, Repr

inductive StreamOption where
  | streamIdentifier (streamName : Bytes)
  | all
  deriving DecidableEq, Repr

/-- `read_req::options::uuid_option::Content` -/
inductive UuidContent where
  | structured
  | string
  deriving DecidableEq, Repr

/-- `read_req::Options` -/
structure ReadReqOptions where
  streamOption : Option StreamOption
  groupName : String
  bufferSize : Int32
  uuidOption : Option UuidContent
  deriving DecidableEq, Repr

inductive StopAtOption where
  | stopAt (limit : Int64)
  | noLimit
  deriving DecidableEq, Repr

/-- `replay_parked_req::Options` -/
structure ReplayParkedOptions where
  groupName : String
  streamOption : Option StreamOption
  stopAtOption : Option StopAtOption
  deriving DecidableEq, Repr

end Proto

/-! ## Encoders -/

section

variable {A : Type}

def Proto.CreateSettings.tryFrom (value : PersistentSubscriptionSettings A) :
    Except Error Proto.CreateSettings := do
  let namedConsumerStrategy ← value.namedConsumerStrategyAsI32
  let consumerStrategy := value.consumerStrategyName.text
  return {
    resolveLinks := value.resolveLinkTos
    revision := 0
    extraStatistics := value.extraStatistics
    messageTimeout := some (.messageTimeoutMs (Int32.ofNat value.messageTimeout.asMillis))
    maxRetryCount := value.maxRetryCount
    checkpointAfter := some (.checkpointAfterMs (Int32.ofNat value.checkpointAfter.asMillis))
    minCheckpointCount := value.checkpointLowerBound
    maxCheckpointCount := value.checkpointUpperBound
    maxSubscriberCount := value.maxSubscriberCount
    liveBufferSize := value.liveBufferSize
    readBatchSize := value.readBatchSize
    historyBufferSize := value.historyBufferSize
    namedConsumerStrategy
    consumerStrategy }

def Proto.UpdateSettings.tryFrom (value : PersistentSubscriptionSettings A) :
    Except Error Proto.UpdateSettings := do
  let namedConsumerStrategy ← value.namedConsumerStrategyAsI32
  return {
    resolveLinks := value.resolveLinkTos
    revision := 0
    extraStatistics := value.extraStatistics
    messageTimeout := some (.messageTimeoutMs (Int32.ofNat value.messageTimeout.asMillis))
    maxRetryCount := value.maxRetryCount
    checkpointAfter := some (.checkpointAfterMs (Int32.ofNat value.checkpointAfter.asMillis))
    minCheckpointCount := value.checkpointLowerBound
    maxCheckpointCount := value.checkpointUpperBound
    maxSubscriberCount := value.maxSubscriberCount
    liveBufferSize := value.liveBufferSize
    readBatchSize := value.readBatchSize
    historyBufferSize := value.historyBufferSize
    namedConsumerStrategy }

end

/-- The start of a group on a regular stream. -/
def revisionOption : StreamPosition UInt64 → Proto.RevisionOption
  | .start => .start
  | .end => .end
  | .position rev => .revision rev

/-- The start of a group on `$all`. -/
def allOption : StreamPosition Position → Proto.AllOption
  | .start => .start
  | .end => .end
  | .position pos => .position pos.commit pos.prepare

/-- The place a start stands for. -/
def Proto.RevisionOption.place : Proto.RevisionOption → StreamPosition UInt64
  | .start => .start
  | .end => .end
  | .revision rev => .position rev

def Proto.AllOption.place : Proto.AllOption → StreamPosition Position
  | .start => .start
  | .end => .end
  | .position commit prepare => .position ⟨commit, prepare⟩

/-- The request of `subscribe_to_persistent_subscription`. -/
def readReqOptions (streamId groupName : String) (toAll : Bool) (bufferSize : UInt64) :
    Proto.ReadReqOptions where
  streamOption := some (if toAll then .all else .streamIdentifier streamId.toUTF8.toList)
  groupName
  bufferSize := Int32.ofNat bufferSize.toNat
  uuidOption := some .string

/-- The request of `replay_parked_messages`. -/
def replayParkedOptions (streamName groupName : String) (isAll : Bool) (stopAt : Option UInt64) :
    Proto.ReplayParkedOptions where
  groupName
  streamOption := some (if isAll then .all else .streamIdentifier streamName.toUTF8.toList)
  stopAtOption := some
    (match stopAt with
    | some value => .stopAt (Int64.ofNat value.toNat)
    | none => .noLimit)

/-! ## Narrow numbers -/

theorem int32_ofNat_iff {n : Nat} : (Int32.ofNat n).toInt = n ↔ n < 2 ^ 31 := by
  constructor
  · intro h
    have := (Int32.ofNat n).toInt_lt
    omega
  · exact Int32.toInt_ofNat_of_lt

theorem int64_ofNat_iff {n : Nat} : (Int64.ofNat n).toInt = n ↔ n < 2 ^ 63 := by
  constructor
  · intro h
    have := (Int64.ofNat n).toInt_lt
    omega
  · exact Int64.toInt_ofNat_of_lt

/-- A number that fits an `i32` is widened to itself. -/
theorem asU64_ofNat {n : Nat} (h : n < 2 ^ 31) : (asU64 (Int32.ofNat n)).toNat = n := by
  have hv : (Int32.ofNat n).toInt64.toInt = n := by
    rw [Int32.toInt_toInt64, Int32.toInt_ofNat_of_lt h]
  have hle : 0 ≤ (Int32.ofNat n).toInt64 := by
    rw [Int64.le_iff_toInt_le, hv]
    simp
  unfold asU64
  rw [Int64.toNat_toUInt64_of_le hle, Int64.toNatClampNeg, hv]
  simp

/-! ## What is sent -/

/-- The strategies of the protocol, by their numbers. -/
def Proto.strategyOf (n : Int32) : Option SystemConsumerStrategy :=
  if n = 0 then some .dispatchToSingle
  else if n = 1 then some .roundRobin
  else if n = 2 then some .pinned
  else none

def SystemConsumerStrategy.Supported (c : SystemConsumerStrategy) : Prop :=
  c = .dispatchToSingle ∨ c = .roundRobin ∨ c = .pinned

section

variable {A : Type} {setts : PersistentSubscriptionSettings A}

/-- Every field stands for the value of its option, the two times in whole milliseconds. -/
structure SentAsGiven (setts : PersistentSubscriptionSettings A) (u : Proto.UpdateSettings) :
    Prop where
  resolveLinks : u.resolveLinks = setts.resolveLinkTos
  extraStatistics : u.extraStatistics = setts.extraStatistics
  messageTimeout : ∃ ms, u.messageTimeout = some (.messageTimeoutMs ms) ∧
    ms.toInt = setts.messageTimeout.asMillis
  maxRetryCount : u.maxRetryCount = setts.maxRetryCount
  checkpointAfter : ∃ ms, u.checkpointAfter = some (.checkpointAfterMs ms) ∧
    ms.toInt = setts.checkpointAfter.asMillis
  minCheckpointCount : u.minCheckpointCount = setts.checkpointLowerBound
  maxCheckpointCount : u.maxCheckpointCount = setts.checkpointUpperBound
  maxSubscriberCount : u.maxSubscriberCount = setts.maxSubscriberCount
  liveBufferSize : u.liveBufferSize = setts.liveBufferSize
  readBatchSize : u.readBatchSize = setts.readBatchSize
  historyBufferSize : u.historyBufferSize = setts.historyBufferSize
  namedConsumerStrategy :
    Proto.strategyOf u.namedConsumerStrategy = some setts.consumerStrategyName

/-- Both times fit the field. -/
def TimesFit (setts : PersistentSubscriptionSettings A) : Prop :=
  setts.messageTimeout.asMillis < 2 ^ 31 ∧ setts.checkpointAfter.asMillis < 2 ^ 31

/-- A create request is an update request with the name of the strategy. -/
theorem shared_tryFrom (setts : PersistentSubscriptionSettings A) :
    (Proto.CreateSettings.tryFrom setts).map Proto.CreateSettings.shared =
      Proto.UpdateSettings.tryFrom setts := by
  unfold Proto.CreateSettings.tryFrom Proto.UpdateSettings.tryFrom
  cases setts.namedConsumerStrategyAsI32 with
  | error e => rfl
  | ok n => rfl

theorem namedConsumerStrategyAsI32_ok {n : Int32}
    (h : setts.namedConsumerStrategyAsI32 = .ok n) :
    Proto.strategyOf n = some setts.consumerStrategyName ∧
      setts.consumerStrategyName.Supported := by
  unfold PersistentSubscriptionSettings.namedConsumerStrategyAsI32 at h
  cases hc : setts.consumerStrategyName with
  | dispatchToSingle => rw [hc] at h; cases h; exact ⟨rfl, .inl rfl⟩
  | roundRobin => rw [hc] at h; cases h; exact ⟨rfl, .inr (.inl rfl)⟩
  | pinned => rw [hc] at h; cases h; exact ⟨rfl, .inr (.inr rfl)⟩
  | pinnedByCorrelation => rw [hc] at h; cases h
  | custom value => rw [hc] at h; cases h

theorem namedConsumerStrategyAsI32_of_supported (h : setts.consumerStrategyName.Supported) :
    ∃ n, setts.namedConsumerStrategyAsI32 = .ok n := by
  unfold PersistentSubscriptionSettings.namedConsumerStrategyAsI32
  rcases h with h | h | h <;> rw [h] <;> exact ⟨_, rfl⟩

/-- The encoders fail on a strategy without a number and on nothing else. -/
theorem updateSettings_ok_iff :
    (∃ u, Proto.UpdateSettings.tryFrom setts = .ok u) ↔ setts.consumerStrategyName.Supported := by
  constructor
  · rintro ⟨u, h⟩
    unfold Proto.UpdateSettings.tryFrom at h
    obtain ⟨n, hn, -⟩ := bind_eq_ok h
    exact (namedConsumerStrategyAsI32_ok hn).2
  · intro h
    obtain ⟨n, hn⟩ := namedConsumerStrategyAsI32_of_supported h
    unfold Proto.UpdateSettings.tryFrom
    rw [hn]
    exact ⟨_, rfl⟩

theorem sentAsGiven_iff {u : Proto.UpdateSettings}
    (h : Proto.UpdateSettings.tryFrom setts = .ok u) : SentAsGiven setts u ↔ TimesFit setts := by
  unfold Proto.UpdateSettings.tryFrom at h
  obtain ⟨n, hn, h⟩ := bind_eq_ok h
  cases h
  constructor
  · rintro ⟨-, -, ⟨m, hm, hmval⟩, -, ⟨c, hc, hcval⟩, -⟩
    cases hm
    cases hc
    exact ⟨int32_ofNat_iff.mp hmval, int32_ofNat_iff.mp hcval⟩
  · rintro ⟨hm, hc⟩
    exact ⟨rfl, rfl, ⟨_, rfl, int32_ofNat_iff.mpr hm⟩, rfl, ⟨_, rfl, int32_ofNat_iff.mpr hc⟩,
      rfl, rfl, rfl, rfl, rfl, rfl, (namedConsumerStrategyAsI32_ok hn).1⟩

theorem createSettings_ok {c : Proto.CreateSettings}
    (h : Proto.CreateSettings.tryFrom setts = .ok c) :
    Proto.UpdateSettings.tryFrom setts = .ok c.shared ∧
      c.consumerStrategy = setts.consumerStrategyName.text := by
  refine ⟨by rw [← shared_tryFrom, h]; rfl, ?_⟩
  unfold Proto.CreateSettings.tryFrom at h
  obtain ⟨n, -, h⟩ := bind_eq_ok h
  cases h
  rfl

end

/-! ## What comes back -/

/-- The times without what is below a millisecond. -/
def PersistentSubscriptionSettings.wholeMillis {A : Type} (s : PersistentSubscriptionSettings A) :
    PersistentSubscriptionSettings A :=
  { s with
    messageTimeout := .fromMillis s.messageTimeout.asMillis
    checkpointAfter := .fromMillis s.checkpointAfter.asMillis }

namespace Selector

/-- A place of the stream at hand, as one of either kind. -/
def lift : (s : Selector) → s.Value → RevisionOrPosition
  | regularStream _, rev => .revision rev
  | allStream, pos => .position pos
  | bothTypeOfStream, v => v

def liftStart (s : Selector) : StreamPosition s.Value → StreamPosition RevisionOrPosition
  | .start => .start
  | .end => .end
  | .position a => .position (s.lift a)

/-- The start on the wire is the place it was made from. -/
def StartSent : (s : Selector) → StreamPosition s.Value → Prop
  | regularStream _, startFrom => (revisionOption startFrom).place = startFrom
  | allStream, startFrom => (allOption startFrom).place = startFrom
  | bothTypeOfStream, _ => True

/-- The start is not the first place written out, which is read as the start. -/
def StartKept (s : Selector) (startFrom : StreamPosition s.Value) : Prop :=
  ∀ a, startFrom = .position a → s.lift a ≠ .revision 0 ∧ s.lift a ≠ .position ⟨0, 0⟩

theorem startSent (s : Selector) (startFrom : StreamPosition s.Value) : s.StartSent startFrom := by
  cases s with
  | regularStream name => cases startFrom <;> rfl
  | allStream => cases startFrom <;> rfl
  | bothTypeOfStream => trivial

theorem select_lift (s : Selector) (a : s.Value) : s.select (s.lift a) = .ret a := by
  cases s <;> rfl

theorem map_liftStart (s : Selector) (startFrom : StreamPosition s.Value) :
    (s.liftStart startFrom).map s.select = .ret startFrom := by
  cases startFrom with
  | start => rfl
  | «end» => rfl
  | position a => rw [liftStart, StreamPosition.map, select_lift]; rfl

end Selector

/-- The server tells of a group in the values it was sent. -/
structure EchoedBy (u : Proto.UpdateSettings) (startFrom : StreamPosition RevisionOrPosition)
    (info : Proto.SubscriptionInfo) : Prop where
  resolveLinks : info.resolveLinkTos = u.resolveLinks
  startFrom : info.startFrom ∈ startFrom.texts
  extraStatistics : info.extraStatistics = u.extraStatistics
  messageTimeout : u.messageTimeout = some (.messageTimeoutMs info.messageTimeoutMilliseconds)
  maxRetryCount : info.maxRetryCount = u.maxRetryCount
  checkpointAfter :
    u.checkpointAfter = some (.checkpointAfterMs info.checkPointAfterMilliseconds)
  minCheckpointCount : info.minCheckPointCount = u.minCheckpointCount
  maxCheckpointCount : info.maxCheckPointCount = u.maxCheckpointCount
  maxSubscriberCount : info.maxSubscriberCount = u.maxSubscriberCount
  liveBufferSize : info.liveBufferSize = u.liveBufferSize
  readBatchSize : info.readBatchSize = u.readBatchSize
  historyBufferSize : info.bufferSize = u.historyBufferSize
  strategy : ∃ c, Proto.strategyOf u.namedConsumerStrategy = some c ∧
    info.namedConsumerStrategy = c.text

/-- The settings a message is decoded to, around a start that has been read. -/
def Proto.SubscriptionInfo.settings {B : Type} (value : Proto.SubscriptionInfo)
    (startFrom : StreamPosition B) : PersistentSubscriptionSettings B where
  resolveLinkTos := value.resolveLinkTos
  startFrom
  extraStatistics := value.extraStatistics
  messageTimeout := .fromMillis (asU64 value.messageTimeoutMilliseconds).toNat
  maxRetryCount := value.maxRetryCount
  liveBufferSize := value.liveBufferSize
  readBatchSize := value.readBatchSize
  historyBufferSize := value.bufferSize
  checkpointAfter := .fromMillis (asU64 value.checkPointAfterMilliseconds).toNat
  checkpointLowerBound := value.minCheckPointCount
  checkpointUpperBound := value.maxCheckPointCount
  maxSubscriberCount := value.maxSubscriberCount
  consumerStrategyName := .fromString value.namedConsumerStrategy

section

variable {s : Selector} {setts : PersistentSubscriptionSettings s.Value}
  {info : Proto.SubscriptionInfo} {u : Proto.UpdateSettings}

theorem decodeGrpc_settings {B : Type} {select : RevisionOrPosition → Call B}
    {p : StreamPosition RevisionOrPosition} {q : StreamPosition B}
    (hp : parseStreamPosition info.startFrom = .ok p) (hq : p.map select = .ret q) :
    ∃ sub, decodeGrpc select info = .ret (.ok sub) ∧ sub.settings = some (info.settings q) := by
  unfold decodeGrpc PersistentSubscriptionInfo.tryFrom
  rw [hp]
  simp only [PersistentSubscriptionInfo.map, PersistentSubscriptionSettings.map, bind, Except.bind,
    pure, Except.pure]
  rw [hq]
  exact ⟨_, rfl, rfl⟩

theorem fromString_text {c : SystemConsumerStrategy} (h : c.Supported) :
    SystemConsumerStrategy.fromString c.text = c := by
  rcases h with rfl | rfl | rfl <;> rfl

theorem place_liftStart (h : s.StartKept setts.startFrom) :
    (s.liftStart setts.startFrom).place = s.liftStart setts.startFrom := by
  cases hs : setts.startFrom with
  | start => rfl
  | «end» => rfl
  | position a =>
    obtain ⟨hrev, hpos⟩ := h a hs
    unfold Selector.liftStart StreamPosition.place
    rw [if_neg]
    rintro (heq | heq)
    · exact hrev (StreamPosition.position.inj heq)
    · exact hpos (StreamPosition.position.inj heq)

theorem place_of_not_kept (h : ¬ s.StartKept setts.startFrom) :
    (s.liftStart setts.startFrom).place = .start ∧ setts.startFrom ≠ .start := by
  unfold Selector.StartKept at h
  push Not at h
  obtain ⟨a, hs, hzero⟩ := h
  rw [hs]
  refine ⟨?_, fun heq => by cases heq⟩
  unfold Selector.liftStart StreamPosition.place
  rw [if_pos]
  by_cases hrev : s.lift a = .revision 0
  · exact .inl (congrArg StreamPosition.position hrev)
  · exact .inr (congrArg StreamPosition.position (hzero hrev))

/-- With times that fit, everything but the start comes back. -/
theorem settings_of_echo (hu : Proto.UpdateSettings.tryFrom setts = .ok u) (ht : TimesFit setts)
    {startFrom : StreamPosition RevisionOrPosition} (he : EchoedBy u startFrom info)
    (q : StreamPosition s.Value) :
    info.settings q = { setts.wholeMillis with startFrom := q } := by
  have hsupp := updateSettings_ok_iff.mp ⟨u, hu⟩
  unfold Proto.UpdateSettings.tryFrom at hu
  obtain ⟨n, hn, hu⟩ := bind_eq_ok hu
  cases hu
  obtain ⟨c, hc, hname⟩ := he.strategy
  have hstrategy : c = setts.consumerStrategyName := by
    have h := (namedConsumerStrategyAsI32_ok hn).1
    rw [hc] at h
    exact Option.some.inj h
  have hmessage : Int32.ofNat setts.messageTimeout.asMillis = info.messageTimeoutMilliseconds :=
    Proto.MessageTimeout.messageTimeoutMs.inj (Option.some.inj he.messageTimeout)
  have hcheckpoint :
      Int32.ofNat setts.checkpointAfter.asMillis = info.checkPointAfterMilliseconds :=
    Proto.CheckpointAfter.checkpointAfterMs.inj (Option.some.inj he.checkpointAfter)
  unfold Proto.SubscriptionInfo.settings PersistentSubscriptionSettings.wholeMillis
  rw [← hmessage, ← hcheckpoint, asU64_ofNat ht.1, asU64_ofNat ht.2, hname, hstrategy,
    fromString_text hsupp, he.resolveLinks, he.extraStatistics, he.maxRetryCount,
    he.liveBufferSize, he.readBatchSize, he.historyBufferSize, he.minCheckpointCount,
    he.maxCheckpointCount, he.maxSubscriberCount]

theorem echo_decoded (he : EchoedBy u (s.liftStart setts.startFrom) info)
    {q : StreamPosition s.Value}
    (hq : (s.liftStart setts.startFrom).place.map s.select = .ret q) :
    ∃ sub, decodeGrpc s.select info = .ret (.ok sub) ∧ sub.settings = some (info.settings q) :=
  decodeGrpc_settings (StreamPosition.parseStreamPosition_texts he.startFrom) hq

end

/-- A message that tells of a group in the values of `u`, fresh otherwise. -/
def Proto.UpdateSettings.echo (u : Proto.UpdateSettings) (startFrom namedConsumerStrategy : String)
    (messageTimeout checkpointAfter : Int32) : Proto.SubscriptionInfo where
  eventSource := "orders"
  groupName := "group"
  status := "Live"
  connections := []
  averagePerSecond := 0
  totalItems := 0
  countSinceLastMeasurement := 0
  lastCheckpointedEventPosition := ""
  lastKnownEventPosition := ""
  resolveLinkTos := u.resolveLinks
  startFrom
  messageTimeoutMilliseconds := messageTimeout
  extraStatistics := u.extraStatistics
  maxRetryCount := u.maxRetryCount
  liveBufferSize := u.liveBufferSize
  bufferSize := u.historyBufferSize
  readBatchSize := u.readBatchSize
  checkPointAfterMilliseconds := checkpointAfter
  minCheckPointCount := u.minCheckpointCount
  maxCheckPointCount := u.maxCheckpointCount
  readBufferCount := 0
  liveBufferCount := 0
  retryBufferCount := 0
  totalInFlightMessages := 0
  outstandingMessagesCount := 0
  namedConsumerStrategy
  maxSubscriberCount := u.maxSubscriberCount
  parkedMessageCount := 0

theorem exists_text (p : StreamPosition RevisionOrPosition) : ∃ t, t ∈ p.texts := by
  cases p with
  | start => exact ⟨"0", by simp [StreamPosition.texts]⟩
  | «end» => exact ⟨"-1", by simp [StreamPosition.texts]⟩
  | position v => cases v <;> exact ⟨_, List.mem_singleton.mpr rfl⟩

/-- Whatever was sent can be echoed. -/
theorem exists_echo {A : Type} {setts : PersistentSubscriptionSettings A} {u : Proto.UpdateSettings}
    (hu : Proto.UpdateSettings.tryFrom setts = .ok u) (p : StreamPosition RevisionOrPosition) :
    ∃ info, EchoedBy u p info := by
  obtain ⟨t, ht⟩ := exists_text p
  refine ⟨u.echo t setts.consumerStrategyName.text
    (Int32.ofNat setts.messageTimeout.asMillis) (Int32.ofNat setts.checkpointAfter.asMillis), ?_⟩
  unfold Proto.UpdateSettings.tryFrom at hu
  obtain ⟨n, hn, hu⟩ := bind_eq_ok hu
  cases hu
  exact ⟨rfl, ht, rfl, rfl, rfl, rfl, rfl, rfl, rfl, rfl, rfl, rfl,
    _, (namedConsumerStrategyAsI32_ok hn).1, rfl⟩

/-! ## The whole way -/

/-- Both encoders take the settings or neither does, what they send stands for what was
asked for, and what the server tells of it is decoded to the settings in whole
milliseconds. -/
structure ReachesWire (s : Selector) (setts : PersistentSubscriptionSettings s.Value) : Prop where
  agree : (Proto.CreateSettings.tryFrom setts).map Proto.CreateSettings.shared =
    Proto.UpdateSettings.tryFrom setts
  start : s.StartSent setts.startFrom
  updated : ∀ u, Proto.UpdateSettings.tryFrom setts = .ok u → SentAsGiven setts u
  created : ∀ c, Proto.CreateSettings.tryFrom setts = .ok c → SentAsGiven setts c.shared ∧
    c.consumerStrategy = setts.consumerStrategyName.text
  readBack : ∀ u info, Proto.UpdateSettings.tryFrom setts = .ok u →
    EchoedBy u (s.liftStart setts.startFrom) info →
    ∃ sub, decodeGrpc s.select info = .ret (.ok sub) ∧ sub.settings = some setts.wholeMillis

section

variable {s : Selector} {setts : PersistentSubscriptionSettings s.Value}

theorem reachesWire_of_fit (h : setts.consumerStrategyName.Supported →
    TimesFit setts ∧ s.StartKept setts.startFrom) : ReachesWire s setts where
  agree := shared_tryFrom setts
  start := s.startSent setts.startFrom
  updated u hu := (sentAsGiven_iff hu).mpr (h (updateSettings_ok_iff.mp ⟨u, hu⟩)).1
  created c hc := by
    obtain ⟨hu, hname⟩ := createSettings_ok hc
    exact ⟨(sentAsGiven_iff hu).mpr (h (updateSettings_ok_iff.mp ⟨_, hu⟩)).1, hname⟩
  readBack u info hu he := by
    obtain ⟨ht, hk⟩ := h (updateSettings_ok_iff.mp ⟨u, hu⟩)
    obtain ⟨sub, hsub, hsetts⟩ := echo_decoded he
      (by rw [place_liftStart hk]; exact s.map_liftStart setts.startFrom)
    rw [settings_of_echo hu ht he] at hsetts
    exact ⟨sub, hsub, hsetts⟩

theorem fit_of_reachesWire (h : ReachesWire s setts)
    (hsupp : setts.consumerStrategyName.Supported) :
    TimesFit setts ∧ s.StartKept setts.startFrom := by
  obtain ⟨u, hu⟩ := updateSettings_ok_iff.mpr hsupp
  refine ⟨(sentAsGiven_iff hu).mp (h.updated u hu), ?_⟩
  by_contra hk
  -- the first place comes back as the start, which is another setting
  obtain ⟨hplace, hne⟩ := place_of_not_kept hk
  obtain ⟨info, he⟩ := exists_echo hu (s.liftStart setts.startFrom)
  obtain ⟨sub, hsub, hsetts⟩ := h.readBack u info hu he
  obtain ⟨sub', hsub', hsetts'⟩ := echo_decoded he (q := .start) (by rw [hplace]; rfl)
  rw [hsub] at hsub'
  cases hsub'
  rw [hsetts] at hsetts'
  have hstart := congrArg PersistentSubscriptionSettings.startFrom (Option.some.inj hsetts')
  exact hne hstart

end

/-- The limit of a replay as it was given. -/
def StopSent (stopAt : Option UInt64) (sent : Option Proto.StopAtOption) : Prop :=
  match stopAt with
  | some value => ∃ limit, sent = some (.stopAt limit) ∧ limit.toInt = value.toNat
  | none => sent = some .noLimit

theorem stopSent_iff (streamName groupName : String) (isAll : Bool) (stopAt : Option UInt64) :
    StopSent stopAt (replayParkedOptions streamName groupName isAll stopAt).stopAtOption ↔
      ∀ value ∈ stopAt, value.toNat < 2 ^ 63 := by
  cases stopAt with
  | none => simp [StopSent, replayParkedOptions]
  | some value =>
    constructor
    · rintro ⟨limit, hsent, hval⟩ v hv
      cases hsent
      cases hv
      exact int64_ofNat_iff.mp hval
    · intro h
      exact ⟨_, rfl, int64_ofNat_iff.mpr (h value rfl)⟩

/-- **What it takes for options to reach the wire**: a strategy no server has is refused by
both encoders; any other settings arrive, and come back, exactly when both times are below
`2^31` milliseconds and the start is not the first place written out. A buffer arrives below
`2^31`, a limit below `2^63`. -/
theorem options_reach_wire_iff (s : Selector) (setts : PersistentSubscriptionSettings s.Value)
    (stream group : String) (toAll : Bool) (bufferSize : UInt64) (stopAt : Option UInt64) :
    (ReachesWire s setts ↔
      (setts.consumerStrategyName.Supported → TimesFit setts ∧ s.StartKept setts.startFrom)) ∧
    ((readReqOptions stream group toAll bufferSize).bufferSize.toInt = bufferSize.toNat ↔
      bufferSize.toNat < 2 ^ 31) ∧
    (StopSent stopAt (replayParkedOptions stream group toAll stopAt).stopAtOption ↔
      ∀ value ∈ stopAt, value.toNat < 2 ^ 63) :=
  ⟨⟨fit_of_reachesWire, reachesWire_of_fit⟩, int32_ofNat_iff,
    stopSent_iff stream group toAll stopAt⟩

/-- Settings left at their defaults arrive. -/
theorem default_reaches_wire (s : Selector) : ReachesWire s .default := by
  have hfit : TimesFit (PersistentSubscriptionSettings.default (A := s.Value)) := by
    constructor
    · show 30 * 1000000000 / 1000000 < 2 ^ 31
      omega
    · show 2 * 1000000000 / 1000000 < 2 ^ 31
      omega
  exact reachesWire_of_fit fun _ => ⟨hfit, fun _ h => by cases h⟩

/-- Twenty-five days become a negative timeout, as do a buffer and a limit of their first
bit. -/
theorem options_wrap_around :
    ¬ ReachesWire (.regularStream "orders")
      { PersistentSubscriptionSettings.default with messageTimeout := .fromMillis 2147483648 } ∧
    (readReqOptions "orders" "group" false 2147483648).bufferSize.toInt = -2147483648 ∧
    (replayParkedOptions "orders" "group" false (some 9223372036854775808)).stopAtOption =
      some (.stopAt Int64.minValue) := by
  refine ⟨fun h => ?_, by decide +kernel, by decide +kernel⟩
  have hfit := (fit_of_reachesWire h (.inr (.inl rfl))).1.1
  revert hfit
  decide

end Kurrent
