import Kurrent.Streams.Metadata
import Kurrent.Streams.Position

/-!
# Persistent subscription info

What the client knows of a persistent subscription (`types.rs`), and the two ways it gets
there. A server with the management feature sends a `SubscriptionInfo` message, which
`TryFrom` converts (`event_store/generated.rs`); an older one serves JSON over HTTP, which
is decoded and handed to `from_http_info` (`http/persistent_subscriptions.rs`). A selector
then says what a start position is for the kind of stream at hand. A `usize` has 64 bits
and a floating-point number is taken by its value.
-/

namespace Kurrent

open Lib

/-! ## Numbers -/

/-- `as f64`: 53 bits are kept, rounded to nearest, ties to even. -/
def roundF64 (n : Nat) : Nat :=
  let k := n.log2 - 52
  if k = 0 then n
  else
    let q := n / 2 ^ k
    let r := n % 2 ^ k
    let up := 2 ^ (k - 1) < r ∨ (2 ^ (k - 1) = r ∧ q % 2 = 1)
    (if up then q + 1 else q) * 2 ^ k

def asF64 (v : Int) : Rat := (v.sign * roundF64 v.natAbs : Int)

/-- `as u64` and `as usize` of an `i32`. -/
def asU64 (v : Int32) : UInt64 := v.toInt64.toUInt64

def deserializeBool : Json.Decoder Bool
  | .bool b => .ok b
  | _ => .error (.invalidType "a boolean")

def deserializeI64 : Json.Decoder Int64
  | .number (.posInt n) =>
    if n.toNat < 2 ^ 63 then .ok (Int64.ofNat n.toNat) else .error (.outOfRange "i64")
  | .number (.negSucc n) => .ok (Int64.ofInt (Int.negSucc n))
  | _ => .error (.invalidType "i64")

def deserializeF64 : Json.Decoder Rat
  | .number (.posInt n) => .ok (asF64 n.toNat)
  | .number (.negSucc n) => .ok (asF64 (Int.negSucc n))
  | .number (.float value) => .ok value
  | _ => .error (.invalidType "f64")

/-! ## The client's values -/

inductive SystemConsumerStrategy where
  | dispatchToSingle
  | roundRobin
  | pinned
  | pinnedByCorrelation
  | custom (name : String)
  deriving DecidableEq, Repr

def SystemConsumerStrategy.fromString : String → SystemConsumerStrategy
  | "DispatchToSingle" => .dispatchToSingle
  | "RoundRobin" => .roundRobin
  | "Pinned" => .pinned
  | "PinnedByCorrelation" => .pinnedByCorrelation
  | str => .custom str

/-- The derived decoder: a string names a variant without a value. -/
def SystemConsumerStrategy.deserialize : Json.Decoder SystemConsumerStrategy
  | .string "DispatchToSingle" => .ok .dispatchToSingle
  | .string "RoundRobin" => .ok .roundRobin
  | .string "Pinned" => .ok .pinned
  | .string "PinnedByCorrelation" => .ok .pinnedByCorrelation
  | .string "Custom" => .error (.invalidType "newtype variant")
  | .string variant => .error (.unknownVariant variant)
  | .object [("DispatchToSingle", .null)] => .ok .dispatchToSingle
  | .object [("RoundRobin", .null)] => .ok .roundRobin
  | .object [("Pinned", .null)] => .ok .pinned
  | .object [("PinnedByCorrelation", .null)] => .ok .pinnedByCorrelation
  | .object [("Custom", name)] => (deserializeString name).map .custom
  | _ => .error (.invalidType "enum SystemConsumerStrategy")

abbrev Measurements := Finmap fun _ : String => Int64

structure PersistentSubscriptionConnectionInfo where
  /-- `from` in the source -/
  fromAddress : String
  username : String
  averageItemsPerSecond : Rat
  totalItems : UInt64
  countSinceLastMeasurement : UInt64
  availableSlots : UInt64
  inFlightMessages : UInt64
  connectionName : String
  extraStatistics : Measurements

structure PersistentSubscriptionStats where
  averagePerSecond : Rat
  totalItems : UInt64
  countSinceLastMeasurement : UInt64
  lastCheckpointedEventRevision : Option UInt64
  lastKnownEventRevision : Option UInt64
  lastCheckpointedPosition : Option Position
  lastKnownPosition : Option Position
  readBufferCount : UInt64
  liveBufferCount : UInt64
  retryBufferCount : UInt64
  totalInFlightMessages : UInt64
  outstandingMessagesCount : UInt64
  parkedMessageCount : UInt64

structure PersistentSubscriptionSettings (A : Type) where
  resolveLinkTos : Bool
  startFrom : StreamPosition A
  extraStatistics : Bool
  messageTimeout : Duration
  maxRetryCount : Int32
  liveBufferSize : Int32
  readBatchSize : Int32
  historyBufferSize : Int32
  checkpointAfter : Duration
  checkpointLowerBound : Int32
  checkpointUpperBound : Int32
  maxSubscriberCount : Int32
  consumerStrategyName : SystemConsumerStrategy

structure PersistentSubscriptionInfo (A : Type) where
  eventSource : String
  groupName : String
  status : String
  connections : List PersistentSubscriptionConnectionInfo
  settings : Option (PersistentSubscriptionSettings A)
  stats : PersistentSubscriptionStats

/-! ## Selectors -/

def unreachable : String := "internal error: entered unreachable code"

def AllStream.select : RevisionOrPosition → Call Position
  | .position p => .ret p
  | _ => .panic unreachable

def RegularStream.select : RevisionOrPosition → Call UInt64
  | .revision r => .ret r
  | _ => .panic unreachable

def BothTypeOfStream.select (value : RevisionOrPosition) : Call RevisionOrPosition := .ret value

section

variable {A B : Type}

/-- `map`, by a function that may panic. -/
def StreamPosition.map (f : A → Call B) : StreamPosition A → Call (StreamPosition B)
  | .start => .ret .start
  | .end => .ret .end
  | .position a => do return .position (← f a)

def PersistentSubscriptionSettings.map (f : A → Call B) (s : PersistentSubscriptionSettings A) :
    Call (PersistentSubscriptionSettings B) := do
  return { s with startFrom := ← s.startFrom.map f }

def PersistentSubscriptionInfo.map (f : A → Call B) (info : PersistentSubscriptionInfo A) :
    Call (PersistentSubscriptionInfo B) :=
  match info.settings with
  | none => .ret { info with settings := none }
  | some setts => do return { info with settings := some (← setts.map f) }

end

/-! ## Over gRPC -/

namespace Proto

structure ConnectionInfo where
  /-- `from` in the source -/
  fromAddress : String
  username : String
  averageItemsPerSecond : Int32
  totalItems : Int64
  countSinceLastMeasurement : Int64
  observedMeasurements : List (String × Int64)
  availableSlots : Int32
  inFlightMessages : Int32
  connectionName : String

structure SubscriptionInfo where
  eventSource : String
  groupName : String
  status : String
  connections : List ConnectionInfo
  averagePerSecond : Int32
  totalItems : Int64
  countSinceLastMeasurement : Int64
  lastCheckpointedEventPosition : String
  lastKnownEventPosition : String
  resolveLinkTos : Bool
  startFrom : String
  messageTimeoutMilliseconds : Int32
  extraStatistics : Bool
  maxRetryCount : Int32
  liveBufferSize : Int32
  bufferSize : Int32
  readBatchSize : Int32
  checkPointAfterMilliseconds : Int32
  minCheckPointCount : Int32
  maxCheckPointCount : Int32
  readBufferCount : Int32
  liveBufferCount : Int64
  retryBufferCount : Int32
  totalInFlightMessages : Int32
  outstandingMessagesCount : Int32
  namedConsumerStrategy : String
  maxSubscriberCount : Int32
  parkedMessageCount : Int64

end Proto

def PersistentSubscriptionConnectionInfo.from (value : Proto.ConnectionInfo) :
    PersistentSubscriptionConnectionInfo where
  fromAddress := value.fromAddress
  username := value.username
  averageItemsPerSecond := asF64 value.averageItemsPerSecond.toInt
  totalItems := value.totalItems.toUInt64
  countSinceLastMeasurement := value.countSinceLastMeasurement.toUInt64
  availableSlots := asU64 value.availableSlots
  inFlightMessages := asU64 value.inFlightMessages
  connectionName := value.connectionName
  extraStatistics := collect value.observedMeasurements

/-- The number and the position a text stands for; one that does not parse is neither. -/
def placeOf (text : String) : Option UInt64 × Option Position :=
  match parseRevisionOrPosition text with
  | .ok (.position p) => (none, some p)
  | .ok (.revision r) => (some r, none)
  | .error _ => (none, none)

def PersistentSubscriptionInfo.tryFrom (value : Proto.SubscriptionInfo) :
    Except Error (PersistentSubscriptionInfo RevisionOrPosition) := do
  let (lastKnownEventNumber, lastKnownPosition) := placeOf value.lastKnownEventPosition
  let (lastProcessedEventNumber, lastProcessedPosition) :=
    placeOf value.lastCheckpointedEventPosition
  let startFrom ← parseStreamPosition value.startFrom
  return {
    eventSource := value.eventSource
    groupName := value.groupName
    status := value.status
    connections := value.connections.map .from
    settings := some {
      resolveLinkTos := value.resolveLinkTos
      startFrom
      extraStatistics := value.extraStatistics
      messageTimeout := .fromMillis (asU64 value.messageTimeoutMilliseconds).toNat
      maxRetryCount := value.maxRetryCount
      liveBufferSize := value.liveBufferSize
      readBatchSize := value.readBatchSize
      historyBufferSize := value.bufferSize
      checkpointAfter := .fromMillis (asU64 value.checkPointAfterMilliseconds).toNat
      checkpointLowerBound := value.minCheckPointCount
      checkpointUpperBound := value.maxCheckPointCount
      maxSubscriberCount := value.maxSubscriberCount
      consumerStrategyName := .fromString value.namedConsumerStrategy }
    stats := {
      averagePerSecond := asF64 value.averagePerSecond.toInt
      totalItems := value.totalItems.toUInt64
      countSinceLastMeasurement := value.countSinceLastMeasurement.toUInt64
      lastCheckpointedEventRevision := lastProcessedEventNumber
      lastKnownEventRevision := lastKnownEventNumber
      lastCheckpointedPosition := lastProcessedPosition
      lastKnownPosition
      readBufferCount := asU64 value.readBufferCount
      liveBufferCount := value.liveBufferCount.toUInt64
      retryBufferCount := asU64 value.retryBufferCount
      totalInFlightMessages := asU64 value.totalInFlightMessages
      outstandingMessagesCount := asU64 value.outstandingMessagesCount
      parkedMessageCount := value.parkedMessageCount.toUInt64 } }

/-- The message as the caller gets it. -/
def decodeGrpc {A : Type} (select : RevisionOrPosition → Call A) (value : Proto.SubscriptionInfo) :
    Call (Except Error (PersistentSubscriptionInfo A)) :=
  match PersistentSubscriptionInfo.tryFrom value with
  | .error e => .ret (.error e)
  | .ok sub => do return .ok (← sub.map select)

/-! ## Over HTTP -/

structure PersistentSubscriptionConfig where
  resolveLinktos : Bool
  startFrom : StreamPosition RevisionOrPosition
  startPosition : String
  messageTimeoutMilliseconds : Int64
  extraStatistics : Bool
  maxRetryCount : Int64
  liveBufferSize : Int64
  bufferSize : Int64
  readBatchSize : Int64
  preferRoundRobin : Bool
  checkpointAfterMilliseconds : Int64
  minCheckpointCount : Int64
  maxCheckpointCount : Int64
  maxSubscriberCount : Int64
  namedConsumerStrategy : SystemConsumerStrategy

structure PersistentSubscriptionInfoHttpJson where
  eventStreamId : String
  groupName : String
  status : String
  averageItemsPerSecond : Rat
  totalItemsProcessed : UInt64
  lastProcessedEventNumber : Int64
  lastCheckpointedEventPosition : Option String
  lastKnownEventPosition : Option String
  lastKnownEventNumber : Int64
  connectionCount : UInt64
  totalInFlightMessages : UInt64
  config : Option PersistentSubscriptionConfig
  readBufferCount : UInt64
  liveBufferCount : UInt64
  retryBufferCount : UInt64
  outstandingMessagesCount : UInt64
  parkedMessageCount : UInt64
  countSinceLastMeasurement : UInt64
  connections : List PersistentSubscriptionConnectionInfo

/-- A derived decoder of a record. -/
def deserializeStruct {A : Type} (name : String) (decode : List (String × Json) → Except DeError A) :
    Json.Decoder A
  | .object entries => decode entries
  | _ => .error (.invalidType name)

def deserializeSeq {A : Type} (decode : Json.Decoder A) (expected : String) : Json.Decoder (List A)
  | .array items => items.mapM decode
  | _ => .error (.invalidType expected)

def deserializeKeyValue : Json.Decoder (String × Int64) :=
  deserializeStruct "struct KeyValue" fun entries => do
    return (← Json.field deserializeString "key" entries, ← Json.field deserializeI64 "value" entries)

def deserializeMeasurements : Json.Decoder Measurements := fun j =>
  (deserializeSeq deserializeKeyValue "a list of key-values" j).map collect

def PersistentSubscriptionConnectionInfo.deserialize :
    Json.Decoder PersistentSubscriptionConnectionInfo :=
  deserializeStruct "struct PersistentSubscriptionConnectionInfo" fun es => do
    return {
      fromAddress := ← Json.field deserializeString "from" es
      username := ← Json.field deserializeString "username" es
      averageItemsPerSecond := ← Json.field deserializeF64 "averageItemsPerSecond" es
      totalItems := ← Json.field deserializeU64 "totalItemsProcessed" es
      countSinceLastMeasurement := ← Json.field deserializeU64 "countSinceLastMeasurement" es
      availableSlots := ← Json.field deserializeU64 "availableSlots" es
      inFlightMessages := ← Json.field deserializeU64 "inFlightMessages" es
      connectionName := ← Json.field deserializeString "connectionName" es
      extraStatistics := ← Json.fieldOr ∅ deserializeMeasurements "extraStatistics" es }

def PersistentSubscriptionConfig.deserialize : Json.Decoder PersistentSubscriptionConfig :=
  deserializeStruct "struct PersistentSubscriptionConfig" fun es => do
    return {
      resolveLinktos := ← Json.field deserializeBool "resolveLinktos" es
      startFrom := ← Json.field StreamPosition.deserialize "startFrom" es
      startPosition := ← Json.fieldOr "" deserializeString "startPosition" es
      messageTimeoutMilliseconds := ← Json.field deserializeI64 "messageTimeoutMilliseconds" es
      extraStatistics := ← Json.field deserializeBool "extraStatistics" es
      maxRetryCount := ← Json.field deserializeI64 "maxRetryCount" es
      liveBufferSize := ← Json.field deserializeI64 "liveBufferSize" es
      bufferSize := ← Json.field deserializeI64 "bufferSize" es
      readBatchSize := ← Json.field deserializeI64 "readBatchSize" es
      preferRoundRobin := ← Json.field deserializeBool "preferRoundRobin" es
      checkpointAfterMilliseconds := ← Json.field deserializeI64 "checkPointAfterMilliseconds" es
      minCheckpointCount := ← Json.field deserializeI64 "minCheckPointCount" es
      maxCheckpointCount := ← Json.field deserializeI64 "maxCheckPointCount" es
      maxSubscriberCount := ← Json.field deserializeI64 "maxSubscriberCount" es
      namedConsumerStrategy := ←
        Json.field SystemConsumerStrategy.deserialize "namedConsumerStrategy" es }

def PersistentSubscriptionInfoHttpJson.deserialize :
    Json.Decoder PersistentSubscriptionInfoHttpJson :=
  deserializeStruct "struct PersistentSubscriptionInfoHttpJson" fun es => do
    return {
      eventStreamId := ← Json.field deserializeString "eventStreamId" es
      groupName := ← Json.field deserializeString "groupName" es
      status := ← Json.field deserializeString "status" es
      averageItemsPerSecond := ← Json.field deserializeF64 "averageItemsPerSecond" es
      totalItemsProcessed := ← Json.field deserializeU64 "totalItemsProcessed" es
      lastProcessedEventNumber := ← Json.field deserializeI64 "lastProcessedEventNumber" es
      lastCheckpointedEventPosition := ←
        defaultField (deserializeOption deserializeString) "lastCheckpointedEventPosition" es
      lastKnownEventPosition := ←
        defaultField (deserializeOption deserializeString) "lastKnownEventPosition" es
      lastKnownEventNumber := ← Json.field deserializeI64 "lastKnownEventNumber" es
      connectionCount := ← Json.fieldOr 0 deserializeU64 "connectionCount" es
      totalInFlightMessages := ← Json.field deserializeU64 "totalInFlightMessages" es
      config := ←
        defaultField (deserializeOption PersistentSubscriptionConfig.deserialize) "config" es
      readBufferCount := ← Json.fieldOr 0 deserializeU64 "readBufferCount" es
      liveBufferCount := ← Json.fieldOr 0 deserializeU64 "liveBufferCount" es
      retryBufferCount := ← Json.fieldOr 0 deserializeU64 "retryBufferCount" es
      outstandingMessagesCount := ← Json.fieldOr 0 deserializeU64 "outstandingMessagesCount" es
      parkedMessageCount := ← Json.fieldOr 0 deserializeU64 "parkedMessageCount" es
      countSinceLastMeasurement := ← Json.fieldOr 0 deserializeU64 "countSinceLastMeasurement" es
      connections := ← Json.fieldOr []
        (deserializeSeq PersistentSubscriptionConnectionInfo.deserialize "a sequence")
        "connections" es }

section

variable {A : Type} (select : RevisionOrPosition → Call A)

/-- The start position is in one field for `$all` and in another for every other stream. -/
def httpStartFrom (eventStreamId : String) (c : PersistentSubscriptionConfig) :
    Call (Except Error (StreamPosition A)) :=
  if eventStreamId = "$all" then
    match parseStreamPosition c.startPosition with
    | .error e => .ret (.error e)
    | .ok p => do return .ok (← p.map select)
  else do return .ok (← c.startFrom.map select)

def httpSettings (eventStreamId : String) (c : PersistentSubscriptionConfig) :
    Call (Except Error (PersistentSubscriptionSettings A)) := do
  match ← httpStartFrom select eventStreamId c with
  | .error e => return .error e
  | .ok startFrom =>
    return .ok {
      resolveLinkTos := c.resolveLinktos
      startFrom
      extraStatistics := c.extraStatistics
      messageTimeout := .fromMillis c.messageTimeoutMilliseconds.toUInt64.toNat
      maxRetryCount := c.maxRetryCount.toInt32
      liveBufferSize := c.liveBufferSize.toInt32
      readBatchSize := c.readBatchSize.toInt32
      checkpointAfter := .fromMillis c.checkpointAfterMilliseconds.toUInt64.toNat
      checkpointLowerBound := c.minCheckpointCount.toInt32
      checkpointUpperBound := c.maxCheckpointCount.toInt32
      maxSubscriberCount := c.maxSubscriberCount.toInt32
      consumerStrategyName := c.namedConsumerStrategy
      historyBufferSize := c.bufferSize.toInt32 }

/-- A position that is there must parse. -/
def httpPosition : Option String → Except Error (Option Position)
  | none => .ok none
  | some pos => (parsePosition pos).map some

def httpStats (info : PersistentSubscriptionInfoHttpJson) :
    Except Error PersistentSubscriptionStats := do
  let stats : PersistentSubscriptionStats := {
    averagePerSecond := info.averageItemsPerSecond
    totalItems := info.totalItemsProcessed
    countSinceLastMeasurement := info.countSinceLastMeasurement
    lastCheckpointedEventRevision := none
    lastKnownEventRevision := none
    lastCheckpointedPosition := none
    lastKnownPosition := none
    readBufferCount := info.readBufferCount
    liveBufferCount := info.liveBufferCount
    retryBufferCount := info.retryBufferCount
    totalInFlightMessages := info.totalInFlightMessages
    outstandingMessagesCount := info.outstandingMessagesCount
    parkedMessageCount := info.parkedMessageCount }
  if info.eventStreamId = "$all" then
    let lastCheckpointedPosition ← httpPosition info.lastCheckpointedEventPosition
    let lastKnownPosition ← httpPosition info.lastKnownEventPosition
    return { stats with lastCheckpointedPosition, lastKnownPosition }
  else
    return { stats with
      lastCheckpointedEventRevision := some info.lastProcessedEventNumber.toUInt64
      lastKnownEventRevision := some info.lastKnownEventNumber.toUInt64 }

def httpConfig (eventStreamId : String) :
    Option PersistentSubscriptionConfig → Call (Except Error (Option (PersistentSubscriptionSettings A)))
  | none => .ret (.ok none)
  | some c => do return (← httpSettings select eventStreamId c).map some

def fromHttpInfo (info : PersistentSubscriptionInfoHttpJson) :
    Call (Except Error (PersistentSubscriptionInfo A)) := do
  match ← httpConfig select info.eventStreamId info.config with
  | .error e => return .error e
  | .ok settings =>
    match httpStats info with
    | .error e => return .error e
    | .ok stats =>
      return .ok
        ⟨info.eventStreamId, info.groupName, info.status, info.connections, settings, stats⟩

/-- The JSON as the caller gets it; `display` is the text of a decoder's error. -/
def decodeHttp (display : DeError → String) (j : Json) :
    Call (Except Error (PersistentSubscriptionInfo A)) :=
  match PersistentSubscriptionInfoHttpJson.deserialize j with
  | .error e => .ret (.error (.internalParsingError (display e)))
  | .ok info => fromHttpInfo select info

end

end Kurrent
