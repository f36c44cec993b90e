import Kurrent.Persistent.Info

/-!
# One subscription, two decoders

`Snapshot` is a persistent subscription as the server sees it. `toGrpc` is the message it
sends of it, and `HttpForm` says what its JSON holds, in whatever order and with whatever
else beside it. A number or position that is not there yet is `-1` or `C:-1/P:-1` in both.
Which decoder runs depends on the server's features, so the two should agree; they do not
where nothing has been processed yet, nor on a consumer strategy of the user's own.
-/

namespace Kurrent

open Lib

/-! ## The server's side -/

abbrev Counter32 := { n : Int32 // 0 ≤ n.toInt }

abbrev Counter64 := { n : Int64 // 0 ≤ n.toInt }

structure ConnectionSnapshot where
  fromAddress : String
  username : String
  averageItemsPerSecond : Counter32
  totalItems : Counter64
  countSinceLastMeasurement : Counter64
  observedMeasurements : List (String × Int64)
  availableSlots : Counter32
  inFlightMessages : Counter32
  connectionName : String

/-- The stream, how far the subscription has got in it, and where it started. -/
inductive StreamSnapshot where
  | regular (name : String) (hname : name ≠ "$all") (checkpointed lastKnown : Option UInt64)
      (startAt : StreamPosition UInt64)
  | all (checkpointed lastKnown : Option Position) (startAt : StreamPosition Position)

structure Snapshot where
  source : StreamSnapshot
  groupName : String
  status : String
  connections : List ConnectionSnapshot
  averagePerSecond : Counter32
  totalItems : Counter64
  countSinceLastMeasurement : Counter64
  resolveLinkTos : Bool
  messageTimeout : Int32
  extraStatistics : Bool
  maxRetryCount : Int32
  liveBufferSize : Int32
  bufferSize : Int32
  readBatchSize : Int32
  checkPointAfter : Int32
  minCheckPointCount : Int32
  maxCheckPointCount : Int32
  readBufferCount : Counter32
  liveBufferCount : Counter64
  retryBufferCount : Counter32
  totalInFlightMessages : Counter32
  outstandingMessagesCount : Counter32
  namedConsumerStrategy : String
  maxSubscriberCount : Int32
  parkedMessageCount : Counter64

def numberText : Option UInt64 → String
  | some n => n.toNat.repr
  | none => "-1"

def positionText : Option Position → String
  | some p => p.text
  | none => "C:-1/P:-1"

namespace StreamSnapshot

def name : StreamSnapshot → String
  | regular name _ _ _ _ => name
  | all _ _ _ => "$all"

def checkpointedText : StreamSnapshot → String
  | regular _ _ c _ _ => numberText c
  | all c _ _ => positionText c

def lastKnownText : StreamSnapshot → String
  | regular _ _ _ k _ => numberText k
  | all _ k _ => positionText k

/-- The start position, whichever kind it is. -/
def start : StreamSnapshot → StreamPosition RevisionOrPosition
  | regular _ _ _ _ .start | all _ _ .start => .start
  | regular _ _ _ _ .end | all _ _ .end => .end
  | regular _ _ _ _ (.position r) => .position (.revision r)
  | all _ _ (.position p) => .position (.position p)

def startText : StreamSnapshot → String
  | regular _ _ _ _ .start => "0"
  | regular _ _ _ _ .end => "-1"
  | regular _ _ _ _ (.position r) => r.toNat.repr
  | all _ _ .start => "C:0/P:0"
  | all _ _ .end => "C:-1/P:-1"
  | all _ _ (.position p) => p.text

end StreamSnapshot

def ConnectionSnapshot.toGrpc (c : ConnectionSnapshot) : Proto.ConnectionInfo where
  fromAddress := c.fromAddress
  username := c.username
  averageItemsPerSecond := c.averageItemsPerSecond
  totalItems := c.totalItems
  countSinceLastMeasurement := c.countSinceLastMeasurement
  observedMeasurements := c.observedMeasurements
  availableSlots := c.availableSlots
  inFlightMessages := c.inFlightMessages
  connectionName := c.connectionName

def Snapshot.toGrpc (s : Snapshot) : Proto.SubscriptionInfo where
  eventSource := s.source.name
  groupName := s.groupName
  status := s.status
  connections := s.connections.map ConnectionSnapshot.toGrpc
  averagePerSecond := s.averagePerSecond
  totalItems := s.totalItems
  countSinceLastMeasurement := s.countSinceLastMeasurement
  lastCheckpointedEventPosition := s.source.checkpointedText
  lastKnownEventPosition := s.source.lastKnownText
  resolveLinkTos := s.resolveLinkTos
  startFrom := s.source.startText
  messageTimeoutMilliseconds := s.messageTimeout
  extraStatistics := s.extraStatistics
  maxRetryCount := s.maxRetryCount
  liveBufferSize := s.liveBufferSize
  bufferSize := s.bufferSize
  readBatchSize := s.readBatchSize
  checkPointAfterMilliseconds := s.checkPointAfter
  minCheckPointCount := s.minCheckPointCount
  maxCheckPointCount := s.maxCheckPointCount
  readBufferCount := s.readBufferCount
  liveBufferCount := s.liveBufferCount
  retryBufferCount := s.retryBufferCount
  totalInFlightMessages := s.totalInFlightMessages
  outstandingMessagesCount := s.outstandingMessagesCount
  namedConsumerStrategy := s.namedConsumerStrategy
  maxSubscriberCount := s.maxSubscriberCount
  parkedMessageCount := s.parkedMessageCount

/-! ## Its JSON -/

/-- The object has this name once, with this value. -/
def Has (es : List (String × Json)) (name : String) (j : Json) : Prop := Json.values name es = [j]

def count32 (n : Int32) : Json := Json.ofInt64 n.toInt64

/-- An average is written as an integer or as a float. -/
def HasAverage (es : List (String × Json)) (name : String) (n : Int32) : Prop :=
  Has es name (count32 n) ∨ Has es name (.number (.float n.toInt))

def keyValueJson (m : String × Int64) : Json :=
  .object [("key", .string m.1), ("value", Json.ofInt64 m.2)]

/-- A list that may be left out when it is empty. -/
def HasList {A : Type} (es : List (String × Json)) (name : String) (R : A → Json → Prop)
    (l : List A) : Prop :=
  (∃ js, Has es name (.array js) ∧ List.Forall₂ R l js) ∨ (Json.values name es = [] ∧ l = [])

structure ConnectionForm (c : ConnectionSnapshot) (es : List (String × Json)) : Prop where
  fromAddress : Has es "from" (.string c.fromAddress)
  username : Has es "username" (.string c.username)
  average : HasAverage es "averageItemsPerSecond" c.averageItemsPerSecond
  totalItems : Has es "totalItemsProcessed" (Json.ofInt64 c.totalItems)
  countSince : Has es "countSinceLastMeasurement" (Json.ofInt64 c.countSinceLastMeasurement)
  availableSlots : Has es "availableSlots" (count32 c.availableSlots)
  inFlight : Has es "inFlightMessages" (count32 c.inFlightMessages)
  connectionName : Has es "connectionName" (.string c.connectionName)
  measurements : HasList es "extraStatistics" (fun m j => j = keyValueJson m) c.observedMeasurements

def numberJson : Option UInt64 → Json
  | some n => Json.ofUInt64 n
  | none => Json.ofInt64 (-1)

/-- What is not about this kind of stream is left out, `null`, or anything of its type. -/
def HasOther (es : List (String × Json)) (name : String) : Prop :=
  Json.values name es = [] ∨ Has es name .null ∨ ∃ t, Has es name (.string t)

/-- The number where the subscription starts, for a regular stream. -/
def StreamSnapshot.StartFromForm (es : List (String × Json)) : StreamSnapshot → Prop
  | regular _ _ _ _ .start => Has es "startFrom" (Json.ofInt64 0)
  | regular _ _ _ _ .end => Has es "startFrom" (Json.ofInt64 (-1))
  | regular _ _ _ _ (.position r) => Has es "startFrom" (Json.ofUInt64 r)
  | all _ _ _ => ∃ k, Has es "startFrom" (Json.ofInt64 k)

/-- The position where it starts, for `$all`. -/
def StreamSnapshot.StartPositionForm (es : List (String × Json)) : StreamSnapshot → Prop
  | regular _ _ _ _ _ => Json.values "startPosition" es = [] ∨ ∃ t, Has es "startPosition" (.string t)
  | all c k p => Has es "startPosition" (.string (StreamSnapshot.all c k p).startText)

structure ConfigForm (s : Snapshot) (es : List (String × Json)) : Prop where
  resolveLinktos : Has es "resolveLinktos" (.bool s.resolveLinkTos)
  startFrom : s.source.StartFromForm es
  startPosition : s.source.StartPositionForm es
  messageTimeout : Has es "messageTimeoutMilliseconds" (count32 s.messageTimeout)
  extraStatistics : Has es "extraStatistics" (.bool s.extraStatistics)
  maxRetryCount : Has es "maxRetryCount" (count32 s.maxRetryCount)
  liveBufferSize : Has es "liveBufferSize" (count32 s.liveBufferSize)
  bufferSize : Has es "bufferSize" (count32 s.bufferSize)
  readBatchSize : Has es "readBatchSize" (count32 s.readBatchSize)
  preferRoundRobin : ∃ b, Has es "preferRoundRobin" (.bool b)
  checkPointAfter : Has es "checkPointAfterMilliseconds" (count32 s.checkPointAfter)
  minCheckPointCount : Has es "minCheckPointCount" (count32 s.minCheckPointCount)
  maxCheckPointCount : Has es "maxCheckPointCount" (count32 s.maxCheckPointCount)
  maxSubscriberCount : Has es "maxSubscriberCount" (count32 s.maxSubscriberCount)
  strategy : Has es "namedConsumerStrategy" (.string s.namedConsumerStrategy)

/-- How far the subscription has got: in numbers for a regular stream, in positions for
`$all`. -/
def StreamSnapshot.ReachedForm (es : List (String × Json)) : StreamSnapshot → Prop
  | regular _ _ c k _ =>
    Has es "lastProcessedEventNumber" (numberJson c) ∧ Has es "lastKnownEventNumber" (numberJson k) ∧
      HasOther es "lastCheckpointedEventPosition" ∧ HasOther es "lastKnownEventPosition"
  | all c k _ =>
    (∃ v, Has es "lastProcessedEventNumber" (Json.ofInt64 v)) ∧
      (∃ v, Has es "lastKnownEventNumber" (Json.ofInt64 v)) ∧
      Has es "lastCheckpointedEventPosition" (.string (positionText c)) ∧
      Has es "lastKnownEventPosition" (.string (positionText k))

structure HttpForm (s : Snapshot) (es : List (String × Json)) : Prop where
  eventStreamId : Has es "eventStreamId" (.string s.source.name)
  groupName : Has es "groupName" (.string s.groupName)
  status : Has es "status" (.string s.status)
  average : HasAverage es "averageItemsPerSecond" s.averagePerSecond
  totalItems : Has es "totalItemsProcessed" (Json.ofInt64 s.totalItems)
  reached : s.source.ReachedForm es
  connectionCount : Json.values "connectionCount" es = [] ∨
    ∃ n, Has es "connectionCount" (Json.ofUInt64 n)
  totalInFlight : Has es "totalInFlightMessages" (count32 s.totalInFlightMessages)
  config : ∃ cs, Has es "config" (.object cs) ∧ ConfigForm s cs
  readBufferCount : Has es "readBufferCount" (count32 s.readBufferCount)
  liveBufferCount : Has es "liveBufferCount" (Json.ofInt64 s.liveBufferCount)
  retryBufferCount : Has es "retryBufferCount" (count32 s.retryBufferCount)
  outstanding : Has es "outstandingMessagesCount" (count32 s.outstandingMessagesCount)
  parked : Has es "parkedMessageCount" (Json.ofInt64 s.parkedMessageCount)
  countSince : Has es "countSinceLastMeasurement" (Json.ofInt64 s.countSinceLastMeasurement)
  connections : HasList es "connections" (fun c j => ∃ cs, j = .object cs ∧ ConnectionForm c cs)
    s.connections

/-! ## Numbers -/

theorem toNat_ofNat_toInt {v : Int64} (h : 0 ≤ v.toInt) :
    (UInt64.ofNat v.toInt.toNat).toNat = v.toInt.toNat := by
  have := Int64.toInt_lt v
  rw [UInt64.toNat_ofNat']
  omega

theorem ofInt64_nonneg {v : Int64} (h : 0 ≤ v.toInt) :
    Json.ofInt64 v = .number (.posInt (UInt64.ofNat v.toInt.toNat)) := by
  unfold Json.ofInt64
  rw [dif_neg (by omega)]

theorem ofInt64_neg {v : Int64} (h : v.toInt < 0) :
    ∃ n : Fin (2 ^ 63), Json.ofInt64 v = .number (.negSucc n) ∧ Int.negSucc n = v.toInt := by
  unfold Json.ofInt64
  rw [dif_pos h]
  refine ⟨_, rfl, ?_⟩
  simp only
  omega

theorem ofNat_toInt {v : Int64} (h : 0 ≤ v.toInt) : Int64.ofNat v.toInt.toNat = v := by
  have := Int64.toInt_lt v
  apply Int64.toInt.inj
  rw [Int64.toInt_ofNat_of_lt (by omega)]
  omega

theorem deserializeI64_ofInt64 (v : Int64) : deserializeI64 (Json.ofInt64 v) = .ok v := by
  by_cases h : 0 ≤ v.toInt
  · have := Int64.toInt_lt v
    rw [ofInt64_nonneg h]
    simp only [deserializeI64, toNat_ofNat_toInt h]
    rw [if_pos (by omega), ofNat_toInt h]
  · obtain ⟨n, hn, hv⟩ := ofInt64_neg (by omega : v.toInt < 0)
    rw [hn]
    simp only [deserializeI64, hv, Int64.ofInt_toInt]

theorem deserializeF64_ofInt64 (v : Int64) :
    deserializeF64 (Json.ofInt64 v) = .ok (asF64 v.toInt) := by
  by_cases h : 0 ≤ v.toInt
  · rw [ofInt64_nonneg h]
    simp only [deserializeF64, toNat_ofNat_toInt h]
    rw [Int.toNat_of_nonneg h]
  · obtain ⟨n, hn, hv⟩ := ofInt64_neg (by omega : v.toInt < 0)
    rw [hn]
    simp only [deserializeF64, hv]

theorem deserializeU64_ofInt64 {v : Int64} (h : 0 ≤ v.toInt) :
    deserializeU64 (Json.ofInt64 v) = .ok v.toUInt64 := by
  rw [ofInt64_nonneg h]
  conv_rhs => rw [← ofNat_toInt h, Int64.toUInt64_ofNat']
  rfl

theorem deserializeU64_count32 (n : Counter32) :
    deserializeU64 (count32 n) = .ok (asU64 n) :=
  deserializeU64_ofInt64 (by simpa using n.2)

/-- A 32-bit average is exact as a floating-point number. -/
theorem asF64_toInt (n : Counter32) : asF64 n.1.toInt = (n.1.toInt : Rat) := by
  have hlt := Int32.toInt_lt n.1
  have hn : 0 ≤ n.1.toInt := n.2
  have hr : roundF64 n.1.toInt.natAbs = n.1.toInt.natAbs := by
    have hlog : n.1.toInt.natAbs.log2 - 52 = 0 := by
      rcases Nat.eq_zero_or_pos n.1.toInt.natAbs with h0 | hpos
      · simp [h0]
      · have := (Nat.log2_lt (by omega)).mpr (by omega : n.1.toInt.natAbs < 2 ^ 53)
        omega
    simp [roundF64, hlog]
  unfold asF64
  rw [hr, Int.sign_mul_natAbs]

theorem deserializeF64_average {es : List (String × Json)} {name : String} {n : Counter32}
    (h : HasAverage es name n) :
    Json.field deserializeF64 name es = .ok (asF64 n.1.toInt) := by
  rcases h with h | h
  · unfold Json.field
    rw [Json.optField_some h, count32, deserializeF64_ofInt64]
    simp [Except.map]
  · unfold Json.field
    rw [Json.optField_some h, asF64_toInt]
    rfl

/-- A number of the server's that fits the client's `i64`. -/
theorem deserializeI64_numberJson {n : UInt64} :
    deserializeI64 (numberJson (some n)) =
      if n.toNat < 2 ^ 63 then .ok n.toInt64 else .error (.outOfRange "i64") := by
  simp only [numberJson, Json.ofUInt64, deserializeI64]
  split
  · rw [← UInt64.toInt64_ofNat', UInt64.ofNat_toNat]
  · rfl

/-! ## Reading the forms -/

section

variable {A : Type} {decode : Json.Decoder A} {es : List (String × Json)} {name : String} {j : Json}

theorem field_has (h : Has es name j) : Json.field decode name es = decode j := by
  unfold Json.field
  rw [Json.optField_some h]
  cases decode j <;> rfl

theorem fieldOr_has {d : A} (h : Has es name j) : Json.fieldOr d decode name es = decode j := by
  unfold Json.fieldOr
  rw [Json.optField_some h]
  cases decode j <;> rfl

theorem fieldOr_none {d : A} (h : Json.values name es = []) :
    Json.fieldOr d decode name es = .ok d := by
  unfold Json.fieldOr
  rw [Json.optField_none h]
  rfl

theorem mapM_forall₂ {B : Type} {R : B → Json → Prop} {f : B → A} {l : List B} {js : List Json}
    (h : List.Forall₂ R l js) (hd : ∀ b j, R b j → decode j = .ok (f b)) :
    js.mapM decode = .ok (l.map f) := by
  induction h with
  | nil => rfl
  | cons hr _ ih =>
    rw [List.mapM_cons, hd _ _ hr, ih]
    rfl

theorem fieldOr_hasList {B : Type} {R : B → Json → Prop} {f : B → A} {l : List B} {e : String}
    (h : HasList es name R l) (hd : ∀ b j, R b j → decode j = .ok (f b)) :
    Json.fieldOr [] (deserializeSeq decode e) name es = .ok (l.map f) := by
  rcases h with ⟨js, hj, hl⟩ | ⟨hn, rfl⟩
  · rw [fieldOr_has hj]
    exact mapM_forall₂ hl hd
  · rw [fieldOr_none hn]
    rfl

theorem defaultField_hasOther (h : HasOther es name) :
    ∃ o, defaultField (deserializeOption deserializeString) name es = .ok o := by
  rcases h with h | h | ⟨t, h⟩
  · exact ⟨none, fieldOr_none h⟩
  · exact ⟨none, fieldOr_has h⟩
  · exact ⟨some t, fieldOr_has h⟩

end

theorem deserializeKeyValue_json (m : String × Int64) :
    deserializeKeyValue (keyValueJson m) = .ok m := by
  have hk : Has [("key", .string m.1), ("value", Json.ofInt64 m.2)] "key" (.string m.1) := by
    simp [Has, Json.values]
  have hv : Has [("key", .string m.1), ("value", Json.ofInt64 m.2)] "value" (Json.ofInt64 m.2) := by
    simp [Has, Json.values]
  simp only [deserializeKeyValue, keyValueJson, deserializeStruct]
  rw [field_has hk, field_has hv, deserializeI64_ofInt64]
  rfl

theorem measurements_form {es : List (String × Json)} {l : List (String × Int64)}
    (h : HasList es "extraStatistics" (fun m j => j = keyValueJson m) l) :
    Json.fieldOr ∅ deserializeMeasurements "extraStatistics" es = .ok (collect l) := by
  have hd : ∀ m j, j = keyValueJson m → deserializeKeyValue j = .ok (id m) := by
    rintro m j rfl
    exact deserializeKeyValue_json m
  rcases h with ⟨js, hj, hl⟩ | ⟨hn, rfl⟩
  · rw [fieldOr_has hj]
    have hm : js.mapM deserializeKeyValue = .ok (l.map id) := mapM_forall₂ hl hd
    simp only [deserializeMeasurements, deserializeSeq, hm, List.map_id, Except.map]
  · exact fieldOr_none hn

/-- The decoders agree on a connection. -/
theorem connection_form {c : ConnectionSnapshot} {es : List (String × Json)}
    (h : ConnectionForm c es) :
    PersistentSubscriptionConnectionInfo.deserialize (.object es) =
      .ok (PersistentSubscriptionConnectionInfo.from c.toGrpc) := by
  simp only [PersistentSubscriptionConnectionInfo.deserialize, deserializeStruct]
  rw [field_has h.fromAddress, field_has h.username, deserializeF64_average h.average,
    field_has h.totalItems, field_has h.countSince, field_has h.availableSlots,
    field_has h.inFlight, field_has h.connectionName, measurements_form h.measurements,
    deserializeU64_ofInt64 c.totalItems.2, deserializeU64_ofInt64 c.countSinceLastMeasurement.2,
    deserializeU64_count32, deserializeU64_count32]
  rfl

/-! ## What both decoders make of a snapshot -/

theorem startText_mem (x : StreamSnapshot) : x.startText ∈ x.start.texts := by
  cases x with
  | regular name hname c k startAt | all c k startAt =>
    cases startAt <;> simp [StreamSnapshot.startText, StreamSnapshot.start, StreamPosition.texts]

theorem parse_startText (x : StreamSnapshot) :
    parseStreamPosition x.startText = .ok x.start.place :=
  StreamPosition.parseStreamPosition_texts (startText_mem x)

section

variable {A : Type}

def agreedSettings (s : Snapshot) (startFrom : StreamPosition A) (strategy : SystemConsumerStrategy) :
    PersistentSubscriptionSettings A where
  resolveLinkTos := s.resolveLinkTos
  startFrom
  extraStatistics := s.extraStatistics
  messageTimeout := .fromMillis (asU64 s.messageTimeout).toNat
  maxRetryCount := s.maxRetryCount
  liveBufferSize := s.liveBufferSize
  readBatchSize := s.readBatchSize
  historyBufferSize := s.bufferSize
  checkpointAfter := .fromMillis (asU64 s.checkPointAfter).toNat
  checkpointLowerBound := s.minCheckPointCount
  checkpointUpperBound := s.maxCheckPointCount
  maxSubscriberCount := s.maxSubscriberCount
  consumerStrategyName := strategy

/-- How far a decoder finds the subscription: the number and the position checkpointed, and
those known last. -/
structure Reached where
  checkpointed : Option UInt64 × Option Position
  lastKnown : Option UInt64 × Option Position

def agreedStats (s : Snapshot) (r : Reached) : PersistentSubscriptionStats where
  averagePerSecond := asF64 s.averagePerSecond.1.toInt
  totalItems := s.totalItems.1.toUInt64
  countSinceLastMeasurement := s.countSinceLastMeasurement.1.toUInt64
  lastCheckpointedEventRevision := r.checkpointed.1
  lastKnownEventRevision := r.lastKnown.1
  lastCheckpointedPosition := r.checkpointed.2
  lastKnownPosition := r.lastKnown.2
  readBufferCount := asU64 s.readBufferCount
  liveBufferCount := s.liveBufferCount.1.toUInt64
  retryBufferCount := asU64 s.retryBufferCount
  totalInFlightMessages := asU64 s.totalInFlightMessages
  outstandingMessagesCount := asU64 s.outstandingMessagesCount
  parkedMessageCount := s.parkedMessageCount.1.toUInt64

def agreedInfo (s : Snapshot) (startFrom : StreamPosition A) (strategy : SystemConsumerStrategy)
    (r : Reached) : PersistentSubscriptionInfo A where
  eventSource := s.source.name
  groupName := s.groupName
  status := s.status
  connections := s.connections.map fun c => .from c.toGrpc
  settings := some (agreedSettings s startFrom strategy)
  stats := agreedStats s r

theorem agreedInfo_inj {s : Snapshot} {p : StreamPosition A} {t t' : SystemConsumerStrategy}
    {r r' : Reached} (h : agreedInfo s p t r = agreedInfo s p t' r') : r = r' := by
  have hs : agreedStats s r = agreedStats s r' := congrArg PersistentSubscriptionInfo.stats h
  simp only [agreedStats, PersistentSubscriptionStats.mk.injEq, true_and, and_true] at hs
  obtain ⟨h1, h2, h3, h4⟩ := hs
  obtain ⟨⟨c1, c2⟩, ⟨k1, k2⟩⟩ := r
  obtain ⟨⟨c1', c2'⟩, ⟨k1', k2'⟩⟩ := r'
  simp_all

variable {select : RevisionOrPosition → Call A} {s : Snapshot} {p : StreamPosition A}

/-- The message always decodes. -/
theorem decodeGrpc_snapshot (hp : s.source.start.place.map select = .ret p) :
    decodeGrpc select s.toGrpc = .ret (.ok (agreedInfo s p (.fromString s.namedConsumerStrategy)
      ⟨placeOf s.source.checkpointedText, placeOf s.source.lastKnownText⟩)) := by
  have htry : PersistentSubscriptionInfo.tryFrom s.toGrpc =
      .ok (agreedInfo s s.source.start.place (.fromString s.namedConsumerStrategy)
        ⟨placeOf s.source.checkpointedText, placeOf s.source.lastKnownText⟩) := by
    simp only [PersistentSubscriptionInfo.tryFrom, Snapshot.toGrpc, parse_startText]
    simp only [agreedInfo, List.map_map]
    rfl
  unfold decodeGrpc
  rw [htry]
  simp only [PersistentSubscriptionInfo.map, agreedInfo, PersistentSubscriptionSettings.map,
    agreedSettings, hp]
  rfl

def decodedConfig (s : Snapshot) (startFrom : StreamPosition RevisionOrPosition)
    (startPosition : String) (preferRoundRobin : Bool) (strategy : SystemConsumerStrategy) :
    PersistentSubscriptionConfig where
  resolveLinktos := s.resolveLinkTos
  startFrom
  startPosition
  messageTimeoutMilliseconds := s.messageTimeout.toInt64
  extraStatistics := s.extraStatistics
  maxRetryCount := s.maxRetryCount.toInt64
  liveBufferSize := s.liveBufferSize.toInt64
  bufferSize := s.bufferSize.toInt64
  readBatchSize := s.readBatchSize.toInt64
  preferRoundRobin
  checkpointAfterMilliseconds := s.checkPointAfter.toInt64
  minCheckpointCount := s.minCheckPointCount.toInt64
  maxCheckpointCount := s.maxCheckPointCount.toInt64
  maxSubscriberCount := s.maxSubscriberCount.toInt64
  namedConsumerStrategy := strategy

/-- The field the start position is read from holds it. -/
def StartsAt (s : Snapshot) (startFrom : StreamPosition RevisionOrPosition) (startPosition : String) :
    Prop :=
  if s.source.name = "$all" then parseStreamPosition startPosition = .ok s.source.start.place
  else startFrom = s.source.start.place

theorem deserialize_ofInt64 (v : Int64) :
    ∃ q, StreamPosition.deserialize (Json.ofInt64 v) = .ok q := by
  by_cases h : 0 ≤ v.toInt
  · exact ⟨_, by rw [ofInt64_nonneg h]; rfl⟩
  · obtain ⟨n, hn, -⟩ := ofInt64_neg (by omega : v.toInt < 0)
    exact ⟨_, by rw [hn]; rfl⟩

theorem startFrom_form {x : StreamSnapshot} {cs : List (String × Json)} (h : x.StartFromForm cs) :
    ∃ q, Json.field StreamPosition.deserialize "startFrom" cs = .ok q ∧
      (x.name ≠ "$all" → q = x.start.place) := by
  match x, h with
  | .regular _ _ _ _ .start, h | .regular _ _ _ _ .end, h =>
    exact ⟨_, (field_has h).trans rfl, fun _ => rfl⟩
  | .regular _ _ _ _ (.position r), h =>
    exact ⟨_, (field_has h).trans (StreamPosition.deserialize_serialize (.position (.revision r))),
      fun _ => rfl⟩
  | .all _ _ _, ⟨v, h⟩ =>
    obtain ⟨q, hq⟩ := deserialize_ofInt64 v
    exact ⟨q, (field_has h).trans hq, fun hne => absurd rfl hne⟩

theorem startPosition_form {x : StreamSnapshot} {cs : List (String × Json)}
    (h : x.StartPositionForm cs) :
    ∃ t, Json.fieldOr "" deserializeString "startPosition" cs = .ok t ∧
      (x.name = "$all" → t = x.startText) := by
  match x, h with
  | .regular _ hname _ _ _, .inl h => exact ⟨"", fieldOr_none h, fun he => absurd he hname⟩
  | .regular _ hname _ _ _, .inr ⟨t, h⟩ => exact ⟨t, fieldOr_has h, fun he => absurd he hname⟩
  | .all _ _ _, h => exact ⟨_, fieldOr_has h, fun _ => rfl⟩

theorem config_form {cs : List (String × Json)} (h : ConfigForm s cs) :
    ∃ q t b, StartsAt s q t ∧ PersistentSubscriptionConfig.deserialize (.object cs) =
      (SystemConsumerStrategy.deserialize (.string s.namedConsumerStrategy)).map
        (decodedConfig s q t b) := by
  obtain ⟨q, hq, hreg⟩ := startFrom_form h.startFrom
  obtain ⟨t, ht, hall⟩ := startPosition_form h.startPosition
  obtain ⟨b, hb⟩ := h.preferRoundRobin
  refine ⟨q, t, b, ?_, ?_⟩
  · unfold StartsAt
    split
    · next hn => rw [hall hn]; exact parse_startText _
    · next hn => exact hreg hn
  · simp only [PersistentSubscriptionConfig.deserialize, deserializeStruct]
    rw [field_has h.resolveLinktos, hq, ht, field_has h.messageTimeout, field_has h.extraStatistics,
      field_has h.maxRetryCount, field_has h.liveBufferSize, field_has h.bufferSize,
      field_has h.readBatchSize, field_has hb, field_has h.checkPointAfter,
      field_has h.minCheckPointCount, field_has h.maxCheckPointCount,
      field_has h.maxSubscriberCount, field_has h.strategy]
    simp only [count32, deserializeI64_ofInt64]
    cases SystemConsumerStrategy.deserialize (.string s.namedConsumerStrategy) <;> rfl

/-- The settings over HTTP, once the JSON has been decoded. -/
theorem httpSettings_decoded {q : StreamPosition RevisionOrPosition} {t : String} {b : Bool}
    {strategy : SystemConsumerStrategy} (hs : StartsAt s q t)
    (hp : s.source.start.place.map select = .ret p) :
    httpSettings select s.source.name (decodedConfig s q t b strategy) =
      .ret (.ok (agreedSettings s p strategy)) := by
  have hstart : httpStartFrom select s.source.name (decodedConfig s q t b strategy) =
      .ret (.ok p) := by
    unfold StartsAt at hs
    unfold httpStartFrom
    split at hs
    · next hn =>
      rw [if_pos hn]
      simp only [decodedConfig, hs, hp]
      rfl
    · next hn =>
      rw [if_neg hn]
      simp only [decodedConfig, hs, hp]
      rfl
  unfold httpSettings
  rw [hstart]
  simp [decodedConfig, agreedSettings, asU64]

def decodedInfo (s : Snapshot) (v w : Int64) (o o' : Option String) (n : UInt64)
    (c : PersistentSubscriptionConfig) : PersistentSubscriptionInfoHttpJson where
  eventStreamId := s.source.name
  groupName := s.groupName
  status := s.status
  averageItemsPerSecond := asF64 s.averagePerSecond.1.toInt
  totalItemsProcessed := s.totalItems.1.toUInt64
  lastProcessedEventNumber := v
  lastCheckpointedEventPosition := o
  lastKnownEventPosition := o'
  lastKnownEventNumber := w
  connectionCount := n
  totalInFlightMessages := asU64 s.totalInFlightMessages
  config := some c
  readBufferCount := asU64 s.readBufferCount
  liveBufferCount := s.liveBufferCount.1.toUInt64
  retryBufferCount := asU64 s.retryBufferCount
  outstandingMessagesCount := asU64 s.outstandingMessagesCount
  parkedMessageCount := s.parkedMessageCount.1.toUInt64
  countSinceLastMeasurement := s.countSinceLastMeasurement.1.toUInt64
  connections := s.connections.map fun c => .from c.toGrpc

/-- What the decoder finds in the fields about how far the subscription has got. -/
def StreamSnapshot.Found (V W : Except DeError Int64) (o o' : Option String) :
    StreamSnapshot → Prop
  | regular _ _ c k _ => V = deserializeI64 (numberJson c) ∧ W = deserializeI64 (numberJson k)
  | all c k _ => (∃ v, V = .ok v) ∧ (∃ w, W = .ok w) ∧ o = some (positionText c) ∧
      o' = some (positionText k)

theorem reached_form {x : StreamSnapshot} {es : List (String × Json)} (h : x.ReachedForm es) :
    ∃ o o', defaultField (deserializeOption deserializeString) "lastCheckpointedEventPosition" es =
        .ok o ∧
      defaultField (deserializeOption deserializeString) "lastKnownEventPosition" es = .ok o' ∧
      x.Found (Json.field deserializeI64 "lastProcessedEventNumber" es)
        (Json.field deserializeI64 "lastKnownEventNumber" es) o o' := by
  match x, h with
  | .regular _ _ c k _, ⟨hc, hk, hc', hk'⟩ =>
    obtain ⟨o, ho⟩ := defaultField_hasOther hc'
    obtain ⟨o', ho'⟩ := defaultField_hasOther hk'
    exact ⟨o, o', ho, ho', field_has hc, field_has hk⟩
  | .all c k _, ⟨⟨v, hv⟩, ⟨w, hw⟩, hc, hk⟩ =>
    exact ⟨_, _, fieldOr_has hc, fieldOr_has hk,
      ⟨v, (field_has hv).trans (deserializeI64_ofInt64 v)⟩,
      ⟨w, (field_has hw).trans (deserializeI64_ofInt64 w)⟩, rfl, rfl⟩

/-- The JSON decodes unless a number or the strategy does not. -/
theorem info_form {es : List (String × Json)} (h : HttpForm s es) :
    ∃ V W o o' n q t b, StartsAt s q t ∧ s.source.Found V W o o' ∧
      PersistentSubscriptionInfoHttpJson.deserialize (.object es) = (do
        let v ← V
        let w ← W
        let strategy ← SystemConsumerStrategy.deserialize (.string s.namedConsumerStrategy)
        return decodedInfo s v w o o' n (decodedConfig s q t b strategy)) := by
  obtain ⟨o, o', ho, ho', hfound⟩ := reached_form h.reached
  obtain ⟨cs, hcs, hform⟩ := h.config
  obtain ⟨q, t, b, hstart, hconfig⟩ := config_form hform
  obtain ⟨n, hn⟩ : ∃ n, Json.fieldOr 0 deserializeU64 "connectionCount" es = .ok n := by
    rcases h.connectionCount with hn | ⟨n, hn⟩
    · exact ⟨0, fieldOr_none hn⟩
    · exact ⟨n, fieldOr_has hn⟩
  have hconn : ∀ (c : ConnectionSnapshot) j, (∃ cs, j = .object cs ∧ ConnectionForm c cs) →
      PersistentSubscriptionConnectionInfo.deserialize j = .ok (.from c.toGrpc) := by
    rintro c j ⟨cs, rfl, hc⟩
    exact connection_form hc
  have hc : defaultField (deserializeOption PersistentSubscriptionConfig.deserialize) "config" es =
      ((SystemConsumerStrategy.deserialize (.string s.namedConsumerStrategy)).map
        (decodedConfig s q t b)).map some :=
    (fieldOr_has hcs).trans (congrArg (Except.map some) hconfig)
  refine ⟨_, _, o, o', n, q, t, b, hstart, hfound, ?_⟩
  simp only [PersistentSubscriptionInfoHttpJson.deserialize, deserializeStruct]
  rw [field_has h.eventStreamId, field_has h.groupName, field_has h.status,
    deserializeF64_average h.average, field_has h.totalItems, ho, ho', hn, field_has h.totalInFlight,
    hc, fieldOr_has h.readBufferCount, fieldOr_has h.liveBufferCount,
    fieldOr_has h.retryBufferCount, fieldOr_has h.outstanding, fieldOr_has h.parked,
    fieldOr_has h.countSince, fieldOr_hasList h.connections hconn]
  simp only [deserializeU64_ofInt64 s.totalItems.2, deserializeU64_ofInt64 s.liveBufferCount.2,
    deserializeU64_ofInt64 s.parkedMessageCount.2, deserializeU64_count32,
    deserializeU64_ofInt64 s.countSinceLastMeasurement.2]
  cases Json.field deserializeI64 "lastProcessedEventNumber" es with
  | error e => rfl
  | ok v =>
    cases Json.field deserializeI64 "lastKnownEventNumber" es with
    | error e => rfl
    | ok w =>
      cases SystemConsumerStrategy.deserialize (.string s.namedConsumerStrategy) with
      | error e => rfl
      | ok strategy => rfl

/-- How far the subscription is found to have got over HTTP. -/
def StreamSnapshot.HttpReached (r : Reached) : StreamSnapshot → Prop
  | regular _ _ c k _ => ∃ v w, deserializeI64 (numberJson c) = .ok v ∧
      deserializeI64 (numberJson k) = .ok w ∧
      r = ⟨(some v.toUInt64, none), (some w.toUInt64, none)⟩
  | all c k _ => ∃ x y, parsePosition (positionText c) = .ok x ∧
      parsePosition (positionText k) = .ok y ∧ r = ⟨(none, some x), (none, some y)⟩

theorem httpStats_regular {v w : Int64} {o o' : Option String} {n : UInt64}
    {c : PersistentSubscriptionConfig} (h : s.source.name ≠ "$all") :
    httpStats (decodedInfo s v w o o' n c) =
      .ok (agreedStats s ⟨(some v.toUInt64, none), (some w.toUInt64, none)⟩) := by
  have hn : (decodedInfo s v w o o' n c).eventStreamId ≠ "$all" := h
  simp only [httpStats, if_neg hn]
  rfl

theorem httpStats_all {v w : Int64} {a b : String} {n : UInt64} {c : PersistentSubscriptionConfig}
    (h : s.source.name = "$all") :
    httpStats (decodedInfo s v w (some a) (some b) n c) = (do
      let x ← parsePosition a
      let y ← parsePosition b
      return agreedStats s ⟨(none, some x), (none, some y)⟩) := by
  have hn : (decodedInfo s v w (some a) (some b) n c).eventStreamId = "$all" := h
  simp only [httpStats, if_pos hn]
  simp only [decodedInfo, httpPosition]
  cases parsePosition a with
  | error e => rfl
  | ok x =>
    cases parsePosition b with
    | error e => rfl
    | ok y => rfl

theorem fromHttpInfo_decoded {q : StreamPosition RevisionOrPosition} {t : String} {b : Bool}
    {strategy : SystemConsumerStrategy} {v w : Int64} {o o' : Option String} {n : UInt64}
    (hs : StartsAt s q t) (hp : s.source.start.place.map select = .ret p) :
    fromHttpInfo select (decodedInfo s v w o o' n (decodedConfig s q t b strategy)) =
      match httpStats (decodedInfo s v w o o' n (decodedConfig s q t b strategy)) with
      | .error e => .ret (.error e)
      | .ok stats => .ret (.ok { agreedInfo s p strategy ⟨(none, none), (none, none)⟩ with stats }) := by
  have hconfig : httpConfig select s.source.name (some (decodedConfig s q t b strategy)) =
      .ret (.ok (some (agreedSettings s p strategy))) := by
    simp only [httpConfig, httpSettings_decoded hs hp]
    rfl
  unfold fromHttpInfo
  rw [show (decodedInfo s v w o o' n (decodedConfig s q t b strategy)).eventStreamId =
    s.source.name from rfl, show (decodedInfo s v w o o' n (decodedConfig s q t b strategy)).config =
    some (decodedConfig s q t b strategy) from rfl, hconfig]
  simp only [Call.ret_bind]
  cases httpStats (decodedInfo s v w o o' n (decodedConfig s q t b strategy)) <;> rfl

/-- A decoded subscription is one with the strategy and the place that were found. -/
theorem agreed_iff {strategy : SystemConsumerStrategy} {r₀ : Reached}
    (hr : ∀ r, s.source.HttpReached r ↔ r = r₀) {info : PersistentSubscriptionInfo A} :
    (.ret (.ok (agreedInfo s p strategy r₀)) : Call (Except Error _)) = .ret (.ok info) ↔
      ∃ strategy' r, (.ok strategy : Except DeError _) = .ok strategy' ∧
        s.source.HttpReached r ∧ info = agreedInfo s p strategy' r := by
  simp only [Call.ret.injEq, Except.ok.injEq, hr]
  constructor
  · rintro rfl
    exact ⟨strategy, r₀, rfl, rfl, rfl⟩
  · rintro ⟨_, _, rfl, rfl, rfl⟩
    rfl

/-- **What the JSON decodes to.** -/
theorem decodeHttp_eq_iff {es : List (String × Json)} {display : DeError → String}
    (h : HttpForm s es) (hp : s.source.start.place.map select = .ret p)
    {info : PersistentSubscriptionInfo A} :
    decodeHttp select display (.object es) = .ret (.ok info) ↔
      ∃ strategy r, SystemConsumerStrategy.deserialize (.string s.namedConsumerStrategy) =
        .ok strategy ∧ s.source.HttpReached r ∧ info = agreedInfo s p strategy r := by
  obtain ⟨V, W, o, o', n, q, t, b, hs, hfound, hdec⟩ := info_form h
  unfold decodeHttp
  rw [hdec]
  cases SystemConsumerStrategy.deserialize (.string s.namedConsumerStrategy) with
  | error e =>
    refine iff_of_false ?_ (by simp)
    cases V with
    | error e' => exact nofun
    | ok v =>
      cases W with
      | error e' => exact nofun
      | ok w => exact nofun
  | ok strategy =>
    cases hx : s.source with
    | regular name hname c k startAt =>
      rw [hx] at hfound
      obtain ⟨rfl, rfl⟩ := hfound
      have hne : s.source.name ≠ "$all" := by rw [hx]; exact hname
      cases hv : deserializeI64 (numberJson c) with
      | error e => exact iff_of_false nofun (by simp [StreamSnapshot.HttpReached, hv])
      | ok v =>
        cases hw : deserializeI64 (numberJson k) with
        | error e => exact iff_of_false nofun (by simp [StreamSnapshot.HttpReached, hw])
        | ok w =>
          show fromHttpInfo select (decodedInfo s v w o o' n _) = _ ↔ _
          rw [fromHttpInfo_decoded hs hp, httpStats_regular hne, ← hx]
          refine agreed_iff fun r => ?_
          simp [hx, StreamSnapshot.HttpReached, hv, hw]
    | all c k startAt =>
      rw [hx] at hfound
      obtain ⟨⟨v, rfl⟩, ⟨w, rfl⟩, rfl, rfl⟩ := hfound
      have hname : s.source.name = "$all" := by rw [hx]; rfl
      show fromHttpInfo select (decodedInfo s v w _ _ n _) = _ ↔ _
      rw [fromHttpInfo_decoded hs hp, httpStats_all hname]
      cases hc : parsePosition (positionText c) with
      | error e => exact iff_of_false nofun (by simp [StreamSnapshot.HttpReached, hc])
      | ok x =>
        cases hk : parsePosition (positionText k) with
        | error e => exact iff_of_false nofun (by simp [StreamSnapshot.HttpReached, hk])
        | ok y =>
          rw [← hx]
          refine agreed_iff fun r => ?_
          simp [hx, StreamSnapshot.HttpReached, hc, hk]

end

/-! ## Agreement -/

/-- The strategies that are not the user's own. -/
def Builtin (name : String) : Prop :=
  name ∈ ["DispatchToSingle", "RoundRobin", "Pinned", "PinnedByCorrelation"]

theorem deserialize_strategy {name : String} {strategy : SystemConsumerStrategy}
    (h : SystemConsumerStrategy.deserialize (.string name) = .ok strategy) : Builtin name := by
  unfold Builtin
  unfold SystemConsumerStrategy.deserialize at h
  split at h <;> simp_all

theorem deserialize_builtin {name : String} (h : Builtin name) :
    SystemConsumerStrategy.deserialize (.string name) = .ok (.fromString name) := by
  simp only [Builtin, List.mem_cons, List.not_mem_nil, or_false] at h
  rcases h with rfl | rfl | rfl | rfl <;> rfl

/-- Something has been checkpointed, something is known, and event numbers fit an `i64`. -/
def StreamSnapshot.Started : StreamSnapshot → Prop
  | regular _ _ c k _ => (∃ n, c = some n ∧ n.toNat < 2 ^ 63) ∧ ∃ n, k = some n ∧ n.toNat < 2 ^ 63
  | all c k _ => c ≠ none ∧ k ≠ none

theorem placeOf_number (n : UInt64) : placeOf (numberText (some n)) = (some n, none) := by
  simp only [placeOf, numberText, parseRevisionOrPosition_repr]

theorem placeOf_position (p : Position) : placeOf (positionText (some p)) = (none, some p) := by
  simp only [placeOf, positionText, parseRevisionOrPosition_text]

/-- A number is read alike over HTTP and over gRPC. -/
theorem number_agrees_iff {o : Option UInt64} :
    (∃ v, deserializeI64 (numberJson o) = .ok v ∧ placeOf (numberText o) = (some v.toUInt64, none)) ↔
      ∃ n, o = some n ∧ n.toNat < 2 ^ 63 := by
  cases o with
  | none =>
    refine iff_of_false ?_ (by simp)
    rintro ⟨v, -, hp⟩
    have hnone : placeOf (numberText none) = (none, none) := by decide
    rw [hnone] at hp
    cases hp
  | some n =>
    rw [deserializeI64_numberJson, placeOf_number]
    by_cases hn : n.toNat < 2 ^ 63
    · rw [if_pos hn]
      exact iff_of_true ⟨_, rfl, by simp⟩ ⟨n, rfl, hn⟩
    · rw [if_neg hn]
      refine iff_of_false (by simp) ?_
      rintro ⟨m, hm, hlt⟩
      cases hm
      exact hn hlt

theorem position_agrees_iff {o : Option Position} :
    (∃ x, parsePosition (positionText o) = .ok x ∧ placeOf (positionText o) = (none, some x)) ↔
      o ≠ none := by
  cases o with
  | none =>
    refine iff_of_false ?_ (by simp)
    rintro ⟨x, hx, -⟩
    have hbad : (parsePosition (positionText none)).toOption = none := by decide
    rw [hx] at hbad
    cases hbad
  | some p =>
    refine iff_of_true ⟨p, ?_, placeOf_position p⟩ nofun
    exact parsePosition_text p

theorem reached_agrees_iff (x : StreamSnapshot) :
    x.HttpReached ⟨placeOf x.checkpointedText, placeOf x.lastKnownText⟩ ↔ x.Started := by
  cases x with
  | regular name hname c k startAt =>
    simp only [StreamSnapshot.Started, ← number_agrees_iff, StreamSnapshot.HttpReached,
      StreamSnapshot.checkpointedText, StreamSnapshot.lastKnownText, Reached.mk.injEq]
    constructor
    · rintro ⟨v, w, hv, hw, hc, hk⟩
      exact ⟨⟨v, hv, hc⟩, ⟨w, hw, hk⟩⟩
    · rintro ⟨⟨v, hv, hc⟩, ⟨w, hw, hk⟩⟩
      exact ⟨v, w, hv, hw, hc, hk⟩
  | all c k startAt =>
    simp only [StreamSnapshot.Started, ← position_agrees_iff, StreamSnapshot.HttpReached,
      StreamSnapshot.checkpointedText, StreamSnapshot.lastKnownText, Reached.mk.injEq]
    constructor
    · rintro ⟨v, w, hv, hw, hc, hk⟩
      exact ⟨⟨v, hv, hc⟩, ⟨w, hw, hk⟩⟩
    · rintro ⟨⟨v, hv, hc⟩, ⟨w, hw, hk⟩⟩
      exact ⟨v, w, hv, hw, hc, hk⟩

/-- The selector takes the kind of position this stream has. -/
def StreamSnapshot.Selects {A : Type} (select : RevisionOrPosition → Call A) : StreamSnapshot → Prop
  | regular _ _ _ _ _ => ∀ r, ∃ a, select (.revision r) = .ret a
  | all _ _ _ => ∀ p, ∃ a, select (.position p) = .ret a

theorem selects_start {A : Type} {select : RevisionOrPosition → Call A} {x : StreamSnapshot}
    (h : x.Selects select) : ∃ p, x.start.place.map select = .ret p := by
  have hplace : x.start.place = .start ∨ x.start.place = x.start := by
    unfold StreamPosition.place
    split
    · exact .inl rfl
    · exact .inr rfl
  rcases hplace with hp | hp
  · exact ⟨_, by rw [hp]; rfl⟩
  · rw [hp]
    match x, h with
    | .regular _ _ _ _ .start, h | .regular _ _ _ _ .end, h | .all _ _ .start, h
    | .all _ _ .end, h => exact ⟨_, rfl⟩
    | .regular _ _ _ _ (.position r), h =>
      obtain ⟨a, ha⟩ := h r
      exact ⟨.position a, by simp only [StreamSnapshot.start, StreamPosition.map, ha]; rfl⟩
    | .all _ _ (.position p), h =>
      obtain ⟨a, ha⟩ := h p
      exact ⟨.position a, by simp only [StreamSnapshot.start, StreamPosition.map, ha]; rfl⟩

/-- **The two decoders agree exactly when** the subscription has checkpointed an event and
knows of one, its event numbers fit an `i64`, and its consumer strategy is a built-in one. -/
theorem info_decoders_agree_iff {A : Type} {select : RevisionOrPosition → Call A} {s : Snapshot}
    {es : List (String × Json)} {display : DeError → String} (hform : HttpForm s es)
    (hsel : s.source.Selects select) :
    (∃ info, decodeGrpc select s.toGrpc = .ret (.ok info) ∧
      decodeHttp select display (.object es) = .ret (.ok info)) ↔
      s.source.Started ∧ Builtin s.namedConsumerStrategy := by
  obtain ⟨p, hp⟩ := selects_start hsel
  rw [decodeGrpc_snapshot hp]
  constructor
  · rintro ⟨info, hg, hh⟩
    cases hg
    obtain ⟨strategy, r, hst, hr, heq⟩ := (decodeHttp_eq_iff hform hp).mp hh
    cases agreedInfo_inj heq
    exact ⟨(reached_agrees_iff _).mp hr, deserialize_strategy hst⟩
  · rintro ⟨hstarted, hname⟩
    exact ⟨_, rfl, (decodeHttp_eq_iff hform hp).mpr
      ⟨_, _, deserialize_builtin hname, (reached_agrees_iff _).mpr hstarted, rfl⟩⟩

/-- A subscription to `orders` without a connection. -/
def ordersSnapshot (checkpointed lastKnown : Option UInt64) : Snapshot where
  source := .regular "orders" (by decide) checkpointed lastKnown .start
  groupName := "billing"
  status := "Live"
  connections := []
  averagePerSecond := ⟨0, by decide⟩
  totalItems := ⟨6, by decide⟩
  countSinceLastMeasurement := ⟨0, by decide⟩
  resolveLinkTos := false
  messageTimeout := 30000
  extraStatistics := false
  maxRetryCount := 10
  liveBufferSize := 500
  bufferSize := 500
  readBatchSize := 20
  checkPointAfter := 2000
  minCheckPointCount := 10
  maxCheckPointCount := 1000
  readBufferCount := ⟨0, by decide⟩
  liveBufferCount := ⟨0, by decide⟩
  retryBufferCount := ⟨0, by decide⟩
  totalInFlightMessages := ⟨0, by decide⟩
  outstandingMessagesCount := ⟨0, by decide⟩
  namedConsumerStrategy := "RoundRobin"
  maxSubscriberCount := 0
  parkedMessageCount := ⟨0, by decide⟩

def ordersConfig : List (String × Json) :=
  [("resolveLinktos", .bool false), ("startFrom", Json.ofInt64 0),
    ("messageTimeoutMilliseconds", count32 30000), ("extraStatistics", .bool false),
    ("maxRetryCount", count32 10), ("liveBufferSize", count32 500), ("bufferSize", count32 500),
    ("readBatchSize", count32 20), ("preferRoundRobin", .bool true),
    ("checkPointAfterMilliseconds", count32 2000), ("minCheckPointCount", count32 10),
    ("maxCheckPointCount", count32 1000), ("maxSubscriberCount", count32 0),
    ("namedConsumerStrategy", .string "RoundRobin")]

def ordersJson (checkpointed lastKnown : Option UInt64) : List (String × Json) :=
  [("eventStreamId", .string "orders"), ("groupName", .string "billing"), ("status", .string "Live"),
    ("averageItemsPerSecond", .number (.float 0)), ("totalItemsProcessed", Json.ofInt64 6),
    ("lastProcessedEventNumber", numberJson checkpointed),
    ("lastKnownEventNumber", numberJson lastKnown), ("connectionCount", Json.ofUInt64 0),
    ("totalInFlightMessages", count32 0), ("config", .object ordersConfig),
    ("readBufferCount", count32 0), ("liveBufferCount", Json.ofInt64 0),
    ("retryBufferCount", count32 0), ("outstandingMessagesCount", count32 0),
    ("parkedMessageCount", Json.ofInt64 0), ("countSinceLastMeasurement", Json.ofInt64 0),
    ("connections", .array [])]

theorem ordersConfig_form (c k : Option UInt64) : ConfigForm (ordersSnapshot c k) ordersConfig where
  resolveLinktos := rfl
  startFrom := rfl
  startPosition := .inl rfl
  messageTimeout := rfl
  extraStatistics := rfl
  maxRetryCount := rfl
  liveBufferSize := rfl
  bufferSize := rfl
  readBatchSize := rfl
  preferRoundRobin := ⟨true, rfl⟩
  checkPointAfter := rfl
  minCheckPointCount := rfl
  maxCheckPointCount := rfl
  maxSubscriberCount := rfl
  strategy := rfl

theorem ordersJson_form (c k : Option UInt64) : HttpForm (ordersSnapshot c k) (ordersJson c k) where
  eventStreamId := rfl
  groupName := rfl
  status := rfl
  average := .inr rfl
  totalItems := rfl
  reached := ⟨rfl, rfl, .inl rfl, .inl rfl⟩
  connectionCount := .inr ⟨0, rfl⟩
  totalInFlight := rfl
  config := ⟨_, rfl, ordersConfig_form c k⟩
  readBufferCount := rfl
  liveBufferCount := rfl
  retryBufferCount := rfl
  outstanding := rfl
  parked := rfl
  countSince := rfl
  connections := .inl ⟨[], rfl, .nil⟩

theorem regular_selects (c k : Option UInt64) :
    (ordersSnapshot c k).source.Selects RegularStream.select := fun r => ⟨r, rfl⟩

theorem info_decoders_agree_orders :
    ∃ info, decodeGrpc RegularStream.select (ordersSnapshot (some 5) (some 7)).toGrpc =
        .ret (.ok info) ∧
      decodeHttp RegularStream.select (fun _ => "") (.object (ordersJson (some 5) (some 7))) =
        .ret (.ok info) :=
  (info_decoders_agree_iff (ordersJson_form _ _) (regular_selects _ _)).mpr
    ⟨⟨⟨5, rfl, by decide⟩, ⟨7, rfl, by decide⟩⟩, by simp [Builtin, ordersSnapshot]⟩

/-- A subscription that has processed nothing yet: over HTTP it has processed the last event
there can be. -/
theorem info_decoders_differ_before_start :
    HttpForm (ordersSnapshot none none) (ordersJson none none) ∧
    ∃ info info', decodeGrpc RegularStream.select (ordersSnapshot none none).toGrpc =
        .ret (.ok info) ∧
      decodeHttp RegularStream.select (fun _ => "") (.object (ordersJson none none)) =
        .ret (.ok info') ∧
      info.stats.lastCheckpointedEventRevision = none ∧
      info'.stats.lastCheckpointedEventRevision = some 18446744073709551615 := by
  have hp : (ordersSnapshot none none).source.start.place.map RegularStream.select =
      .ret .start := rfl
  have hv : deserializeI64 (numberJson none) = .ok (-1) := deserializeI64_ofInt64 _
  refine ⟨ordersJson_form _ _, _, _, decodeGrpc_snapshot hp,
    (decodeHttp_eq_iff (ordersJson_form _ _) hp).mpr
      ⟨.roundRobin, _, rfl, ⟨-1, -1, hv, hv, rfl⟩, rfl⟩, ?_, rfl⟩
  show (placeOf (numberText none)).1 = none
  decide

end Kurrent
