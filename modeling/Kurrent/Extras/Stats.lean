import Kurrent.Lib.Json
import Kurrent.Grpc.ConnectionString

/-!
# Server statistics

`parse_statistics` of the extras crate (`stats.rs`): a map of metric names and texts,
visited in the order the hash map happens to have, becomes a `Statistics` record. Most keys
set one field. The keys of the drives and of the queues name a part of the record, which
the first of them creates. Floating-point numbers and times are whatever their parsers in
`Numerals` make of a text; usizes have 64 bits.
-/

namespace Kurrent.Extras

open Lib

/-- The numbers and times of a metric, with `str::parse` for each. -/
structure Numerals where
  F64 : Type
  F32 : Type
  DateTime : Type
  parseF64 : String → Except String F64
  parseF32 : String → Except String F32
  parseDateTime : String → Except String DateTime
  zeroF64 : F64
  zeroF32 : F32
  unixEpoch : DateTime

variable (N : Numerals)

structure Gc where
  allocationSpeed : N.F64 := N.zeroF64
  gen0ItemsCount : Int := 0
  gen0Size : Int := 0
  gen1ItemsCount : Int := 0
  gen1Size : Int := 0
  gen2ItemsCount : Int := 0
  gen2Size : Int := 0
  largeHeapSize : Int := 0
  timeInGc : N.F64 := N.zeroF64
  totalBytesInHeaps : Int := 0

structure Tcp where
  connections : Int := 0
  receivingSpeed : N.F64 := N.zeroF64
  sendingSpeed : N.F64 := N.zeroF64
  inSend : Int := 0
  measureTime : String := ""
  pendingReceived : Int := 0
  pendingSend : Int := 0
  receivedBytesSinceLastRun : Int := 0
  receivedBytesTotal : Int := 0
  sentBytesSinceLastRun : Int := 0
  sentBytesTotal : Int := 0

structure DiskIo where
  readBytes : Int := 0
  writtenBytes : Int := 0
  readOps : Int := 0
  writeOps : Int := 0

structure Proc where
  id : Int := 0
  startTime : N.DateTime := N.unixEpoch
  mem : Int := 0
  cpu : N.F64 := N.zeroF64
  threadsCount : Int := 0
  thrownExceptionsRate : N.F64 := N.zeroF64
  contentionsRate : N.F64 := N.zeroF64
  gc : Gc N := {}
  diskIo : DiskIo := {}
  tcp : Tcp N := {}

structure LoadAvg where
  oneM : N.F64 := N.zeroF64
  fiveM : N.F64 := N.zeroF64
  fifteenM : N.F64 := N.zeroF64

structure DriveStats where
  availableBytes : Nat := 0
  totalBytes : Nat := 0
  usage : String := ""
  usedBytes : Nat := 0
  deriving DecidableEq, Repr

structure Drive where
  path : String
  stats : DriveStats := {}
  deriving DecidableEq, Repr

structure Sys where
  freeMem : Nat := 0
  loadavg : LoadAvg N := {}
  drive : Option Drive := none

structure Writer where
  lastFlushSize : Int := 0
  lastFlushDelaysMs : N.F64 := N.zeroF64
  meanFlushSize : Int := 0
  meanFlushDelaysMs : N.F64 := N.zeroF64
  maxFlushSize : Int := 0
  maxFlushDelaysMs : N.F64 := N.zeroF64
  queuedFlushMessages : Int := 0

structure ReadIndex where
  cachedRecord : Int := 0
  notCachedRecord : Int := 0
  cachedStreamInfo : Int := 0
  notCachedStreamInfo : Int := 0
  cachedTransInfo : Int := 0
  notCachedTransInfo : Int := 0

structure Queue where
  name : String := ""
  groupName : String := ""
  avgItemsPerSecond : Nat := 0
  currentIdleTime : Option String := none
  currentItemProcessingTime : Option String := none
  idleTimePercent : N.F32 := N.zeroF32
  lengthCurrentTryPeak : Int := 0
  lengthLifetimePeak : Int := 0
  length : Int := 0
  avgProcessingTime : N.F64 := N.zeroF64
  totalItemsProcessed : Int := 0
  inProgressMessage : String := ""
  lastProcessedMessage : String := ""

structure Es where
  queues : Finmap fun _ : String => Queue N := ∅
  checksum : Int := 0
  checksumNonFlushed : Int := 0
  writer : Writer N := {}
  readIndex : ReadIndex := {}

structure Statistics where
  proc : Proc N := {}
  sys : Sys N := {}
  es : Es N := {}

/-! ## One metric, one field -/

inductive GcMetric where
  | allocationSpeed (v : N.F64) | gen0ItemsCount (v : Int) | gen0Size (v : Int)
  | gen1ItemsCount (v : Int) | gen1Size (v : Int) | gen2ItemsCount (v : Int) | gen2Size (v : Int)
  | largeHeapSize (v : Int) | timeInGc (v : N.F64) | totalBytesInHeaps (v : Int)

inductive TcpMetric where
  | connections (v : Int) | receivingSpeed (v : N.F64) | sendingSpeed (v : N.F64)
  | inSend (v : Int) | measureTime (v : String) | pendingReceived (v : Int)
  | pendingSend (v : Int) | receivedBytesSinceLastRun (v : Int) | receivedBytesTotal (v : Int)
  | sentBytesSinceLastRun (v : Int) | sentBytesTotal (v : Int)

inductive DiskIoMetric where
  | readBytes (v : Int) | writtenBytes (v : Int) | readOps (v : Int) | writeOps (v : Int)

inductive ProcMetric where
  | startTime (v : N.DateTime) | id (v : Int) | mem (v : Int) | cpu (v : N.F64)
  | threadsCount (v : Int) | contentionsRate (v : N.F64) | thrownExceptionsRate (v : N.F64)
  | gc (m : GcMetric N) | diskIo (m : DiskIoMetric) | tcp (m : TcpMetric N)

inductive SysMetric where
  | oneM (v : N.F64) | fiveM (v : N.F64) | fifteenM (v : N.F64) | freeMem (v : Nat)

inductive WriterMetric where
  | lastFlushSize (v : Int) | lastFlushDelaysMs (v : N.F64) | meanFlushSize (v : Int)
  | meanFlushDelaysMs (v : N.F64) | maxFlushSize (v : Int) | maxFlushDelaysMs (v : N.F64)
  | queuedFlushMessages (v : Int)

inductive ReadIndexMetric where
  | cachedRecord (v : Int) | notCachedRecord (v : Int) | cachedStreamInfo (v : Int)
  | notCachedStreamInfo (v : Int) | cachedTransInfo (v : Int) | notCachedTransInfo (v : Int)

inductive EsMetric where
  | checksum (v : Int) | checksumNonFlushed (v : Int)
  | writer (m : WriterMetric N) | readIndex (m : ReadIndexMetric)

/-- A metric with a key of its own, and its value. -/
inductive Metric where
  | proc (m : ProcMetric N) | sys (m : SysMetric N) | es (m : EsMetric N)

variable {N}

namespace Statistics

def putGc (m : GcMetric N) (gc : Gc N) : Gc N :=
  match m with
  | .allocationSpeed v => { gc with allocationSpeed := v }
  | .gen0ItemsCount v => { gc with gen0ItemsCount := v }
  | .gen0Size v => { gc with gen0Size := v }
  | .gen1ItemsCount v => { gc with gen1ItemsCount := v }
  | .gen1Size v => { gc with gen1Size := v }
  | .gen2ItemsCount v => { gc with gen2ItemsCount := v }
  | .gen2Size v => { gc with gen2Size := v }
  | .largeHeapSize v => { gc with largeHeapSize := v }
  | .timeInGc v => { gc with timeInGc := v }
  | .totalBytesInHeaps v => { gc with totalBytesInHeaps := v }

def putTcp (m : TcpMetric N) (tcp : Tcp N) : Tcp N :=
  match m with
  | .connections v => { tcp with connections := v }
  | .receivingSpeed v => { tcp with receivingSpeed := v }
  | .sendingSpeed v => { tcp with sendingSpeed := v }
  | .inSend v => { tcp with inSend := v }
  | .measureTime v => { tcp with measureTime := v }
  | .pendingReceived v => { tcp with pendingReceived := v }
  | .pendingSend v => { tcp with pendingSend := v }
  | .receivedBytesSinceLastRun v => { tcp with receivedBytesSinceLastRun := v }
  | .receivedBytesTotal v => { tcp with receivedBytesTotal := v }
  | .sentBytesSinceLastRun v => { tcp with sentBytesSinceLastRun := v }
  | .sentBytesTotal v => { tcp with sentBytesTotal := v }

def putDiskIo (m : DiskIoMetric) (diskIo : DiskIo) : DiskIo :=
  match m with
  | .readBytes v => { diskIo with readBytes := v }
  | .writtenBytes v => { diskIo with writtenBytes := v }
  | .readOps v => { diskIo with readOps := v }
  | .writeOps v => { diskIo with writeOps := v }

def putProc (m : ProcMetric N) (proc : Proc N) : Proc N :=
  match m with
  | .startTime v => { proc with startTime := v }
  | .id v => { proc with id := v }
  | .mem v => { proc with mem := v }
  | .cpu v => { proc with cpu := v }
  | .threadsCount v => { proc with threadsCount := v }
  | .contentionsRate v => { proc with contentionsRate := v }
  | .thrownExceptionsRate v => { proc with thrownExceptionsRate := v }
  | .gc m => { proc with gc := putGc m proc.gc }
  | .diskIo m => { proc with diskIo := putDiskIo m proc.diskIo }
  | .tcp m => { proc with tcp := putTcp m proc.tcp }

def putSys (m : SysMetric N) (sys : Sys N) : Sys N :=
  match m with
  | .oneM v => { sys with loadavg := { sys.loadavg with oneM := v } }
  | .fiveM v => { sys with loadavg := { sys.loadavg with fiveM := v } }
  | .fifteenM v => { sys with loadavg := { sys.loadavg with fifteenM := v } }
  | .freeMem v => { sys with freeMem := v }

def putWriter (m : WriterMetric N) (writer : Writer N) : Writer N :=
  match m with
  | .lastFlushSize v => { writer with lastFlushSize := v }
  | .lastFlushDelaysMs v => { writer with lastFlushDelaysMs := v }
  | .meanFlushSize v => { writer with meanFlushSize := v }
  | .meanFlushDelaysMs v => { writer with meanFlushDelaysMs := v }
  | .maxFlushSize v => { writer with maxFlushSize := v }
  | .maxFlushDelaysMs v => { writer with maxFlushDelaysMs := v }
  | .queuedFlushMessages v => { writer with queuedFlushMessages := v }

def putReadIndex (m : ReadIndexMetric) (readIndex : ReadIndex) : ReadIndex :=
  match m with
  | .cachedRecord v => { readIndex with cachedRecord := v }
  | .notCachedRecord v => { readIndex with notCachedRecord := v }
  | .cachedStreamInfo v => { readIndex with cachedStreamInfo := v }
  | .notCachedStreamInfo v => { readIndex with notCachedStreamInfo := v }
  | .cachedTransInfo v => { readIndex with cachedTransInfo := v }
  | .notCachedTransInfo v => { readIndex with notCachedTransInfo := v }

def putEs (m : EsMetric N) (es : Es N) : Es N :=
  match m with
  | .checksum v => { es with checksum := v }
  | .checksumNonFlushed v => { es with checksumNonFlushed := v }
  | .writer m => { es with writer := putWriter m es.writer }
  | .readIndex m => { es with readIndex := putReadIndex m es.readIndex }

def put (stats : Statistics N) : Metric N → Statistics N
  | .proc m => { stats with proc := putProc m stats.proc }
  | .sys m => { stats with sys := putSys m stats.sys }
  | .es m => { stats with es := putEs m stats.es }

end Statistics

/-! ## Reading a metric -/

/-- What a metric's text is read to. -/
abbrev Reading (A : Type) := String → Except String A

def Reading.into {A B : Type} (read : Reading A) (mk : A → B) : Reading B :=
  fun value => (read value).map mk

/-- The text itself. -/
def Reading.raw : Reading String := .ok

/-- A negative amount of memory is none; one too large for an `i64` is read as an `usize`. -/
def readFreeMem : Reading Nat := fun value =>
  match parseSigned (2 ^ 63 - 1) value with
  | .ok v => .ok v.toNat
  | .error .negOverflow => .ok 0
  | .error .posOverflow => parseU64 value
  | .error e => .error (intErrorText e)

variable (N)

/-- The key a metric has in the map. -/
def Metric.key : Metric N → String
  | .proc (.startTime _) => "proc-startTime"
  | .proc (.id _) => "proc-id"
  | .proc (.mem _) => "proc-mem"
  | .proc (.cpu _) => "proc-cpu"
  | .proc (.threadsCount _) => "proc-threadsCount"
  | .proc (.contentionsRate _) => "proc-contentionsRate"
  | .proc (.thrownExceptionsRate _) => "proc-thrownExceptionsRate"
  | .proc (.gc (.allocationSpeed _)) => "proc-gc-allocationSpeed"
  | .proc (.gc (.gen0ItemsCount _)) => "proc-gc-gen0ItemsCount"
  | .proc (.gc (.gen0Size _)) => "proc-gc-gen0Size"
  | .proc (.gc (.gen1ItemsCount _)) => "proc-gc-gen1ItemsCount"
  | .proc (.gc (.gen1Size _)) => "proc-gc-gen1Size"
  | .proc (.gc (.gen2ItemsCount _)) => "proc-gc-gen2ItemsCount"
  | .proc (.gc (.gen2Size _)) => "proc-gc-gen2Size"
  | .proc (.gc (.largeHeapSize _)) => "proc-gc-largeHeapSize"
  | .proc (.gc (.timeInGc _)) => "proc-gc-timeInGc"
  | .proc (.gc (.totalBytesInHeaps _)) => "proc-gc-totalBytesInHeaps"
  | .proc (.diskIo (.readBytes _)) => "proc-diskIo-readBytes"
  | .proc (.diskIo (.writtenBytes _)) => "proc-diskIo-writtenBytes"
  | .proc (.diskIo (.readOps _)) => "proc-diskIo-readOps"
  | .proc (.diskIo (.writeOps _)) => "proc-diskIo-writeOps"
  | .proc (.tcp (.connections _)) => "proc-tcp-connections"
  | .proc (.tcp (.receivingSpeed _)) => "proc-tcp-receivingSpeed"
  | .proc (.tcp (.sendingSpeed _)) => "proc-tcp-sendingSpeed"
  | .proc (.tcp (.inSend _)) => "proc-tcp-inSend"
  | .proc (.tcp (.measureTime _)) => "proc-tcp-measureTime"
  | .proc (.tcp (.pendingReceived _)) => "proc-tcp-pendingReceived"
  | .proc (.tcp (.pendingSend _)) => "proc-tcp-pendingSend"
  | .proc (.tcp (.receivedBytesSinceLastRun _)) => "proc-tcp-receivedBytesSinceLastRun"
  | .proc (.tcp (.receivedBytesTotal _)) => "proc-tcp-receivedBytesTotal"
  | .proc (.tcp (.sentBytesSinceLastRun _)) => "proc-tcp-sentBytesSinceLastRun"
  | .proc (.tcp (.sentBytesTotal _)) => "proc-tcp-sentBytesTotal"
  | .sys (.oneM _) => "sys-loadavg-1m"
  | .sys (.fiveM _) => "sys-loadavg-5m"
  | .sys (.fifteenM _) => "sys-loadavg-15m"
  | .sys (.freeMem _) => "sys-freeMem"
  | .es (.checksum _) => "es-checksum"
  | .es (.checksumNonFlushed _) => "es-checksumNonFlushed"
  | .es (.writer (.lastFlushSize _)) => "es-writer-lastFlushSize"
  | .es (.writer (.lastFlushDelaysMs _)) => "es-writer-lastFlushDelayMs"
  | .es (.writer (.meanFlushSize _)) => "es-writer-meanFlushSize"
  | .es (.writer (.meanFlushDelaysMs _)) => "es-writer-meanFlushDelayMs"
  | .es (.writer (.maxFlushSize _)) => "es-writer-maxFlushSize"
  | .es (.writer (.maxFlushDelaysMs _)) => "es-writer-maxFlushDelayMs"
  | .es (.writer (.queuedFlushMessages _)) => "es-writer-queuedFlushMessages"
  | .es (.readIndex (.cachedRecord _)) => "es-readIndex-cachedRecord"
  | .es (.readIndex (.notCachedRecord _)) => "es-readIndex-notCachedRecord"
  | .es (.readIndex (.cachedStreamInfo _)) => "es-readIndex-cachedStreamInfo"
  | .es (.readIndex (.notCachedStreamInfo _)) => "es-readIndex-notCachedStreamInfo"
  | .es (.readIndex (.cachedTransInfo _)) => "es-readIndex-cachedTransInfo"
  | .es (.readIndex (.notCachedTransInfo _)) => "es-readIndex-notCachedTransInfo"

/-- The known keys: each text is parsed at the type of the field it is for. -/
def Metric.readers : List (String × Reading (Metric N)) :=
  [("proc-startTime", Reading.into N.parseDateTime fun v => .proc (.startTime v)),
   ("proc-id", Reading.into parseI64 fun v => .proc (.id v)),
   ("proc-mem", Reading.into parseI64 fun v => .proc (.mem v)),
   ("proc-cpu", Reading.into N.parseF64 fun v => .proc (.cpu v)),
   ("proc-threadsCount", Reading.into parseI64 fun v => .proc (.threadsCount v)),
   ("proc-contentionsRate", Reading.into N.parseF64 fun v => .proc (.contentionsRate v)),
   ("proc-thrownExceptionsRate", Reading.into N.parseF64 fun v => .proc (.thrownExceptionsRate v)),
   ("proc-gc-allocationSpeed", Reading.into N.parseF64 fun v => .proc (.gc (.allocationSpeed v))),
   ("proc-gc-gen0ItemsCount", Reading.into parseI64 fun v => .proc (.gc (.gen0ItemsCount v))),
   ("proc-gc-gen0Size", Reading.into parseI64 fun v => .proc (.gc (.gen0Size v))),
   ("proc-gc-gen1ItemsCount", Reading.into parseI64 fun v => .proc (.gc (.gen1ItemsCount v))),
   ("proc-gc-gen1Size", Reading.into parseI64 fun v => .proc (.gc (.gen1Size v))),
   ("proc-gc-gen2ItemsCount", Reading.into parseI64 fun v => .proc (.gc (.gen2ItemsCount v))),
   ("proc-gc-gen2Size", Reading.into parseI64 fun v => .proc (.gc (.gen2Size v))),
   ("proc-gc-largeHeapSize", Reading.into parseI64 fun v => .proc (.gc (.largeHeapSize v))),
   ("proc-gc-timeInGc", Reading.into N.parseF64 fun v => .proc (.gc (.timeInGc v))),
   ("proc-gc-totalBytesInHeaps", Reading.into parseI64 fun v => .proc (.gc (.totalBytesInHeaps v))),
   ("proc-diskIo-readBytes", Reading.into parseI64 fun v => .proc (.diskIo (.readBytes v))),
   ("proc-diskIo-writtenBytes", Reading.into parseI64 fun v => .proc (.diskIo (.writtenBytes v))),
   ("proc-diskIo-readOps", Reading.into parseI64 fun v => .proc (.diskIo (.readOps v))),
   ("proc-diskIo-writeOps", Reading.into parseI64 fun v => .proc (.diskIo (.writeOps v))),
   ("proc-tcp-connections", Reading.into parseI64 fun v => .proc (.tcp (.connections v))),
   ("proc-tcp-receivingSpeed", Reading.into N.parseF64 fun v => .proc (.tcp (.receivingSpeed v))),
   ("proc-tcp-sendingSpeed", Reading.into N.parseF64 fun v => .proc (.tcp (.sendingSpeed v))),
   ("proc-tcp-inSend", Reading.into parseI64 fun v => .proc (.tcp (.inSend v))),
   ("proc-tcp-measureTime", Reading.into Reading.raw fun v => .proc (.tcp (.measureTime v))),
   ("proc-tcp-pendingReceived", Reading.into parseI64 fun v => .proc (.tcp (.pendingReceived v))),
   ("proc-tcp-pendingSend", Reading.into parseI64 fun v => .proc (.tcp (.pendingSend v))),
   ("proc-tcp-receivedBytesSinceLastRun", Reading.into parseI64 fun v =>
      .proc (.tcp (.receivedBytesSinceLastRun v))),
   ("proc-tcp-receivedBytesTotal", Reading.into parseI64 fun v =>
      .proc (.tcp (.receivedBytesTotal v))),
   ("proc-tcp-sentBytesSinceLastRun", Reading.into parseI64 fun v =>
      .proc (.tcp (.sentBytesSinceLastRun v))),
   ("proc-tcp-sentBytesTotal", Reading.into parseI64 fun v => .proc (.tcp (.sentBytesTotal v))),
   ("sys-loadavg-1m", Reading.into N.parseF64 fun v => .sys (.oneM v)),
   ("sys-loadavg-5m", Reading.into N.parseF64 fun v => .sys (.fiveM v)),
   ("sys-loadavg-15m", Reading.into N.parseF64 fun v => .sys (.fifteenM v)),
   ("sys-freeMem", Reading.into readFreeMem fun v => .sys (.freeMem v)),
   ("es-checksum", Reading.into parseI64 fun v => .es (.checksum v)),
   ("es-checksumNonFlushed", Reading.into parseI64 fun v => .es (.checksumNonFlushed v)),
   ("es-writer-lastFlushSize", Reading.into parseI64 fun v => .es (.writer (.lastFlushSize v))),
   ("es-writer-lastFlushDelayMs", Reading.into N.parseF64 fun v =>
      .es (.writer (.lastFlushDelaysMs v))),
   ("es-writer-meanFlushSize", Reading.into parseI64 fun v => .es (.writer (.meanFlushSize v))),
   ("es-writer-meanFlushDelayMs", Reading.into N.parseF64 fun v =>
      .es (.writer (.meanFlushDelaysMs v))),
   ("es-writer-maxFlushSize", Reading.into parseI64 fun v => .es (.writer (.maxFlushSize v))),
   ("es-writer-maxFlushDelayMs", Reading.into N.parseF64 fun v =>
      .es (.writer (.maxFlushDelaysMs v))),
   ("es-writer-queuedFlushMessages", Reading.into parseI64 fun v =>
      .es (.writer (.queuedFlushMessages v))),
   ("es-readIndex-cachedRecord", Reading.into parseI64 fun v => .es (.readIndex (.cachedRecord v))),
   ("es-readIndex-notCachedRecord", Reading.into parseI64 fun v =>
      .es (.readIndex (.notCachedRecord v))),
   ("es-readIndex-cachedStreamInfo", Reading.into parseI64 fun v =>
      .es (.readIndex (.cachedStreamInfo v))),
   ("es-readIndex-notCachedStreamInfo", Reading.into parseI64 fun v =>
      .es (.readIndex (.notCachedStreamInfo v))),
   ("es-readIndex-cachedTransInfo", Reading.into parseI64 fun v =>
      .es (.readIndex (.cachedTransInfo v))),
   ("es-readIndex-notCachedTransInfo", Reading.into parseI64 fun v =>
      .es (.readIndex (.notCachedTransInfo v)))]

inductive DriveMetric where
  | availableBytes (v : Nat) | totalBytes (v : Nat) | usage (v : String) | usedBytes (v : Nat)
  deriving DecidableEq, Repr

/-- The last part of the metric's key. -/
def DriveMetric.prop : DriveMetric → String
  | .availableBytes _ => "availableBytes"
  | .totalBytes _ => "totalBytes"
  | .usage _ => "usage"
  | .usedBytes _ => "usedBytes"

def DriveMetric.readers : List (String × Reading DriveMetric) :=
  [("availableBytes", Reading.into parseU64 fun v => .availableBytes v),
   ("totalBytes", Reading.into parseU64 fun v => .totalBytes v),
   ("usage", Reading.into Reading.raw fun v => .usage v),
   ("usedBytes", Reading.into parseU64 fun v => .usedBytes v)]

def DriveStats.put (stats : DriveStats) : DriveMetric → DriveStats
  | .availableBytes v => { stats with availableBytes := v }
  | .totalBytes v => { stats with totalBytes := v }
  | .usage v => { stats with usage := v }
  | .usedBytes v => { stats with usedBytes := v }

inductive QueueMetric where
  | queueName (v : String) | groupName (v : String) | avgItemsPerSecond (v : Nat)
  | avgProcessingTime (v : N.F64) | currentIdleTime (v : String)
  | currentItemProcessingTime (v : String) | idleTimePercent (v : N.F32) | length (v : Int)
  | lengthCurrentTryPeak (v : Int) | lengthLifetimePeak (v : Int) | totalItemsProcessed (v : Int)
  | inProgressMessage (v : String) | lastProcessedMessage (v : String)

def QueueMetric.prop : QueueMetric N → String
  | .queueName _ => "queueName"
  | .groupName _ => "groupName"
  | .avgItemsPerSecond _ => "avgItemsPerSecond"
  | .avgProcessingTime _ => "avgProcessingTime"
  | .currentIdleTime _ => "currentIdleTime"
  | .currentItemProcessingTime _ => "currentItemProcessingTime"
  | .idleTimePercent _ => "idleTimePercent"
  | .length _ => "length"
  | .lengthCurrentTryPeak _ => "lengthCurrentTryPeak"
  | .lengthLifetimePeak _ => "lengthLifetimePeak"
  | .totalItemsProcessed _ => "totalItemsProcessed"
  | .inProgressMessage _ => "inProgressMessage"
  | .lastProcessedMessage _ => "lastProcessedMessage"

/-- The text `null` leaves the field as it is. -/
def Reading.unlessNull {A B : Type} (read : Reading A) (mk : A → B) : Reading (Option B) :=
  fun value => if value = "null" then .ok none else (read value).map fun v => some (mk v)

def QueueMetric.readers : List (String × Reading (Option (QueueMetric N))) :=
  [("queueName", Reading.into Reading.raw fun v => some (.queueName v)),
   ("groupName", Reading.into Reading.raw fun v => some (.groupName v)),
   ("avgItemsPerSecond", Reading.into parseU64 fun v => some (.avgItemsPerSecond v)),
   ("avgProcessingTime", Reading.into N.parseF64 fun v => some (.avgProcessingTime v)),
   ("currentIdleTime", Reading.unlessNull Reading.raw fun v => .currentIdleTime v),
   ("currentItemProcessingTime",
      Reading.unlessNull Reading.raw fun v => .currentItemProcessingTime v),
   ("idleTimePercent", Reading.into N.parseF32 fun v => some (.idleTimePercent v)),
   ("length", Reading.into parseI64 fun v => some (.length v)),
   ("lengthCurrentTryPeak", Reading.into parseI64 fun v => some (.lengthCurrentTryPeak v)),
   ("lengthLifetimePeak", Reading.into parseI64 fun v => some (.lengthLifetimePeak v)),
   ("totalItemsProcessed", Reading.into parseI64 fun v => some (.totalItemsProcessed v)),
   ("inProgressMessage", Reading.into Reading.raw fun v => some (.inProgressMessage v)),
   ("lastProcessedMessage", Reading.into Reading.raw fun v => some (.lastProcessedMessage v))]

variable {N}

def Queue.put (queue : Queue N) : QueueMetric N → Queue N
  | .queueName v => { queue with name := v }
  | .groupName v => { queue with groupName := v }
  | .avgItemsPerSecond v => { queue with avgItemsPerSecond := v }
  | .avgProcessingTime v => { queue with avgProcessingTime := v }
  | .currentIdleTime v => { queue with currentIdleTime := some v }
  | .currentItemProcessingTime v => { queue with currentItemProcessingTime := some v }
  | .idleTimePercent v => { queue with idleTimePercent := v }
  | .length v => { queue with length := v }
  | .lengthCurrentTryPeak v => { queue with lengthCurrentTryPeak := v }
  | .lengthLifetimePeak v => { queue with lengthLifetimePeak := v }
  | .totalItemsProcessed v => { queue with totalItemsProcessed := v }
  | .inProgressMessage v => { queue with inProgressMessage := v }
  | .lastProcessedMessage v => { queue with lastProcessedMessage := v }

/-! ## Parsing -/

def Statistics.setDrive (stats : Statistics N) (drive : Drive) : Statistics N :=
  { stats with sys := { stats.sys with drive := some drive } }

def Statistics.setQueue (stats : Statistics N) (name : String) (queue : Queue N) : Statistics N :=
  { stats with es := { stats.es with queues := stats.es.queues.insert name queue } }

/-- The queue's entry, a new one if it has none. -/
def Statistics.queue (stats : Statistics N) (name : String) : Queue N :=
  (stats.es.queues.lookup name).getD {}

def statError (key value err : String) : Error :=
  .internalParsingError s!"{key}: {err} = '{value}'"

abbrev ParsedStats (N : Numerals) := Call (Except Error (Statistics N))

/-- The last part of the key says which metric of the drive it is. -/
def parseDriveMetric (stats : Statistics N) (drive : Drive) (key value : String) :
    ParsedStats N := do
  let (_, prop) ← Call.expect "called `Option::unwrap()` on a `None` value" (rsplitOnce '-' key)
  match DriveMetric.readers.lookup prop with
  | none => return .ok (stats.setDrive drive)
  | some read =>
    match read value with
    | .ok m => return .ok (stats.setDrive { drive with stats := drive.stats.put m })
    | .error err => return .error (statError key value err)

/-- The drive is the one of the first key; every later key is taken for one of its metrics,
whichever drive it names. -/
def parseDrive (stats : Statistics N) (key rest value : String) : ParsedStats N := do
  match stats.sys.drive with
  | some drive => parseDriveMetric stats drive key value
  | none =>
    let (path, _) ← Call.expect "called `Option::unwrap()` on a `None` value" (splitOnce '-' rest)
    parseDriveMetric stats { path } key value

def parseQueue (stats : Statistics N) (key rest value : String) : ParsedStats N := do
  let (queueName, prop) ←
    Call.expect "called `Option::unwrap()` on a `None` value" (rsplitOnce '-' rest)
  let queue := stats.queue queueName
  match (QueueMetric.readers N).lookup prop with
  | none => return .ok (stats.setQueue queueName queue)
  | some read =>
    match read value with
    | .ok none => return .ok (stats.setQueue queueName queue)
    | .ok (some m) => return .ok (stats.setQueue queueName (queue.put m))
    | .error err => return .error (statError key value err)

/-- One entry of the map. No known key has the prefix of the drives or of the queues, so it
does not matter that the source has these two arms among the others. -/
def parseEntry (stats : Statistics N) (key value : String) : ParsedStats N :=
  match (Metric.readers N).lookup key with
  | some read =>
    match read value with
    | .ok m => .ret (.ok (stats.put m))
    | .error err => .ret (.error (statError key value err))
  | none =>
    match stripPrefix "sys-drive-" key with
    | some rest => parseDrive stats key rest value
    | none =>
      match stripPrefix "es-queue-" key with
      | some rest => parseQueue stats key rest value
      | none => .ret (.ok stats)

def parseEntries (stats : Statistics N) : List (String × String) → ParsedStats N
  | [] => .ret (.ok stats)
  | (key, value) :: entries =>
    match parseEntry stats key value with
    | .ret (.ok stats) => parseEntries stats entries
    | .ret (.error e) => .ret (.error e)
    | .panic m => .panic m

abbrev RawStatistics := Finmap fun _ : String => String

/-- `parse_statistics`, when the map is visited in this order. -/
def parseStatistics (N : Numerals) {raw : RawStatistics} (order : Visit raw) : ParsedStats N :=
  parseEntries {} order.entries

end Kurrent.Extras
