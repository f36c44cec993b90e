import Kurrent.Extras.Drives

/-!
# The statistics, key by key

A record of the statistics is a value for each of its fields. `held` reads them back as
metrics, so that `put` and `held` are the two halves of a lens for each key. `parse_statistics`
goes through the map once and writes as it goes; what it ends with is what the map says when
every field is looked up on its own, and it ends with a record exactly when there is one the
map can be read to.
-/

namespace Kurrent.Extras

open Lib

variable {N : Numerals}

/-! ## The fields of a record -/

namespace Statistics

def heldGc (gc : Gc N) : GcMetric N → GcMetric N
  | .allocationSpeed _ => .allocationSpeed gc.allocationSpeed
  | .gen0ItemsCount _ => .gen0ItemsCount gc.gen0ItemsCount
  | .gen0Size _ => .gen0Size gc.gen0Size
  | .gen1ItemsCount _ => .gen1ItemsCount gc.gen1ItemsCount
  | .gen1Size _ => .gen1Size gc.gen1Size
  | .gen2ItemsCount _ => .gen2ItemsCount gc.gen2ItemsCount
  | .gen2Size _ => .gen2Size gc.gen2Size
  | .largeHeapSize _ => .largeHeapSize gc.largeHeapSize
  | .timeInGc _ => .timeInGc gc.timeInGc
  | .totalBytesInHeaps _ => .totalBytesInHeaps gc.totalBytesInHeaps

def heldTcp (tcp : Tcp N) : TcpMetric N → TcpMetric N
  | .connections _ => .connections tcp.connections
  | .receivingSpeed _ => .receivingSpeed tcp.receivingSpeed
  | .sendingSpeed _ => .sendingSpeed tcp.sendingSpeed
  | .inSend _ => .inSend tcp.inSend
  | .measureTime _ => .measureTime tcp.measureTime
  | .pendingReceived _ => .pendingReceived tcp.pendingReceived
  | .pendingSend _ => .pendingSend tcp.pendingSend
  | .receivedBytesSinceLastRun _ => .receivedBytesSinceLastRun tcp.receivedBytesSinceLastRun
  | .receivedBytesTotal _ => .receivedBytesTotal tcp.receivedBytesTotal
  | .sentBytesSinceLastRun _ => .sentBytesSinceLastRun tcp.sentBytesSinceLastRun
  | .sentBytesTotal _ => .sentBytesTotal tcp.sentBytesTotal

def heldDiskIo (diskIo : DiskIo) : DiskIoMetric → DiskIoMetric
  | .readBytes _ => .readBytes diskIo.readBytes
  | .writtenBytes _ => .writtenBytes diskIo.writtenBytes
  | .readOps _ => .readOps diskIo.readOps
  | .writeOps _ => .writeOps diskIo.writeOps

def heldProc (proc : Proc N) : ProcMetric N → ProcMetric N
  | .startTime _ => .startTime proc.startTime
  | .id _ => .id proc.id
  | .mem _ => .mem proc.mem
  | .cpu _ => .cpu proc.cpu
  | .threadsCount _ => .threadsCount proc.threadsCount
  | .contentionsRate _ => .contentionsRate proc.contentionsRate
  | .thrownExceptionsRate _ => .thrownExceptionsRate proc.thrownExceptionsRate
  | .gc m => .gc (heldGc proc.gc m)
  | .diskIo m => .diskIo (heldDiskIo proc.diskIo m)
  | .tcp m => .tcp (heldTcp proc.tcp m)

def heldSys (sys : Sys N) : SysMetric N → SysMetric N
  | .oneM _ => .oneM sys.loadavg.oneM
  | .fiveM _ => .fiveM sys.loadavg.fiveM
  | .fifteenM _ => .fifteenM sys.loadavg.fifteenM
  | .freeMem _ => .freeMem sys.freeMem

def heldWriter (writer : Writer N) : WriterMetric N → WriterMetric N
  | .lastFlushSize _ => .lastFlushSize writer.lastFlushSize
  | .lastFlushDelaysMs _ => .lastFlushDelaysMs writer.lastFlushDelaysMs
  | .meanFlushSize _ => .meanFlushSize writer.meanFlushSize
  | .meanFlushDelaysMs _ => .meanFlushDelaysMs writer.meanFlushDelaysMs
  | .maxFlushSize _ => .maxFlushSize writer.maxFlushSize
  | .maxFlushDelaysMs _ => .maxFlushDelaysMs writer.maxFlushDelaysMs
  | .queuedFlushMessages _ => .queuedFlushMessages writer.queuedFlushMessages

def heldReadIndex (readIndex : ReadIndex) : ReadIndexMetric → ReadIndexMetric
  | .cachedRecord _ => .cachedRecord readIndex.cachedRecord
  | .notCachedRecord _ => .notCachedRecord readIndex.notCachedRecord
  | .cachedStreamInfo _ => .cachedStreamInfo readIndex.cachedStreamInfo
  | .notCachedStreamInfo _ => .notCachedStreamInfo readIndex.notCachedStreamInfo
  | .cachedTransInfo _ => .cachedTransInfo readIndex.cachedTransInfo
  | .notCachedTransInfo _ => .notCachedTransInfo readIndex.notCachedTransInfo

def heldEs (es : Es N) : EsMetric N → EsMetric N
  | .checksum _ => .checksum es.checksum
  | .checksumNonFlushed _ => .checksumNonFlushed es.checksumNonFlushed
  | .writer m => .writer (heldWriter es.writer m)
  | .readIndex m => .readIndex (heldReadIndex es.readIndex m)

/-- The metric the record has in the place of this one. -/
def held (stats : Statistics N) : Metric N → Metric N
  | .proc m => .proc (heldProc stats.proc m)
  | .sys m => .sys (heldSys stats.sys m)
  | .es m => .es (heldEs stats.es m)

end Statistics

section

variable (s t : Statistics N)

/-- The fields are apart, each a value of its own kind of metric. -/
theorem held_laws (m : Metric N) : (s.held m).key = m.key ∧ s.put (s.held m) = s ∧
    (s.put m).held m = m ∧ s.held (t.held m) = s.held m := by
  rcases m with (_ | _ | _ | _ | _ | _ | _ | (_ | _) | (_ | _) | (_ | _)) | (_ | _) |
    (_ | _ | (_ | _) | (_ | _)) <;> exact ⟨rfl, rfl, rfl, rfl⟩

theorem key_held (m : Metric N) : (s.held m).key = m.key := (held_laws s s m).1

theorem put_held (m : Metric N) : s.put (s.held m) = s := (held_laws s s m).2.1

theorem held_put (m : Metric N) : (s.put m).held m = m := (held_laws s s m).2.2.1

theorem held_held (m : Metric N) : s.held (t.held m) = s.held m := (held_laws s t m).2.2.2

theorem held_put_ne {a m : Metric N} (h : a.key ≠ m.key) : (s.put a).held m = s.held m := by
  have hcomm : (s.put a).put (s.held m) = s.put a := by
    rw [put_comm s (by rwa [key_held]), put_held]
  calc (s.put a).held m = ((s.put a).put (s.held m)).held (s.held m) := by
        rw [hcomm, held_held]
    _ = s.held m := held_put _ _

theorem held_setDrive (d : Drive) (m : Metric N) : (s.setDrive d).held m = s.held m := by
  rcases m with m | (_ | _) | m <;> rfl

theorem held_setQueue (q : String) (queue : Queue N) (m : Metric N) :
    (s.setQueue q queue).held m = s.held m := by
  rcases m with m | m | (_ | _ | m | m) <;> rfl

end

/-- The key of a metric is known, and what is read for it is of the metric's kind. -/
theorem lookup_metric (m : Metric N) : ∃ read, (Metric.readers N).lookup m.key = some read ∧
    ∀ text a, read text = .ok a → ∀ s : Statistics N, s.held a = s.held m := by
  rcases m with (_ | _ | _ | _ | _ | _ | _ | (_ | _) | (_ | _) | (_ | _)) | (_ | _) |
    (_ | _ | (_ | _) | (_ | _)) <;>
  · refine ⟨_, rfl, fun text a h s => ?_⟩
    obtain ⟨x, rfl⟩ := Reading.into_ok h
    rfl

theorem gc_eq_of_held {a b : Gc N}
    (h : ∀ m, Statistics.heldGc a m = Statistics.heldGc b m) : a = b := by
  cases a
  cases b
  congr
  · exact GcMetric.allocationSpeed.inj (h (.allocationSpeed N.zeroF64))
  · exact GcMetric.gen0ItemsCount.inj (h (.gen0ItemsCount 0))
  · exact GcMetric.gen0Size.inj (h (.gen0Size 0))
  · exact GcMetric.gen1ItemsCount.inj (h (.gen1ItemsCount 0))
  · exact GcMetric.gen1Size.inj (h (.gen1Size 0))
  · exact GcMetric.gen2ItemsCount.inj (h (.gen2ItemsCount 0))
  · exact GcMetric.gen2Size.inj (h (.gen2Size 0))
  · exact GcMetric.largeHeapSize.inj (h (.largeHeapSize 0))
  · exact GcMetric.timeInGc.inj (h (.timeInGc N.zeroF64))
  · exact GcMetric.totalBytesInHeaps.inj (h (.totalBytesInHeaps 0))

theorem tcp_eq_of_held {a b : Tcp N}
    (h : ∀ m, Statistics.heldTcp a m = Statistics.heldTcp b m) : a = b := by
  cases a
  cases b
  congr
  · exact TcpMetric.connections.inj (h (.connections 0))
  · exact TcpMetric.receivingSpeed.inj (h (.receivingSpeed N.zeroF64))
  · exact TcpMetric.sendingSpeed.inj (h (.sendingSpeed N.zeroF64))
  · exact TcpMetric.inSend.inj (h (.inSend 0))
  · exact TcpMetric.measureTime.inj (h (.measureTime ""))
  · exact TcpMetric.pendingReceived.inj (h (.pendingReceived 0))
  · exact TcpMetric.pendingSend.inj (h (.pendingSend 0))
  · exact TcpMetric.receivedBytesSinceLastRun.inj (h (.receivedBytesSinceLastRun 0))
  · exact TcpMetric.receivedBytesTotal.inj (h (.receivedBytesTotal 0))
  · exact TcpMetric.sentBytesSinceLastRun.inj (h (.sentBytesSinceLastRun 0))
  · exact TcpMetric.sentBytesTotal.inj (h (.sentBytesTotal 0))

theorem diskIo_eq_of_held {a b : DiskIo}
    (h : ∀ m, Statistics.heldDiskIo a m = Statistics.heldDiskIo b m) : a = b := by
  cases a
  cases b
  congr
  · exact DiskIoMetric.readBytes.inj (h (.readBytes 0))
  · exact DiskIoMetric.writtenBytes.inj (h (.writtenBytes 0))
  · exact DiskIoMetric.readOps.inj (h (.readOps 0))
  · exact DiskIoMetric.writeOps.inj (h (.writeOps 0))

theorem writer_eq_of_held {a b : Writer N}
    (h : ∀ m, Statistics.heldWriter a m = Statistics.heldWriter b m) : a = b := by
  cases a
  cases b
  congr
  · exact WriterMetric.lastFlushSize.inj (h (.lastFlushSize 0))
  · exact WriterMetric.lastFlushDelaysMs.inj (h (.lastFlushDelaysMs N.zeroF64))
  · exact WriterMetric.meanFlushSize.inj (h (.meanFlushSize 0))
  · exact WriterMetric.meanFlushDelaysMs.inj (h (.meanFlushDelaysMs N.zeroF64))
  · exact WriterMetric.maxFlushSize.inj (h (.maxFlushSize 0))
  · exact WriterMetric.maxFlushDelaysMs.inj (h (.maxFlushDelaysMs N.zeroF64))
  · exact WriterMetric.queuedFlushMessages.inj (h (.queuedFlushMessages 0))

theorem readIndex_eq_of_held {a b : ReadIndex}
    (h : ∀ m, Statistics.heldReadIndex a m = Statistics.heldReadIndex b m) : a = b := by
  cases a
  cases b
  congr
  · exact ReadIndexMetric.cachedRecord.inj (h (.cachedRecord 0))
  · exact ReadIndexMetric.notCachedRecord.inj (h (.notCachedRecord 0))
  · exact ReadIndexMetric.cachedStreamInfo.inj (h (.cachedStreamInfo 0))
  · exact ReadIndexMetric.notCachedStreamInfo.inj (h (.notCachedStreamInfo 0))
  · exact ReadIndexMetric.cachedTransInfo.inj (h (.cachedTransInfo 0))
  · exact ReadIndexMetric.notCachedTransInfo.inj (h (.notCachedTransInfo 0))

theorem proc_eq_of_held {a b : Proc N}
    (h : ∀ m, Statistics.heldProc a m = Statistics.heldProc b m) : a = b := by
  have hgc := gc_eq_of_held fun m => ProcMetric.gc.inj (h (.gc m))
  have hdisk := diskIo_eq_of_held fun m => ProcMetric.diskIo.inj (h (.diskIo m))
  have htcp := tcp_eq_of_held fun m => ProcMetric.tcp.inj (h (.tcp m))
  cases a
  cases b
  congr
  · exact ProcMetric.id.inj (h (.id 0))
  · exact ProcMetric.startTime.inj (h (.startTime N.unixEpoch))
  · exact ProcMetric.mem.inj (h (.mem 0))
  · exact ProcMetric.cpu.inj (h (.cpu N.zeroF64))
  · exact ProcMetric.threadsCount.inj (h (.threadsCount 0))
  · exact ProcMetric.thrownExceptionsRate.inj (h (.thrownExceptionsRate N.zeroF64))
  · exact ProcMetric.contentionsRate.inj (h (.contentionsRate N.zeroF64))

theorem sys_eq_of_held {a b : Sys N} (h : ∀ m, Statistics.heldSys a m = Statistics.heldSys b m)
    (hdrive : a.drive = b.drive) : a = b := by
  obtain ⟨freeMem, ⟨oneM, fiveM, fifteenM⟩, drive⟩ := a
  obtain ⟨freeMem', ⟨oneM', fiveM', fifteenM'⟩, drive'⟩ := b
  congr
  · exact SysMetric.freeMem.inj (h (.freeMem 0))
  · exact SysMetric.oneM.inj (h (.oneM N.zeroF64))
  · exact SysMetric.fiveM.inj (h (.fiveM N.zeroF64))
  · exact SysMetric.fifteenM.inj (h (.fifteenM N.zeroF64))

theorem es_eq_of_held {a b : Es N} (h : ∀ m, Statistics.heldEs a m = Statistics.heldEs b m)
    (hqueues : a.queues = b.queues) : a = b := by
  have hwriter := writer_eq_of_held fun m => EsMetric.writer.inj (h (.writer m))
  have hindex := readIndex_eq_of_held fun m => EsMetric.readIndex.inj (h (.readIndex m))
  cases a
  cases b
  congr
  · exact EsMetric.checksum.inj (h (.checksum 0))
  · exact EsMetric.checksumNonFlushed.inj (h (.checksumNonFlushed 0))

/-- A record is its metrics, its drive and its queues. -/
theorem eq_of_held {s t : Statistics N} (h : ∀ m, s.held m = t.held m)
    (hdrive : s.sys.drive = t.sys.drive) (hqueues : s.es.queues = t.es.queues) : s = t := by
  have hproc := proc_eq_of_held fun m => Metric.proc.inj (h (.proc m))
  have hsys := sys_eq_of_held (fun m => Metric.sys.inj (h (.sys m))) hdrive
  have hes := es_eq_of_held (fun m => Metric.es.inj (h (.es m))) hqueues
  cases s
  cases t
  congr

/-! ## What a map says -/

/-- What a map says of the record, when the drive it tells of has the path `p`. -/
structure StatsRead (raw : RawStatistics) (p : String) (stats : Statistics N) : Prop where
  /-- the text of a known key can be read, and the record has what is read -/
  metric : ∀ key text read, raw.lookup key = some text →
    (Metric.readers N).lookup key = some read → ∃ m, read text = .ok m ∧ stats.held m = m
  /-- a field without a key has its default -/
  default : ∀ m : Metric N, m.key ∉ raw → stats.held m = ({} : Statistics N).held m
  /-- the key of a queue names a queue and a metric -/
  splits : ∀ rest, "es-queue-" ++ rest ∈ raw → '-' ∈ rest.toList
  queues : ∀ q, q ∈ stats.es.queues ↔ ∃ prop, '-' ∉ prop.toList ∧ queueKey q prop ∈ raw
  queue : ∀ q queue, stats.es.queues.lookup q = some queue → QueueRead raw q queue
  hasDrive : stats.sys.drive.isSome ↔ ∃ prop, driveKey p prop ∈ raw
  drive : ∀ drive, stats.sys.drive = some drive →
    drive.path = cutPath p ∧ DriveRead raw p drive.stats

/-! ## What is parsed is what the map says -/

section

variable {raw : RawStatistics} {order : Visit raw} {stats : Statistics N} {p : String}

/-- A field is left as it is by the entries of other keys. -/
theorem held_of_other {s t : Statistics N} {e : String × String} {m : Metric N} (hne : e.1 ≠ m.key)
    (h : applyEntry s e = some t) : t.held m = s.held m := by
  have hof := effect_of (N := N) e.1 e.2
  rw [applyEntry] at h
  cases he : effect N e.1 e.2 with
  | unreadable => rw [he] at h; cases h
  | nothing => rw [he] at h; cases h; rfl
  | put a =>
    rw [he] at h hof
    cases h
    cases hof with
    | put hkey => exact held_put_ne s (by rwa [hkey])
  | drive path d =>
    rw [he] at h
    obtain ⟨drive, -, rfl⟩ := Option.map_eq_some_iff.mp h
    exact held_setDrive s _ m
  | queue q a =>
    rw [he] at h
    cases h
    exact held_setQueue s q _ m

theorem metric_of_run (h : applyAll N order.entries {} = some stats) {key text : String}
    {read : Reading (Metric N)} (hv : raw.lookup key = some text)
    (hr : (Metric.readers N).lookup key = some read) :
    ∃ m, read text = .ok m ∧ stats.held m = m := by
  have hrun := order.run_key (f := applyEntry) key (I := fun _ : Statistics N => True)
    (J := fun value s => ∃ m, read value = .ok m ∧ s.held m = m)
    (fun _ _ _ _ _ _ h => h)
    (fun value e _ hne s t ht ⟨m, hm, hs⟩ => by
      have hkey := Metric.key_of_mem _ (mem_of_lookup hr) value m hm
      exact ⟨m, hm, (held_of_other (by rwa [hkey]) ht).trans hs⟩)
    (fun value s t ht _ => by
      unfold applyEntry effect at ht
      rw [hr] at ht
      dsimp only at ht
      cases hm : read value with
      | error e => rw [hm] at ht; cases ht
      | ok m =>
        rw [hm] at ht
        cases ht
        exact ⟨m, rfl, held_put s m⟩) h trivial
  rw [hv] at hrun
  exact hrun

theorem default_of_run (h : applyAll N order.entries {} = some stats) {m : Metric N}
    (hm : m.key ∉ raw) : stats.held m = ({} : Statistics N).held m := by
  refine foldlM_keeps (I := fun s : Statistics N => s.held m = ({} : Statistics N).held m)
    (fun e he s t ht hs => ?_) h rfl
  have hne : e.1 ≠ m.key := fun hkey => hm (hkey ▸ order.mem_of_entry he)
  exact (held_of_other hne ht).trans hs

/-- A key of a queue that names no metric cannot be read. -/
theorem effect_unsplit {rest : String} (h : '-' ∉ rest.toList) (value : String) :
    effect N ("es-queue-" ++ rest) value = .unreadable := by
  unfold effect
  rw [lookup_readers_prefixed (.inr rfl)]
  dsimp only
  rw [stripPrefix_drive_queue, stripPrefix_append]
  dsimp only
  unfold queueEffect
  rcases rsplitOnce_cases '-' rest with ⟨-, hnone⟩ | ⟨name, prop, -, hs, -⟩
  · rw [hnone]
  · exact absurd (by rw [hs]; simp) h

/-- **A parsed record is what the map says.** -/
theorem statsRead_of_run (hkeys : OneDrive raw p) (h : applyAll N order.entries {} = some stats) :
    StatsRead raw p stats where
  metric _ _ _ hv hr := metric_of_run h hv hr
  default _ hm := default_of_run h hm
  splits rest hmem := by
    by_contra hnot
    obtain ⟨value, hvalue⟩ := Finmap.mem_iff.mp hmem
    have hfail := foldlM_none_of_mem (f := applyEntry (N := N)) (order.mem_iff.mpr hvalue)
      (fun s => by rw [applyEntry, effect_unsplit hnot]; rfl) {}
    rw [applyAll, hfail] at h
    cases h
  queues := mem_queues_iff h
  queue q queue hq := by
    rw [← queue_of_lookup hq]
    exact queueRead_of_run h q
  hasDrive := drive_isSome_iff hkeys h
  drive drive hdrive := by
    have hread := driveRead_of_run hkeys h
    rw [driveStats, hdrive] at hread
    exact ⟨path_of_run hkeys h drive hdrive, hread⟩

/-! ## One record at most -/

theorem MetricRead.unique {A : Type} {prop : String} {read : Reading A} {default a b : A}
    (h : MetricRead raw p prop read default a) (h' : MetricRead raw p prop read default b) :
    a = b := by
  unfold MetricRead at h h'
  cases hv : raw.lookup (driveKey p prop) with
  | none =>
    rw [hv] at h h'
    exact h.trans h'.symm
  | some text =>
    rw [hv] at h h'
    exact Except.ok.inj (h.symm.trans h')

theorem DriveRead.unique {a b : DriveStats} (h : DriveRead raw p a) (h' : DriveRead raw p b) :
    a = b := by
  cases a
  cases b
  congr
  · exact h.availableBytes.unique h'.availableBytes
  · exact h.totalBytes.unique h'.totalBytes
  · exact h.usage.unique h'.usage
  · exact h.usedBytes.unique h'.usedBytes

theorem StatsRead.held_eq {s t : Statistics N} (hs : StatsRead raw p s) (ht : StatsRead raw p t)
    (m : Metric N) : s.held m = t.held m := by
  obtain ⟨read, hr, hkind⟩ := lookup_metric m
  cases hv : raw.lookup m.key with
  | none =>
    have hm : m.key ∉ raw := Finmap.lookup_eq_none.mp hv
    rw [hs.default m hm, ht.default m hm]
  | some text =>
    obtain ⟨a, ha, hsa⟩ := hs.metric _ text read hv hr
    obtain ⟨b, hb, htb⟩ := ht.metric _ text read hv hr
    obtain rfl := Except.ok.inj (ha.symm.trans hb)
    rw [← hkind text a ha s, ← hkind text a ha t, hsa, htb]

theorem StatsRead.drive_eq {s t : Statistics N} (hs : StatsRead raw p s)
    (ht : StatsRead raw p t) : s.sys.drive = t.sys.drive := by
  have hiff := hs.hasDrive.trans ht.hasDrive.symm
  cases hd : s.sys.drive with
  | none =>
    rw [hd] at hiff
    exact (Option.not_isSome_iff_eq_none.mp fun h => nomatch hiff.mpr h).symm
  | some d =>
    rw [hd] at hiff
    obtain ⟨d', hd'⟩ := Option.isSome_iff_exists.mp (hiff.mp rfl)
    obtain ⟨hpath, hread⟩ := hs.drive d hd
    obtain ⟨hpath', hread'⟩ := ht.drive d' hd'
    have hstats := hread.unique hread'
    rw [hd']
    cases d
    cases d'
    exact congrArg some (congr (congrArg Drive.mk (hpath.trans hpath'.symm)) hstats)

theorem StatsRead.queues_eq {s t : Statistics N} (hs : StatsRead raw p s)
    (ht : StatsRead raw p t) : s.es.queues = t.es.queues := by
  refine Finmap.ext_lookup fun q => ?_
  have hiff := (hs.queues q).trans (ht.queues q).symm
  cases hq : s.es.queues.lookup q with
  | none =>
    have hnot : q ∉ t.es.queues := fun h => Finmap.lookup_eq_none.mp hq (hiff.mpr h)
    exact (Finmap.lookup_eq_none.mpr hnot).symm
  | some queue =>
    obtain ⟨queue', hq'⟩ := Finmap.mem_iff.mp (hiff.mp (Finmap.mem_iff.mpr ⟨queue, hq⟩))
    rw [hq', (hs.queue q queue hq).unique (ht.queue q queue' hq') fun _ _ => rfl]

/-- A map says one record at most. -/
theorem StatsRead.unique {s t : Statistics N} (hs : StatsRead raw p s) (ht : StatsRead raw p t) :
    s = t :=
  eq_of_held (hs.held_eq ht) (hs.drive_eq ht) (hs.queues_eq ht)

/-! ## What the map says is parsed -/

/-- A text that was read to a field can be read to a metric of it. -/
theorem Reading.into_of_ok {A B : Type} {read : Reading A} {mk : A → B} {text : String} {a : A}
    (h : read text = .ok a) : read.into mk text = .ok (mk a) := by
  rw [Reading.into, h]
  rfl

theorem MetricRead.readable {A B : Type} {prop text : String} {read : Reading A} {default a : A}
    {mk : A → B} (h : MetricRead raw p prop read default a)
    (hv : raw.lookup (driveKey p prop) = some text) : ∃ b, read.into mk text = .ok b := by
  unfold MetricRead at h
  rw [hv] at h
  exact ⟨_, Reading.into_of_ok h⟩

theorem DriveRead.readable {d : DriveStats} (h : DriveRead raw p d) :
    ∀ r ∈ DriveMetric.readers, ∀ text, raw.lookup (driveKey p r.1) = some text →
      ∃ m, r.2 text = .ok m := by
  unfold DriveMetric.readers
  simp only [List.forall_mem_cons]
  refine ⟨fun _ => h.availableBytes.readable, fun _ => h.totalBytes.readable,
    fun _ => h.usage.readable, fun _ => h.usedBytes.readable, fun r hr => ?_⟩
  exact absurd hr List.not_mem_nil

theorem FieldRead.readable {A B : Type} {q prop text : String} {read : Reading A} {default a : A}
    {mk : A → B} (h : FieldRead raw q prop read default a)
    (hv : raw.lookup (queueKey q prop) = some text) : ∃ b, read.into mk text = .ok b := by
  unfold FieldRead at h
  rw [hv] at h
  exact ⟨_, Reading.into_of_ok h⟩

theorem unlessNull_raw {B : Type} (mk : String → B) (text : String) :
    ∃ b, Reading.unlessNull Reading.raw mk text = .ok b := by
  unfold Reading.unlessNull
  split
  · exact ⟨none, rfl⟩
  · exact ⟨_, rfl⟩

theorem QueueRead.readable {q : String} {queue : Queue N} (h : QueueRead raw q queue) :
    ∀ r ∈ QueueMetric.readers N, ∀ text, raw.lookup (queueKey q r.1) = some text →
      ∃ m, r.2 text = .ok m := by
  unfold QueueMetric.readers
  simp only [List.forall_mem_cons]
  refine ⟨fun _ => h.name.readable, fun _ => h.groupName.readable,
    fun _ => h.avgItemsPerSecond.readable, fun _ => h.avgProcessingTime.readable,
    fun text _ => unlessNull_raw _ text, fun text _ => unlessNull_raw _ text,
    fun _ => h.idleTimePercent.readable, fun _ => h.length.readable,
    fun _ => h.lengthCurrentTryPeak.readable, fun _ => h.lengthLifetimePeak.readable,
    fun _ => h.totalItemsProcessed.readable, fun _ => h.inProgressMessage.readable,
    fun _ => h.lastProcessedMessage.readable, fun r hr => ?_⟩
  exact absurd hr List.not_mem_nil

/-- No entry of a map that says a record fails. -/
theorem StatsRead.readable (h : StatsRead raw p stats) (hkeys : OneDrive raw p)
    {key text : String} (hv : raw.lookup key = some text) : effect N key text ≠ .unreadable := by
  have hmem : key ∈ raw := Finmap.mem_iff.mpr ⟨text, hv⟩
  intro hun
  have hun' := hun
  unfold effect at hun'
  cases hr : (Metric.readers N).lookup key with
  | some read =>
    obtain ⟨m, hm, -⟩ := h.metric key text read hv hr
    rw [hr] at hun'
    dsimp only at hun'
    rw [hm] at hun'
    cases hun'
  | none =>
    rw [hr] at hun'
    dsimp only at hun'
    cases hdrive : stripPrefix "sys-drive-" key with
    | some rest =>
      obtain ⟨prop, hprop, rfl⟩ := hkeys key hmem rest (stripPrefix_eq hdrive)
      obtain ⟨d, hd⟩ := Option.isSome_iff_exists.mp (h.hasDrive.mpr ⟨prop, hmem⟩)
      rw [effect_driveKey hprop, metricOfDrive] at hun
      cases hread : DriveMetric.readers.lookup prop with
      | none => rw [hread] at hun; cases hun
      | some read =>
        obtain ⟨m, hm⟩ := (h.drive d hd).2.readable _ (mem_of_lookup hread) text hv
        rw [hread] at hun
        dsimp only at hun hm
        rw [hm] at hun
        cases hun
    | none =>
      rw [hdrive] at hun'
      dsimp only at hun'
      cases hqueue : stripPrefix "es-queue-" key with
      | none => rw [hqueue] at hun'; cases hun'
      | some rest =>
        obtain rfl := stripPrefix_eq hqueue
        rcases rsplitOnce_cases '-' rest with ⟨hnot, -⟩ | ⟨q, prop, hprop, rfl, -⟩
        · exact absurd (h.splits rest hmem) hnot
        · obtain ⟨queue, hq⟩ := Finmap.mem_iff.mp ((h.queues q).mpr ⟨prop, hprop, hmem⟩)
          have hun := (effect_queueKey hprop text).symm.trans hun
          rw [metricEffect] at hun
          cases hread : (QueueMetric.readers N).lookup prop with
          | none => rw [hread] at hun; cases hun
          | some read =>
            obtain ⟨m, hm⟩ := (h.queue q queue hq).readable _ (mem_of_lookup hread) text hv
            rw [hread] at hun
            dsimp only at hun hm
            rw [hm] at hun
            cases hun

/-- An entry of a map whose keys name one drive fails only if it cannot be read. -/
theorem applyEntry_some (hkeys : OneDrive raw p) {e : String × String} (hmem : e.1 ∈ raw)
    (he : effect N e.1 e.2 ≠ .unreadable) (s : Statistics N) : ∃ t, applyEntry s e = some t := by
  unfold applyEntry
  cases ha : effect N e.1 e.2 with
  | unreadable => exact absurd ha he
  | put m => exact ⟨_, rfl⟩
  | queue q m => exact ⟨_, rfl⟩
  | nothing => exact ⟨_, rfl⟩
  | drive path m =>
    obtain ⟨rfl, -⟩ := effect_cases hkeys hmem ha
    unfold StatEffect.apply
    cases s.sys.drive with
    | none => exact ⟨_, rfl⟩
    | some d => exact ⟨_, rfl⟩

end

/-- **What is parsed is what the map says, key by key.** For every map of metrics that names one
drive at most, and every order it is visited in, `parse_statistics` returns a record exactly
if that is what each key of the map says of its own field. -/
theorem statistics_read_iff {raw : RawStatistics} {p : String} (hkeys : OneDrive raw p)
    (order : Visit raw) (stats : Statistics N) :
    parseStatistics N order = .ret (.ok stats) ↔ StatsRead raw p stats := by
  constructor
  · exact fun h => statsRead_of_run hkeys (applyAll_of_parse h)
  · intro h
    obtain ⟨t, ht, -⟩ := foldlM_some (f := applyEntry) (I := fun _ : Statistics N => True)
      (l := order.entries) (fun e he s _ => by
        have hv : raw.lookup e.1 = some e.2 := order.mem_iff.mp he
        obtain ⟨t, ht⟩ := applyEntry_some hkeys (order.mem_of_entry he) (h.readable hkeys hv) s
        exact ⟨t, ht, trivial⟩) (s := {}) trivial
    have hparse : parseStatistics N order = .ret (.ok t) := by
      rw [← outcome_eq_some, outcome_parseStatistics]
      exact ht
    rw [hparse, (statsRead_of_run hkeys ht).unique h]

/-- A server that tells of its memory, a drive and a queue. -/
def plainStats : AList fun _ : String => String :=
  ((usageOf "/data").insert "proc-mem" "5").insert "es-queue-main-length" "7"

def plainStatsOrder : Visit plainStats.toFinmap := ⟨plainStats, rfl⟩

theorem oneDrive_plainStats : OneDrive plainStats.toFinmap "/data" := by
  intro key hmem rest hrest
  have hcases : key = "es-queue-main-length" ∨ key = "proc-mem" ∨
      key = driveKey "/data" "usage" := by
    rw [plainStats, ← Finmap.insert_toFinmap, Finmap.mem_insert, ← Finmap.insert_toFinmap,
      Finmap.mem_insert] at hmem
    exact hmem.imp_right fun h => h.imp_right (Finmap.mem_singleton key _ "5%").mp
  have hsplit : stripPrefix "sys-drive-" key = some rest := by rw [hrest, stripPrefix_append]
  rcases hcases with rfl | rfl | rfl
  · exact absurd hsplit (by simp [stripPrefix])
  · exact absurd hsplit (by simp [stripPrefix])
  · exact ⟨"usage", by simp, rfl⟩

theorem statistics_read_plain : ∃ stats : Statistics noNumerals,
    StatsRead plainStats.toFinmap "/data" stats ∧ stats.proc.mem = 5 := by
  have hmem : (outcome (parseStatistics noNumerals plainStatsOrder)).map
      (fun stats => stats.proc.mem) = some 5 := by decide +kernel
  obtain ⟨stats, hstats, hmem⟩ := Option.map_eq_some_iff.mp hmem
  exact ⟨stats, (statistics_read_iff oneDrive_plainStats _ _).mp (outcome_eq_some.mp hstats), hmem⟩

end Kurrent.Extras
