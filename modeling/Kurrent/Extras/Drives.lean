import Kurrent.Extras.Queues

/-!
# The drive of the statistics

The key of a drive's metric is `sys-drive-`, the path of the drive, a hyphen and the metric.
The metric is cut off at the last hyphen, the path at the first one behind the prefix, so
that a path with a hyphen in it is not what the record says. The metrics are what their keys
say in either case.
-/

namespace Kurrent.Extras

open Lib

variable {N : Numerals}

def driveKey (p prop : String) : String := "sys-drive-" ++ (p ++ String.singleton '-' ++ prop)

/-- What the first key of the drive makes of its path. -/
def cutPath (p : String) : String := (splitFirst '-' p).1

/-- All the keys of drives are of the drive with this path. -/
def OneDrive (raw : RawStatistics) (p : String) : Prop :=
  ∀ key ∈ raw, ∀ rest, key = "sys-drive-" ++ rest →
    ∃ prop, '-' ∉ prop.toList ∧ key = driveKey p prop

/-! ## The key of a drive -/

/-- What an entry does to the drive it names. -/
def metricOfDrive (N : Numerals) (p prop value : String) : StatEffect N :=
  match DriveMetric.readers.lookup prop with
  | none => .drive (some (cutPath p)) none
  | some read =>
    match read value with
    | .ok m => .drive (some (cutPath p)) (some m)
    | .error _ => .unreadable

theorem effect_driveKey {p prop : String} (h : '-' ∉ prop.toList) (value : String) :
    effect N (driveKey p prop) value = metricOfDrive N p prop value := by
  have hkey : rsplitOnce '-' (driveKey p prop) = some ("sys-drive-" ++ p, prop) := by
    have hassoc : driveKey p prop = ("sys-drive-" ++ p) ++ String.singleton '-' ++ prop := by
      apply String.toList_inj.mp
      simp [driveKey]
    rw [hassoc, rsplitOnce_append h]
  unfold driveKey at hkey ⊢
  unfold effect
  rw [lookup_readers_prefixed (.inl rfl), stripPrefix_append]
  simp only [driveEffect, splitOnce_append_fst, hkey]
  rfl

/-- An entry of a drive has a key that names one. -/
theorem driveKey_of_effect {key value : String} {path : Option String} {m : Option DriveMetric}
    (h : effect N key value = .drive path m) : ∃ rest, key = "sys-drive-" ++ rest := by
  unfold effect at h
  split at h
  next => split at h <;> cases h
  next =>
    split at h
    next rest hrest => exact ⟨rest, stripPrefix_eq hrest⟩
    next =>
      split at h
      next rest hrest =>
        unfold queueEffect at h
        split at h
        next => cases h
        next =>
          split at h
          next => cases h
          next => split at h <;> cases h
      next => cases h

theorem DriveMetric.prop_of_mem :
    ∀ p ∈ DriveMetric.readers, ∀ value m, p.2 value = .ok m → m.prop = p.1 := by
  unfold DriveMetric.readers
  simp only [List.forall_mem_cons]
  and_intros
  all_goals first
    | exact Reading.into_key fun _ => rfl
    | exact fun p hp => nomatch hp

/-- What an entry of the one drive does: it is unreadable, or sets the metric of its key. -/
theorem effect_cases {raw : RawStatistics} {p key value : String} {path : Option String}
    {m : Option DriveMetric} (hkeys : OneDrive raw p) (hmem : key ∈ raw)
    (h : effect N key value = .drive path m) :
    path = some (cutPath p) ∧ ∀ a, m = some a → key = driveKey p a.prop := by
  obtain ⟨rest, hrest⟩ := driveKey_of_effect h
  obtain ⟨prop, hprop, rfl⟩ := hkeys key hmem rest hrest
  rw [effect_driveKey hprop, metricOfDrive] at h
  cases hr : DriveMetric.readers.lookup prop with
  | none =>
    rw [hr] at h
    cases h
    exact ⟨rfl, fun a ha => by cases ha⟩
  | some read =>
    rw [hr] at h
    simp only at h
    cases hm : read value with
    | error e => rw [hm] at h; cases h
    | ok a =>
      rw [hm] at h
      cases h
      refine ⟨rfl, fun b hb => ?_⟩
      cases hb
      rw [DriveMetric.prop_of_mem _ (mem_of_lookup hr) value a hm]

/-! ## The fields -/

/-- The metric is read from the text of its own key, or has the default where there is none. -/
def MetricRead {A : Type} (raw : RawStatistics) (p prop : String) (read : Reading A)
    (default value : A) : Prop :=
  match raw.lookup (driveKey p prop) with
  | none => value = default
  | some text => read text = .ok value

/-- What the keys of a drive say of it. -/
structure DriveRead (raw : RawStatistics) (p : String) (stats : DriveStats) : Prop where
  availableBytes : MetricRead raw p "availableBytes" parseU64 0 stats.availableBytes
  totalBytes : MetricRead raw p "totalBytes" parseU64 0 stats.totalBytes
  usage : MetricRead raw p "usage" .raw "" stats.usage
  usedBytes : MetricRead raw p "usedBytes" parseU64 0 stats.usedBytes

/-- The metrics there are, of a drive or of none yet. -/
def driveStats (s : Statistics N) : DriveStats := (s.sys.drive.map Drive.stats).getD {}

/-- An entry sets a metric of the drive, which is there then, or leaves the drive as it is. -/
theorem apply_drive {a : StatEffect N} {s t : Statistics N} (h : a.apply s = some t) :
    (∃ path m d, a = .drive path m ∧ s.sys.drive.or (path.map fun p => { path := p }) = some d ∧
      t.sys.drive = some (d.puts m)) ∨
      (∀ path m, a ≠ .drive path m) ∧ t.sys.drive = s.sys.drive := by
  by_cases ha : ∃ path m, a = .drive path m
  · obtain ⟨path, m, rfl⟩ := ha
    obtain ⟨d, hd, rfl⟩ := Option.map_eq_some_iff.mp h
    exact .inl ⟨path, m, d, rfl, hd, rfl⟩
  · have hnot : ∀ path m, a ≠ .drive path m := fun path m h => ha ⟨path, m, h⟩
    exact .inr ⟨hnot, apply_drive_eq h hnot⟩

theorem metricOfDrive_of_apply {p prop value : String} {s t : Statistics N}
    (h : (metricOfDrive N p prop value).apply s = some t) :
    ∃ m, metricOfDrive N p prop value = .drive (some (cutPath p)) m := by
  unfold metricOfDrive at h ⊢
  cases hr : DriveMetric.readers.lookup prop with
  | none => exact ⟨none, rfl⟩
  | some read =>
    rw [hr] at h
    simp only at h ⊢
    cases hm : read value with
    | error e => rw [hm] at h; cases h
    | ok m => exact ⟨some m, rfl⟩

/-- A field of a drive's metrics that one metric is read into. -/
structure DriveField (A : Type) where
  prop : String
  read : Reading A
  get : DriveStats → A
  metric : A → DriveMetric
  hyphenless : '-' ∉ prop.toList := by simp
  known : DriveMetric.readers.lookup prop = some (read.into metric) := by rfl
  gets : ∀ (stats : DriveStats) (v : A), get (stats.put (metric v)) = v := by intros; rfl
  keeps : ∀ (stats : DriveStats) (m : DriveMetric), m.prop ≠ prop →
    get (stats.put m) = get stats := by
      intro stats m hm
      cases m <;> first | rfl | exact absurd rfl hm

section

variable {raw : RawStatistics} {order : Visit raw} {stats : Statistics N} {p : String}

/-- The drive has the path that is cut out of the first key, and keeps it. -/
theorem path_of_run (hkeys : OneDrive raw p) (h : applyAll N order.entries {} = some stats) :
    ∀ d, stats.sys.drive = some d → d.path = cutPath p := by
  refine foldlM_keeps (I := fun s : Statistics N => ∀ d, s.sys.drive = some d → d.path = cutPath p)
    (fun e he s t ht hs d hd => ?_) h (fun d hd => by cases hd)
  rcases apply_drive ht with ⟨path, m, d', ha, hd', hnew⟩ | ⟨-, hsame⟩
  · obtain ⟨rfl, -⟩ := effect_cases hkeys (order.mem_of_entry he) ha
    have hpath : d'.path = cutPath p := by
      cases hdrive : s.sys.drive with
      | some x => rw [hdrive] at hd'; cases hd'; exact hs _ hdrive
      | none => rw [hdrive] at hd'; cases hd'; rfl
    rw [hnew] at hd
    cases hd
    cases m <;> exact hpath
  · exact hs d (hsame ▸ hd)

/-- There is a drive if there is a key of one. -/
theorem drive_isSome_iff (hkeys : OneDrive raw p) (h : applyAll N order.entries {} = some stats) :
    stats.sys.drive.isSome = true ↔ ∃ prop, driveKey p prop ∈ raw := by
  refine ⟨fun hdrive => ?_, ?_⟩
  · by_contra hnone
    push Not at hnone
    have hkeep := foldlM_keeps (I := fun s : Statistics N => s.sys.drive = none)
      (fun e he s t ht hs => by
        rcases apply_drive ht with ⟨path, m, d, ha, -, -⟩ | ⟨-, hsame⟩
        · obtain ⟨rest, hrest⟩ := driveKey_of_effect ha
          obtain ⟨prop, -, hkey⟩ := hkeys _ (order.mem_of_entry he) rest hrest
          exact absurd (order.mem_of_entry he) (hkey ▸ hnone prop)
        · rw [hsame, hs]) h rfl
    rw [hkeep] at hdrive
    cases hdrive
  · rintro ⟨prop, hmem⟩
    obtain ⟨prop', hprop, hkey⟩ := hkeys _ hmem _ rfl
    rw [hkey] at hmem
    obtain ⟨value, hvalue⟩ := Finmap.mem_iff.mp hmem
    have hrun := order.run_key (f := applyEntry) (driveKey p prop')
      (I := fun _ : Statistics N => True) (J := fun _ s => s.sys.drive.isSome = true)
      (fun _ _ _ _ _ _ h => h)
      (fun _ e _ _ s t ht hs => by
        rcases apply_drive ht with ⟨path, m, d, -, -, hnew⟩ | ⟨-, hsame⟩
        · rw [hnew]; rfl
        · rwa [hsame])
      (fun value s t ht _ => by
        rw [applyEntry, effect_driveKey hprop] at ht
        obtain ⟨m, hm⟩ := metricOfDrive_of_apply ht
        rcases apply_drive ht with ⟨path, m, d, -, -, hnew⟩ | ⟨hnot, -⟩
        · rw [hnew]; rfl
        · exact absurd hm (hnot _ m)) h trivial
    rw [hvalue] at hrun
    exact hrun

theorem driveStats_of_or {s : Statistics N} {path : Option String} {d : Drive}
    (h : s.sys.drive.or (path.map fun p => { path := p }) = some d) : d.stats = driveStats s := by
  unfold driveStats
  cases hs : s.sys.drive with
  | some x => rw [hs] at h; cases h; rfl
  | none =>
    rw [hs] at h
    obtain ⟨q, -, rfl⟩ := Option.map_eq_some_iff.mp h
    rfl

/-- **What a drive's metric is**: the value of its own key, or the default. -/
theorem DriveField.get_run {A : Type} (F : DriveField A) (hkeys : OneDrive raw p)
    (h : applyAll N order.entries {} = some stats) :
    MetricRead raw p F.prop F.read (F.get {}) (F.get (driveStats stats)) := by
  have hother : ∀ e ∈ order.entries, e.1 ≠ driveKey p F.prop → ∀ s t : Statistics N,
      applyEntry s e = some t → F.get (driveStats t) = F.get (driveStats s) := by
    intro e he hne s t ht
    rcases apply_drive ht with ⟨path, m, d, ha, hd, hnew⟩ | ⟨-, hsame⟩
    · have hstats : driveStats t = (d.puts m).stats := by rw [driveStats, hnew]; rfl
      rw [hstats, ← driveStats_of_or hd]
      cases m with
      | none => rfl
      | some a =>
        have hkey := (effect_cases hkeys (order.mem_of_entry he) ha).2 a rfl
        exact F.keeps d.stats a fun hprop => hne (hkey.trans (by rw [hprop]))
    · rw [driveStats, hsame, driveStats]
  have hown : ∀ value (s t : Statistics N), applyEntry s (driveKey p F.prop, value) = some t →
      F.read value = .ok (F.get (driveStats t)) := by
    intro value s t ht
    rw [applyEntry, effect_driveKey F.hyphenless, metricOfDrive, F.known] at ht
    simp only [Reading.into] at ht
    cases hr : F.read value with
    | error e => rw [hr] at ht; cases ht
    | ok v =>
      rw [hr] at ht
      obtain ⟨d, -, rfl⟩ := Option.map_eq_some_iff.mp ht
      exact congrArg Except.ok (F.gets d.stats v).symm
  have hrun := get_of_run (fun s => F.get (driveStats s)) F.read (driveKey p F.prop) hother
    (fun value s t ht _ => hown value s t ht) h
  unfold MetricRead
  cases hv : raw.lookup (driveKey p F.prop) with
  | none => exact hrun.1 hv
  | some value => exact hrun.2 value hv

theorem driveRead_of_run (hkeys : OneDrive raw p) (h : applyAll N order.entries {} = some stats) :
    DriveRead raw p (driveStats stats) where
  availableBytes := (DriveField.mk "availableBytes" parseU64 DriveStats.availableBytes
    .availableBytes).get_run hkeys h
  totalBytes := (DriveField.mk "totalBytes" parseU64 DriveStats.totalBytes
    .totalBytes).get_run hkeys h
  usage := (DriveField.mk "usage" .raw DriveStats.usage .usage).get_run hkeys h
  usedBytes := (DriveField.mk "usedBytes" parseU64 DriveStats.usedBytes .usedBytes).get_run hkeys h

end

/-- **What the drive of a parsed record is**: its metrics are those of its keys, and its path is
what its keys say up to the first hyphen, which is all of it only where there is none. -/
theorem drive_parsed_iff {raw : RawStatistics} {order : Visit raw} {stats : Statistics N}
    {p : String} (hkeys : OneDrive raw p) (h : parseStatistics N order = .ret (.ok stats)) :
    (∃ drive, stats.sys.drive = some drive ∧ drive.path = p ∧ DriveRead raw p drive.stats) ↔
      '-' ∉ p.toList ∧ ∃ prop, driveKey p prop ∈ raw := by
  have hrun := applyAll_of_parse h
  have hread := driveRead_of_run hkeys hrun
  rw [← drive_isSome_iff hkeys hrun, ← splitFirst_fst_eq]
  refine ⟨?_, ?_⟩
  · rintro ⟨drive, hdrive, hpath, -⟩
    exact ⟨(path_of_run hkeys hrun drive hdrive).symm.trans hpath, by rw [hdrive]; rfl⟩
  · rintro ⟨hcut, hsome⟩
    obtain ⟨drive, hdrive⟩ := Option.isSome_iff_exists.mp hsome
    refine ⟨drive, hdrive, (path_of_run hkeys hrun drive hdrive).trans hcut, ?_⟩
    have hstats : driveStats stats = drive.stats := by rw [driveStats, hdrive]; rfl
    rwa [hstats] at hread

/-- A server that tells the usage of one drive. -/
def usageOf (p : String) : AList fun _ : String => String :=
  AList.singleton (driveKey p "usage") "5%"

def usageOrder (p : String) : Visit (usageOf p).toFinmap := ⟨usageOf p, rfl⟩

theorem oneDrive_usageOf (p : String) : OneDrive (usageOf p).toFinmap p := by
  intro key hmem rest _
  have hkey : key = driveKey p "usage" := (Finmap.mem_singleton key _ "5%").mp hmem
  exact ⟨"usage", by simp, hkey⟩

theorem drive_parsed_plain : ∃ stats : Statistics noNumerals,
    parseStatistics noNumerals (usageOrder "/dev/sda1") = .ret (.ok stats) ∧
      ∃ drive, stats.sys.drive = some drive ∧ drive.path = "/dev/sda1" ∧
        DriveRead (usageOf "/dev/sda1").toFinmap "/dev/sda1" drive.stats := by
  have hsome : (outcome (parseStatistics noNumerals (usageOrder "/dev/sda1"))).isSome = true := by
    decide +kernel
  obtain ⟨stats, hstats⟩ := Option.isSome_iff_exists.mp hsome
  have h := outcome_eq_some.mp hstats
  have hmem : driveKey "/dev/sda1" "usage" ∈ (usageOf "/dev/sda1").toFinmap := by decide +kernel
  exact ⟨stats, h, (drive_parsed_iff (oneDrive_usageOf _) h).mpr ⟨by simp, _, hmem⟩⟩

/-- A path with a hyphen is cut. -/
theorem drive_path_cut : OneDrive (usageOf "my-vol").toFinmap "my-vol" ∧
    ∃ stats : Statistics noNumerals,
      parseStatistics noNumerals (usageOrder "my-vol") = .ret (.ok stats) ∧
        stats.sys.drive = some ⟨"my", { usage := "5%" }⟩ ∧
        ¬ ∃ drive, stats.sys.drive = some drive ∧ drive.path = "my-vol" ∧
          DriveRead (usageOf "my-vol").toFinmap "my-vol" drive.stats := by
  have hdrive : (outcome (parseStatistics noNumerals (usageOrder "my-vol"))).map
      (fun stats => stats.sys.drive) = some (some ⟨"my", { usage := "5%" }⟩) := by decide +kernel
  obtain ⟨stats, hstats, hmy⟩ := Option.map_eq_some_iff.mp hdrive
  refine ⟨oneDrive_usageOf _, stats, outcome_eq_some.mp hstats, hmy, ?_⟩
  rintro ⟨drive, hsome, hpath, -⟩
  rw [hmy] at hsome
  cases hsome
  exact absurd hpath (by decide)

end Kurrent.Extras
