import Kurrent.Grpc.Accepted
import Kurrent.Grpc.UserInfo

/-!
# Deadlines

`new_request` (`commands.rs`) gives a request its timeout: the operation's own deadline, or
the configured one, or ten seconds; a streaming operation has none but its own. The
configured deadline is a number of milliseconds in the connection string, where `-1` is
documented to disable it. Whether a duration fits the header is for the transport to say
(`encodes`); one that does not fit is a panic.
-/

namespace Kurrent

open Lib

inductive OperationKind where
  | regular
  | streaming
  deriving DecidableEq, Repr

structure Request (M : Type) where
  message : M
  metadata : MetadataMap
  timeout : Option Duration := none

/-- `tonic::Request::set_timeout` -/
def setTimeout {M : Type} (encodes : Duration → Bool) (req : Request M) (duration : Duration) :
    Call (Request M) :=
  if encodes duration then .ret { req with timeout := some duration }
  else .panic "duration is unrealistically large"

def newRequest {M : Type} (crates : Crates) (encodes : Duration → Bool) (settings : ClientSettings)
    (kind : OperationKind) (options : CommonOperationOptions) (message : M) : Call (Request M) := do
  let metadata ← buildRequestMetadata crates settings options
  let req : Request M := { message, metadata }
  match options.deadline, settings.defaultDeadline with
  | some duration, _ => setTimeout encodes req duration
  | none, some duration =>
    if kind ≠ .streaming then setTimeout encodes req duration else pure req
  | none, none =>
    if kind = .regular then setTimeout encodes req (.fromSecs 10) else pure req

/-! ## The configured deadline -/

/-- The last value of `defaultDeadline`. -/
def configuredDeadline (params : List (String × String)) : Option Int :=
  (params.filter fun p => toLowercase p.1 = "defaultdeadline").getLast?.bind fun p =>
    (parseI64 p.2).toOption

/-- What the parser makes of it. -/
def deadlineOf (value : Int) : Duration :=
  if value = -1 then .fromMillis (2 ^ 64 - 1) else .fromMillis value.toNat

section

variable {r r' : ClientSettings} {p : String × String}

theorem applyParam_deadline (h : applyParam r p = .ok r')
    (hn : toLowercase p.1 = "defaultdeadline") :
    ∃ v, parseI64 p.2 = .ok v ∧ r'.defaultDeadline = some (deadlineOf v) := by
  unfold applyParam at h
  simp only [hn] at h
  obtain ⟨v, hv, h⟩ := bind_eq_ok h
  obtain ⟨d, hd, h⟩ := bind_eq_ok h
  cases h
  refine ⟨v, ?_, ?_⟩
  · unfold parseParam at hv
    cases hp : parseI64 p.2 with
    | error e => rw [hp] at hv; cases hv
    | ok w => rw [hp] at hv; cases hv; rfl
  · unfold parseMillis at hd
    unfold deadlineOf
    split at hd
    · next hv => rw [if_pos hv]; cases hd; rfl
    · next hv =>
      rw [if_neg hv]
      split at hd
      · cases hd
      · cases hd; rfl

theorem applyParam_other (h : applyParam r p = .ok r')
    (hn : toLowercase p.1 ≠ "defaultdeadline") : r'.defaultDeadline = r.defaultDeadline := by
  rcases applyParam_ok h with rfl | ⟨c, hname, -, rfl⟩
  · rfl
  · cases c with
    | defaultDeadline d => exact absurd hname.symm hn
    | text t value => cases t <;> rfl
    | _ => rfl

/-- In a query that is accepted every `defaultDeadline` is a number. -/
theorem read_deadline {ps : List (String × String)} :
    ∀ {r r' : ClientSettings}, ps.foldlM applyParam r = .ok r' → ∀ {q}, q ∈ ps →
      toLowercase q.1 = "defaultdeadline" → ∃ w, parseI64 q.2 = .ok w := by
  induction ps with
  | nil => intro r r' _ q hq; cases hq
  | cons p ps ih =>
    intro r r' h q hq hn
    rw [List.foldlM_cons] at h
    obtain ⟨s, hs, h⟩ := bind_eq_ok h
    rcases List.mem_cons.mp hq with rfl | hq
    · obtain ⟨v, hv, -⟩ := applyParam_deadline hs hn
      exact ⟨v, hv⟩
    · exact ih h hq hn

/-- The last `defaultDeadline` of a query is the one that is kept. -/
theorem foldlM_deadline {ps : List (String × String)} :
    ∀ {r r' : ClientSettings}, ps.foldlM applyParam r = .ok r' →
      r'.defaultDeadline = ((configuredDeadline ps).map deadlineOf).or r.defaultDeadline := by
  induction ps with
  | nil => intro r r' h; cases h; rfl
  | cons p ps ih =>
    intro r r' h
    rw [List.foldlM_cons] at h
    obtain ⟨s, hs, h⟩ := bind_eq_ok h
    rw [ih h]
    unfold configuredDeadline
    rw [List.filter_cons]
    by_cases hn : toLowercase p.1 = "defaultdeadline"
    · obtain ⟨v, hv, hd⟩ := applyParam_deadline hs hn
      rw [if_pos (by simpa using hn), List.getLast?_cons, hd]
      cases hl : (ps.filter fun p => toLowercase p.1 = "defaultdeadline").getLast? with
      | none => simp [hv, Except.toOption]
      | some q =>
        -- a later value was read too, or the query had been refused
        obtain ⟨w, hw⟩ : ∃ w, parseI64 q.2 = .ok w := by
          have hq := List.mem_filter.mp (List.mem_of_getLast? hl)
          exact read_deadline h hq.1 (by simpa using hq.2)
        simp [hw, Except.toOption]
    · rw [if_neg (by simpa using hn), applyParam_other hs hn]

/-- The deadline in the settings is the one of the connection string. -/
theorem fromStr_deadline {parse : String → Except UrlError Url} {s : String}
    {setts : ClientSettings} (h : ClientSettings.fromStr parse s = .ok setts) :
    ∃ url, acceptedUrl parse s = some url ∧
      setts.defaultDeadline = (configuredDeadline url.queryPairs).map deadlineOf := by
  obtain ⟨url, hosts, hurl, -, -, -, hparams, -⟩ := accepted_base h
  have hbase : (startUrl {} url).defaultDeadline = none := by
    unfold startUrl credentialsFromUrl
    split <;> rfl
  refine ⟨url, hurl, ?_⟩
  rw [foldlM_deadline hparams, hbase, Option.or_none]

end

/-! ## The timeout of a request -/

/-- Whole hours. -/
def Duration.hours (d : Duration) : Nat := d.nanos / 3600000000000

/-- The timeout a request is to have: the operation's own, none for a stream, the configured
one unless it is disabled, else ten seconds. -/
def expectedTimeout (own : Option Duration) (kind : OperationKind) (configured : Option Int) :
    Option Duration :=
  match own, kind, configured with
  | some d, _, _ => some d
  | none, .streaming, _ => none
  | none, .regular, some v => if v = -1 then none else some (.fromMillis v.toNat)
  | none, .regular, none => some (.fromSecs 10)

/-- The deadline that is used is not disabled and has at most eight digits of hours. -/
def FitsHeader (own : Option Duration) (kind : OperationKind) (configured : Option Int) : Prop :=
  match own, kind, configured with
  | some d, _, _ => d.hours ≤ 99999999
  | none, .regular, some v => v ≠ -1 ∧ (Duration.fromMillis v.toNat).hours ≤ 99999999
  | none, _, _ => True

section

variable {M : Type} {crates : Crates} {encodes : Duration → Bool} {settings : ClientSettings}
  {kind : OperationKind} {options : CommonOperationOptions} {message : M}

/-- What a request is made with, if the metadata and the timeout can be written. -/
theorem newRequest_eq (md : MetadataMap)
    (hmd : buildRequestMetadata crates settings options = .ret md) :
    newRequest crates encodes settings kind options message =
      match options.deadline, kind, settings.defaultDeadline with
      | some d, _, _ => setTimeout encodes ⟨message, md, none⟩ d
      | none, .streaming, _ => .ret ⟨message, md, none⟩
      | none, .regular, some d => setTimeout encodes ⟨message, md, none⟩ d
      | none, .regular, none => setTimeout encodes ⟨message, md, none⟩ (.fromSecs 10) := by
  unfold newRequest
  rw [hmd]
  cases options.deadline <;> cases settings.defaultDeadline <;> cases kind <;> rfl

theorem setTimeout_eq_ret {md md' : MetadataMap} {d : Duration} {timeout : Option Duration} :
    setTimeout encodes ⟨message, md, none⟩ d = .ret ⟨message, md', timeout⟩ ↔
      encodes d = true ∧ md = md' ∧ timeout = some d := by
  unfold setTimeout
  split
  · next h => simp [h, eq_comm]
  · next h => simp [h]

/-- With metadata at hand, only the timeout can go wrong. -/
theorem newRequest_iff (he : ∀ d, encodes d = true ↔ d.hours ≤ 99999999) {md : MetadataMap}
    (hmd : buildRequestMetadata crates settings options = .ret md) {configured : Option Int}
    (hd : settings.defaultDeadline = configured.map deadlineOf) :
    (∃ md, newRequest crates encodes settings kind options message = .ret ⟨message, md,
        expectedTimeout options.deadline kind configured⟩) ↔
      FitsHeader options.deadline kind configured := by
  rw [newRequest_eq md hmd, hd]
  have hten : encodes (.fromSecs 10) = true := (he _).mpr (by decide)
  cases options.deadline with
  | some d => simp [setTimeout_eq_ret, expectedTimeout, FitsHeader, he]
  | none =>
    cases kind with
    | streaming => simp [expectedTimeout, FitsHeader]
    | regular =>
      cases configured with
      | none => simp [setTimeout_eq_ret, expectedTimeout, FitsHeader, hten]
      | some v =>
        simp only [Option.map_some, setTimeout_eq_ret, expectedTimeout, FitsHeader, deadlineOf]
        by_cases hv : v = -1
        · simp [hv]
        · simp [hv, he]

end

/-- **A request has the timeout that was asked for** exactly when its metadata can be
written and the deadline that is used is not `-1` and fits the header. -/
theorem timeout_as_configured_iff {M : Type} {parse : String → Except UrlError Url}
    {crates : Crates} {encodes : Duration → Bool}
    (he : ∀ d, encodes d = true ↔ d.hours ≤ 99999999) {s : String} {setts : ClientSettings}
    (hs : ClientSettings.fromStr parse s = .ok setts) (kind : OperationKind)
    (options : CommonOperationOptions) (message : M) :
    ∃ url, acceptedUrl parse s = some url ∧
      ((∃ md, newRequest crates encodes setts kind options message = .ret ⟨message, md,
          expectedTimeout options.deadline kind (configuredDeadline url.queryPairs)⟩) ↔
        (∃ md, buildRequestMetadata crates setts options = .ret md) ∧
          FitsHeader options.deadline kind (configuredDeadline url.queryPairs)) := by
  obtain ⟨url, hurl, hdeadline⟩ := fromStr_deadline hs
  refine ⟨url, hurl, ?_⟩
  cases hmd : buildRequestMetadata crates setts options with
  | panic m =>
    have hnew : newRequest crates encodes setts kind options message = .panic m := by
      unfold newRequest; rw [hmd]; rfl
    simp [hnew]
  | ret md =>
    rw [newRequest_iff he hmd hdeadline]
    exact ⟨fun h => ⟨⟨md, rfl⟩, h⟩, fun h => h.2⟩

/-! ## A deadline of five seconds, and a disabled one -/

/-- The transport's limit: eight digits of hours. -/
def eightDigits (d : Duration) : Bool := d.hours ≤ 99999999

theorem timeout_five_seconds :
    ClientSettings.fromStr (fullUrl asciiLossy) "esdb://localhost?defaultDeadline=5000" =
        .ok { hosts := [⟨"localhost", 2113⟩], defaultDeadline := some (.fromMillis 5000) } ∧
    ∃ md, newRequest adminCrates eightDigits
        { hosts := [⟨"localhost", 2113⟩], defaultDeadline := some (.fromMillis 5000) }
        .regular {} () = .ret ⟨(), md, some (.fromMillis 5000)⟩ := by
  have hs : ClientSettings.fromStr (fullUrl asciiLossy) "esdb://localhost?defaultDeadline=5000" =
      .ok { hosts := [⟨"localhost", 2113⟩], defaultDeadline := some (.fromMillis 5000) } := by
    decide +kernel
  refine ⟨hs, ?_⟩
  have he : ∀ d, eightDigits d = true ↔ d.hours ≤ 99999999 := by simp [eightDigits]
  obtain ⟨url, hurl, hiff⟩ := @timeout_as_configured_iff Unit _ adminCrates _ he _ _ hs .regular {} ()
  have hconf : ((acceptedUrl (fullUrl asciiLossy) "esdb://localhost?defaultDeadline=5000").map
      fun url => configuredDeadline url.queryPairs) = some (some 5000) := by decide +kernel
  rw [hurl] at hconf
  have hc : configuredDeadline url.queryPairs = some 5000 := Option.some.inj hconf
  rw [hc] at hiff
  exact hiff.mpr ⟨⟨_, rfl⟩, by decide, by decide⟩

/-- **`-1` does not disable the deadline**: a request without a deadline of its own should
have no timeout, and panics. -/
theorem timeout_disabled_panics :
    ClientSettings.fromStr (fullUrl asciiLossy) "esdb://localhost?defaultDeadline=-1" =
        .ok { hosts := [⟨"localhost", 2113⟩], defaultDeadline := some (.fromMillis (2 ^ 64 - 1)) } ∧
    expectedTimeout none .regular (some (-1)) = none ∧
    newRequest adminCrates eightDigits
        { hosts := [⟨"localhost", 2113⟩], defaultDeadline := some (.fromMillis (2 ^ 64 - 1)) }
        .regular {} () = .panic "duration is unrealistically large" := by
  refine ⟨by decide +kernel, rfl, ?_⟩
  rw [newRequest_eq _ rfl]
  unfold setTimeout
  exact if_neg (by decide)

end Kurrent
