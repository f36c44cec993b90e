import Kurrent.Grpc.ConnectionString

/-!
# What a parameter asks for

The parameters of a query are applied one after the other to one settings record. What a
parameter asks for hangs on its own name and value only: to be refused, or to change one
field, of which each name has its own. A name no parameter has is passed over.
-/

namespace Kurrent

open Lib

/-- The parameters that are kept as text. -/
inductive TextParam where
  | connectionName
  | userCertFile
  | userKeyFile
  | tlsCaFile
  deriving DecidableEq, Repr

namespace TextParam

def name : TextParam → String
  | connectionName => "connectionname"
  | userCertFile => "usercertfile"
  | userKeyFile => "userkeyfile"
  | tlsCaFile => "tlscafile"

def get : TextParam → ClientSettings → Option String
  | connectionName, setts => setts.connectionName
  | userCertFile, setts => setts.userCertFile
  | userKeyFile, setts => setts.userKeyFile
  | tlsCaFile, setts => setts.tlsCaFile

def set : TextParam → ClientSettings → String → ClientSettings
  | connectionName, setts, value => { setts with connectionName := some value }
  | userCertFile, setts, value => { setts with userCertFile := some value }
  | userKeyFile, setts, value => { setts with userKeyFile := some value }
  | tlsCaFile, setts, value => { setts with tlsCaFile := some value }

end TextParam

/-- The parameters whose values are checked. -/
def checkedParams : List String :=
  ["maxdiscoverattempts", "discoveryinterval", "gossiptimeout", "tls", "tlsverifycert",
    "nodepreference", "keepaliveinterval", "keepalivetimeout", "defaultdeadline"]

/-- What one parameter asks for. -/
inductive Change where
  | maxDiscoverAttempts (n : Nat)
  | discoveryInterval (d : Duration)
  | gossipTimeout (d : Duration)
  | tls (b : Bool)
  | tlsVerifyCert (b : Bool)
  | nodePreference (p : NodePreference)
  | keepAliveInterval (d : Option Duration)
  | keepAliveTimeout (d : Option Duration)
  | defaultDeadline (d : Duration)
  | text (t : TextParam) (value : String)

namespace Change

def name : Change → String
  | maxDiscoverAttempts _ => "maxdiscoverattempts"
  | discoveryInterval _ => "discoveryinterval"
  | gossipTimeout _ => "gossiptimeout"
  | tls _ => "tls"
  | tlsVerifyCert _ => "tlsverifycert"
  | nodePreference _ => "nodepreference"
  | keepAliveInterval _ => "keepaliveinterval"
  | keepAliveTimeout _ => "keepalivetimeout"
  | defaultDeadline _ => "defaultdeadline"
  | text t _ => t.name

def apply : Change → ClientSettings → ClientSettings
  | maxDiscoverAttempts n, r => { r with maxDiscoverAttempts := n }
  | discoveryInterval d, r => { r with discoveryInterval := d }
  | gossipTimeout d, r => { r with gossipTimeout := d }
  | tls b, r => { r with secure := b }
  | tlsVerifyCert b, r => { r with tlsVerifyCert := b }
  | nodePreference p, r => { r with preference := p }
  | keepAliveInterval d, r => { r with keepAliveInterval := d.getD r.keepAliveInterval }
  | keepAliveTimeout d, r => { r with keepAliveTimeout := d.getD r.keepAliveTimeout }
  | defaultDeadline d, r => { r with defaultDeadline := some d }
  | text t value, r => t.set r value

/-- A keep-alive time of less than ten seconds is never asked for. -/
def Allowed : Change → Prop
  | keepAliveInterval d | keepAliveTimeout d =>
    ∀ d' ∈ d, (Duration.fromSecs 10).nanos ≤ d'.nanos
  | _ => True

end Change

/-- The names that are not passed over. -/
def knownParams : List String :=
  checkedParams ++ ["connectionname", "usercertfile", "userkeyfile", "tlscafile"]

theorem TextParam.name_mem (t : TextParam) : t.name ∈ knownParams := by cases t <;> decide

theorem TextParam.name_notMem (t : TextParam) : t.name ∉ checkedParams := by cases t <;> decide

theorem mem_knownParams {n : String} :
    n ∈ knownParams ↔ n ∈ checkedParams ∨ ∃ t : TextParam, n = t.name := by
  constructor
  · intro h
    rcases List.mem_append.mp h with h | h
    · exact .inl h
    · simp only [List.mem_cons, List.not_mem_nil, or_false] at h
      rcases h with h | h | h | h
      · exact .inr ⟨.connectionName, h⟩
      · exact .inr ⟨.userCertFile, h⟩
      · exact .inr ⟨.userKeyFile, h⟩
      · exact .inr ⟨.tlsCaFile, h⟩
  · rintro (h | ⟨t, rfl⟩)
    · exact List.mem_append_left _ h
    · exact t.name_mem

/-! ## From the parameter to the change -/

section

variable {r r' : ClientSettings} {p : String × String}

theorem applyParam_unknown (hc : toLowercase p.1 ∉ checkedParams)
    (ht : ∀ t : TextParam, toLowercase p.1 ≠ t.name) : applyParam r p = .ok r := by
  have h1 := ht .connectionName
  have h2 := ht .userCertFile
  have h3 := ht .userKeyFile
  have h4 := ht .tlsCaFile
  simp only [checkedParams, List.mem_cons, List.not_mem_nil, or_false, not_or] at hc
  simp only [TextParam.name] at h1 h2 h3 h4
  unfold applyParam
  simp only
  split <;> first | rfl | simp_all

theorem applyParam_text {t : TextParam} (ht : toLowercase p.1 = t.name) (r : ClientSettings) :
    applyParam r p = .ok (t.set r p.2) := by
  unfold applyParam
  cases t <;> simp only [ht, TextParam.name, TextParam.set]

/-- A reader that refuses a comma and a slash. -/
def Strict {V : Type} (read : String → Except ClientSettingsParseError V) : Prop :=
  ∀ c value, c = ',' ∨ c = '/' → c ∈ value.toList → ∃ e, read value = .error e

theorem strict_parseParam {A : Type} {parse : String → Except String A} {name : String}
    (h : ∀ c value, c = ',' ∨ c = '/' → c ∈ value.toList → ∃ e, parse value = .error e) :
    Strict (parseParam parse name) := by
  intro c value hc hm
  obtain ⟨e, he⟩ := h c value hc hm
  exact ⟨_, by rw [parseParam, he]; rfl⟩

theorem strict_bind {V W : Type} {read : String → Except ClientSettingsParseError V}
    (h : Strict read) (f : V → Except ClientSettingsParseError W) :
    Strict fun value => read value >>= f := by
  intro c value hc hm
  obtain ⟨e, he⟩ := h c value hc hm
  exact ⟨e, by simp only [he]; rfl⟩

theorem strict_parseU64 (name : String) : Strict (parseParam parseU64 name) := by
  refine strict_parseParam fun c value hc hm => ?_
  obtain ⟨e, he⟩ := @parseUnsigned_error (2 ^ 64 - 1) c value hm (by rcases hc with rfl | rfl <;> rfl)
    (by rcases hc with rfl | rfl <;> decide)
  exact ⟨_, by rw [parseU64, he]; rfl⟩

theorem strict_parseI64 (name : String) : Strict (parseParam parseI64 name) := by
  refine strict_parseParam fun c value hc hm => ?_
  obtain ⟨e, he⟩ := @parseSigned_error (2 ^ 63 - 1) c value hm (by rcases hc with rfl | rfl <;> rfl)
    (by rcases hc with rfl | rfl <;> decide) (by rcases hc with rfl | rfl <;> decide)
  exact ⟨_, by rw [parseI64, he]; rfl⟩

theorem strict_parseBool (name : String) : Strict (parseParam parseBool name) := by
  refine strict_parseParam fun c value hc hm => ?_
  unfold parseBool
  split
  · next h => subst h; rcases hc with rfl | rfl <;> exact absurd hm (by decide)
  · split
    · next h => subst h; rcases hc with rfl | rfl <;> exact absurd hm (by decide)
    · exact ⟨_, rfl⟩

/-- A character that is not a letter stays in the lower-case text. -/
theorem mem_toLowercase {c : Char} {s : String} (hc : c = ',' ∨ c = '/') (hm : c ∈ s.toList) :
    c ∈ (toLowercase s).toList := by
  rw [toLowercase, String.toList_ofList, List.mem_flatMap]
  refine ⟨c, hm, ?_⟩
  rcases hc with rfl | rfl <;> decide

theorem strict_parsePreference : Strict parsePreference := by
  intro c value hc hm
  have hl := mem_toLowercase hc hm
  unfold parsePreference
  split
  case h_5 => exact ⟨_, rfl⟩
  all_goals
    next h =>
    rw [h] at hl
    rcases hc with rfl | rfl <;> exact absurd hl (by decide)

/-- A time that is kept is at least the recommended one. -/
theorem parseKeepAlive_allowed {label : String} {value : Int} {d : Option Duration}
    (h : parseKeepAlive label 10000 value = .ok d) :
    ∀ d' ∈ d, (Duration.fromSecs 10).nanos ≤ d'.nanos := by
  rintro d' rfl
  unfold parseKeepAlive at h
  split at h
  next => cases h
  next hlow =>
    obtain ⟨d, hd, heq⟩ := map_eq_ok h
    cases heq
    unfold parseMillis at hd
    split at hd
    next =>
      cases hd
      simp only [Duration.fromMillis, Duration.fromSecs]
      omega
    next hnot =>
      split at hd
      next => cases hd
      next hneg =>
        cases hd
        simp only [Duration.fromMillis, Duration.fromSecs]
        omega

/-- How a checked parameter is read: the value by a strict reader, and what was read makes a
change of the parameter's own field. -/
structure ParamReads (p : String × String) {V : Type}
    (read : String → Except ClientSettingsParseError V) (change : V → Change) : Prop where
  strict : Strict read
  name : ∀ v, (change v).name = toLowercase p.1
  allowed : ∀ value v, read value = .ok v → (change v).Allowed
  apply : ∀ r, applyParam r p = read p.2 >>= fun v => pure ((change v).apply r)

/-- A checked parameter has a strict reader and changes one setting. -/
theorem applyParam_reads (hc : toLowercase p.1 ∈ checkedParams) :
    ∃ (V : Type) (read : String → Except ClientSettingsParseError V) (change : V → Change),
      ParamReads p read change := by
  have always {V : Type} {read : String → Except ClientSettingsParseError V} {change : V → Change}
      (h : ∀ v, (change v).Allowed) (value : String) (v : V) :
      read value = .ok v → (change v).Allowed := fun _ => h v
  simp only [checkedParams, List.mem_cons, List.not_mem_nil, or_false] at hc
  rcases hc with h | h | h | h | h | h | h | h | h
  · refine ⟨_, _, .maxDiscoverAttempts, strict_parseU64 "maxdiscoverattempts", fun _ => h.symm,
      always fun _ => trivial, fun r => ?_⟩
    simp only [applyParam, h, Change.apply]
  · refine ⟨_, _, fun n => .discoveryInterval (.fromMillis n), strict_parseU64 "discoveryinterval",
      fun _ => h.symm, always fun _ => trivial, fun r => ?_⟩
    simp only [applyParam, h, Change.apply]
  · refine ⟨_, _, fun n => .gossipTimeout (.fromMillis n), strict_parseU64 "gossiptimeout",
      fun _ => h.symm, always fun _ => trivial, fun r => ?_⟩
    simp only [applyParam, h, Change.apply]
  · refine ⟨_, _, .tls, strict_parseBool "tls", fun _ => h.symm, always fun _ => trivial,
      fun r => ?_⟩
    simp only [applyParam, h, Change.apply]
  · refine ⟨_, _, .tlsVerifyCert, strict_parseBool "tlsverifycert", fun _ => h.symm,
      always fun _ => trivial, fun r => ?_⟩
    simp only [applyParam, h, Change.apply]
  · refine ⟨_, _, .nodePreference, strict_parsePreference, fun _ => h.symm,
      always fun _ => trivial, fun r => ?_⟩
    simp only [applyParam, h, Change.apply]
  · refine ⟨_, _, .keepAliveInterval, strict_bind (strict_parseI64 "keepaliveinterval")
      (parseKeepAlive "keepAliveInterval" Defaults.keepAliveIntervalInMs), fun _ => h.symm,
      ?_, fun r => ?_⟩
    · intro value d hd
      obtain ⟨v, -, hd⟩ := bind_eq_ok hd
      exact parseKeepAlive_allowed hd
    · simp only [applyParam, h, bind_assoc, Change.apply]
      refine bind_congr fun v => bind_congr fun o => ?_
      cases o <;> rfl
  · refine ⟨_, _, .keepAliveTimeout, strict_bind (strict_parseI64 "keepalivetimeout")
      (parseKeepAlive "keepAliveTimeout" Defaults.keepAliveTimeoutInMs), fun _ => h.symm,
      ?_, fun r => ?_⟩
    · intro value d hd
      obtain ⟨v, -, hd⟩ := bind_eq_ok hd
      exact parseKeepAlive_allowed hd
    · simp only [applyParam, h, bind_assoc, Change.apply]
      refine bind_congr fun v => bind_congr fun o => ?_
      cases o <;> rfl
  · refine ⟨_, _, .defaultDeadline, strict_bind (strict_parseI64 "defaultdeadline")
      (parseMillis "defaultDeadline"), fun _ => h.symm, always fun _ => trivial, fun r => ?_⟩
    simp only [applyParam, h, bind_assoc, Change.apply]

theorem applyParam_checked (hc : toLowercase p.1 ∈ checkedParams) :
    (∃ e, ∀ r, applyParam r p = .error e) ∨
      ∃ c : Change, c.name = toLowercase p.1 ∧ c.Allowed ∧ ∀ r, applyParam r p = .ok (c.apply r) := by
  obtain ⟨V, read, change, reads⟩ := applyParam_reads hc
  cases hv : read p.2 with
  | error e => exact .inl ⟨e, fun r => by rw [reads.apply, hv]; rfl⟩
  | ok v =>
    exact .inr ⟨change v, reads.name v, reads.allowed _ v hv, fun r => by rw [reads.apply, hv]; rfl⟩

/-- **What a known parameter does**: it is refused, or it makes one change, whatever the
settings are. -/
theorem applyParam_change (hk : toLowercase p.1 ∈ knownParams) :
    (∃ e, ∀ r, applyParam r p = .error e) ∨
      ∃ c : Change, c.name = toLowercase p.1 ∧ c.Allowed ∧ ∀ r, applyParam r p = .ok (c.apply r) := by
  rcases mem_knownParams.mp hk with hc | ⟨t, ht⟩
  · exact applyParam_checked hc
  · exact .inr ⟨.text t p.2, ht.symm, trivial, applyParam_text ht⟩

theorem applyParam_passed (hk : toLowercase p.1 ∉ knownParams) (r : ClientSettings) :
    applyParam r p = .ok r :=
  applyParam_unknown (fun h => hk (mem_knownParams.mpr (.inl h)))
    fun t h => hk (mem_knownParams.mpr (.inr ⟨t, h⟩))

/-- A parameter that was taken left the settings alone or made an allowed change. -/
theorem applyParam_ok (h : applyParam r p = .ok r') :
    r' = r ∨ ∃ c : Change, c.name = toLowercase p.1 ∧ c.Allowed ∧ r' = c.apply r := by
  by_cases hk : toLowercase p.1 ∈ knownParams
  · rcases applyParam_change hk with ⟨e, he⟩ | ⟨c, hname, hc, hr⟩
    · rw [he] at h; cases h
    · rw [hr] at h
      cases h
      exact .inr ⟨c, hname, hc, rfl⟩
  · rw [applyParam_passed hk] at h
    cases h
    exact .inl rfl

end

end Kurrent
