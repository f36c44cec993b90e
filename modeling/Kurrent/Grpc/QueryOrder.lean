import Kurrent.Grpc.Accepted
import Kurrent.Lib.Orders

/-!
# The order of the parameters

The parameters of a query are applied one after the other to one settings record. What a
parameter asks for hangs on its own name and value only, and each name has a field of its
own, so parameters of different names can be taken in either order. Neither the case of a
name nor that of a node preference matters, and a name no parameter has is passed over.
-/

namespace Kurrent

open Lib

section

variable {r : ClientSettings} {p q : String × String}

/-- Changes of different names have different fields. -/
theorem Change.comm {c d : Change} (h : c.name ≠ d.name) (r : ClientSettings) :
    c.apply (d.apply r) = d.apply (c.apply r) := by
  cases c with
  | text t value =>
    cases d with
    | text t' value' =>
      have hne : t ≠ t' := fun heq => h (by rw [heq]; rfl)
      cases t <;> cases t' <;> first | rfl | exact absurd rfl hne
    | _ => cases t <;> rfl
  | _ =>
    cases d with
    | text t value => cases t <;> rfl
    | _ => first | rfl | exact absurd rfl h

/-- Two parameters of different names can be taken in either order. -/
theorem applyParam_comm (h : toLowercase p.1 ≠ toLowercase q.1) (r : ClientSettings) :
    ((applyParam r p).toOption.bind fun s => (applyParam s q).toOption) =
      (applyParam r q).toOption.bind fun s => (applyParam s p).toOption := by
  by_cases hp : toLowercase p.1 ∈ knownParams
  · by_cases hq : toLowercase q.1 ∈ knownParams
    · rcases applyParam_change hp with ⟨e, he⟩ | ⟨c, hc, -, hcp⟩
      · simp only [he, Except.toOption, Option.bind_none, Option.bind_fun_none]
      rcases applyParam_change hq with ⟨e, he⟩ | ⟨d, hd, -, hdq⟩
      · simp only [he, Except.toOption, Option.bind_none, Option.bind_fun_none]
      have hcd : c.name ≠ d.name := by rw [hc, hd]; exact h
      simp only [hcp, hdq, Except.toOption, Option.bind_some]
      rw [Change.comm hcd]
    · simp only [applyParam_passed hq, Except.toOption, Option.bind_some, Option.bind_fun_some]
  · simp only [applyParam_passed hp, Except.toOption, Option.bind_some, Option.bind_fun_some]

/-! ## Letter case -/

/-- The same name up to letter case; of names that no parameter has one is as good as the
other. -/
def SameName (n n' : String) : Prop :=
  toLowercase n = toLowercase n' ∨
    (toLowercase n ∉ knownParams ∧ toLowercase n' ∉ knownParams)

def preferences : List String := ["follower", "random", "leader", "readonlyreplica"]

def SamePreference (v v' : String) : Prop :=
  toLowercase v = toLowercase v' ∨
    (toLowercase v ∉ preferences ∧ toLowercase v' ∉ preferences)

/-- The same parameter up to the case of its name, and of its value for a node preference. -/
structure SameParam (p q : String × String) : Prop where
  name : SameName p.1 q.1
  value : p.2 = q.2 ∨ (toLowercase p.1 = "nodepreference" ∧ SamePreference p.2 q.2)

theorem parsePreference_unknown {v : String} (h : toLowercase v ∉ preferences) :
    (parsePreference v).toOption = none := by
  simp only [preferences, List.mem_cons, List.not_mem_nil, or_false, not_or] at h
  unfold parsePreference
  split <;> first | rfl | simp_all

theorem parsePreference_same {v v' : String} (h : SamePreference v v') :
    (parsePreference v).toOption = (parsePreference v').toOption := by
  rcases h with h | ⟨h, h'⟩
  · unfold parsePreference
    rw [h]
  · rw [parsePreference_unknown h, parsePreference_unknown h']

theorem applyParam_same (h : SameParam p q) (r : ClientSettings) :
    (applyParam r p).toOption = (applyParam r q).toOption := by
  obtain ⟨hn | ⟨hp, hq⟩, hv⟩ := h
  · rcases hv with hv | ⟨hpref, hv⟩
    · unfold applyParam
      rw [hn, hv]
    · have hq : toLowercase q.1 = "nodepreference" := hn ▸ hpref
      unfold applyParam
      simp only [hpref, hq]
      rw [toOption_bind, toOption_bind, parsePreference_same hv]
  · rw [applyParam_passed hp, applyParam_passed hq]

/-! ## Queries -/

theorem foldlM_same {ps qs : List (String × String)} (h : List.Forall₂ SameParam ps qs)
    (r : ClientSettings) :
    (ps.foldlM applyParam r).toOption = (qs.foldlM applyParam r).toOption := by
  rw [toOption_foldlM, toOption_foldlM]
  induction h generalizing r with
  | nil => rfl
  | cons hpq _ ih =>
    simp only [List.foldlM_cons]
    rw [applyParam_same hpq]
    exact congrArg _ (funext ih)

theorem foldlM_order {ps qs : List (String × String)} (h : ps.Perm qs)
    (hnames : (ps.map fun p => toLowercase p.1).Nodup) (r : ClientSettings) :
    (ps.foldlM applyParam r).toOption = (qs.foldlM applyParam r).toOption := by
  rw [toOption_foldlM, toOption_foldlM]
  refine foldlM_perm h (fun p hp q hq s => ?_) r
  by_cases hpq : toLowercase p.1 = toLowercase q.1
  · rw [List.inj_on_of_nodup_map hnames hp hq hpq]
  · exact applyParam_comm hpq s

theorem foldlM_passed (ps : List (String × String)) (r : ClientSettings) :
    ps.foldlM applyParam r =
      (ps.filter fun p => toLowercase p.1 ∈ knownParams).foldlM applyParam r := by
  induction ps generalizing r with
  | nil => rfl
  | cons p ps ih =>
    by_cases hp : toLowercase p.1 ∈ knownParams
    · rw [List.filter_cons_of_pos (by simpa using hp), List.foldlM_cons, List.foldlM_cons]
      exact congrArg _ (funext ih)
    · rw [List.filter_cons_of_neg (by simpa using hp), List.foldlM_cons, applyParam_passed hp]
      exact ih r

/-- Queries that do the same to every settings record make the same of a URL. -/
theorem parseFromUrl_toOption {url : Url} {ps qs : List (String × String)}
    (h : ∀ s, (ps.foldlM applyParam s).toOption = (qs.foldlM applyParam s).toOption) :
    (parseFromUrl r { url with queryPairs := ps }).toOption =
      (parseFromUrl r { url with queryPairs := qs }).toOption := by
  by_cases ha : UrlAllowed r url
  · have hp : UrlAllowed r { url with queryPairs := ps } := ha
    have hq : UrlAllowed r { url with queryPairs := qs } := ha
    rw [parseFromUrl_allowed hp, parseFromUrl_allowed hq]
    unfold readUrl
    have hs : startHosts r { url with queryPairs := ps } =
        startHosts r { url with queryPairs := qs } := rfl
    rw [hs]
    simp only [toOption_bind, h]
  · have hnone (ts : List (String × String)) :
        (parseFromUrl r { url with queryPairs := ts }).toOption = none := by
      cases hr : parseFromUrl r { url with queryPairs := ts } with
      | error e => rfl
      | ok setts => exact absurd (urlAllowed_of_ok hr) ha
    rw [hnone, hnone]

/-- Queries that differ in unknown names only are not told apart at all. -/
theorem parseFromUrl_passed {url : Url} {ps qs : List (String × String)}
    (h : (ps.filter fun p => toLowercase p.1 ∈ knownParams) =
      qs.filter fun p => toLowercase p.1 ∈ knownParams) :
    parseFromUrl r { url with queryPairs := ps } =
      parseFromUrl r { url with queryPairs := qs } := by
  have hfold (s : ClientSettings) : ps.foldlM applyParam s = qs.foldlM applyParam s := by
    rw [foldlM_passed ps, foldlM_passed qs, h]
  unfold parseFromUrl
  simp only [hfold]
  rfl

end

/-- **The order of the parameters does not matter**: a query whose names differ up to letter
case is read as any permutation of it, in any case of the names and of the node preference,
and parameters of unknown names can come and go. -/
theorem query_order_and_case (r : ClientSettings) (url : Url) {ps qs ps' : List (String × String)}
    (hnames : (ps.map fun p => toLowercase p.1).Nodup) (hperm : ps.Perm qs)
    (hcase : List.Forall₂ SameParam qs ps') :
    (parseFromUrl r { url with queryPairs := ps }).toOption =
      (parseFromUrl r { url with queryPairs := ps' }).toOption ∧
    ∀ ts us : List (String × String),
      (ts.filter fun p => toLowercase p.1 ∈ knownParams) =
        (us.filter fun p => toLowercase p.1 ∈ knownParams) →
      parseFromUrl r { url with queryPairs := ts } =
        parseFromUrl r { url with queryPairs := us } := by
  refine ⟨parseFromUrl_toOption fun s => ?_, fun ts us h => parseFromUrl_passed h⟩
  rw [foldlM_order hperm hnames, foldlM_same hcase]

def hostUrl : Url where
  scheme := "esdb"
  host := some "host"
  port := none
  path := ""
  pathSegments := none

/-- Six parameters in mixed case, and the same ones in another case and order. -/
theorem query_order_mixed_case :
    (parseFromUrl {} { hostUrl with queryPairs :=
      [("MaxDiscoverAttempts", "200"), ("discoveryinterval", "1000"), ("GOSSIPTIMEOUT", "1"),
        ("nOdEpReFeReNcE", "leader"), ("TLS", "false"), ("TlsVerifyCert", "false")] }).toOption =
    (parseFromUrl {} { hostUrl with queryPairs :=
      [("tlsVerifyCert", "false"), ("tls", "false"), ("nodePreference", "LEADER"),
        ("gossipTimeout", "1"), ("discoveryInterval", "1000"),
        ("maxDiscoverAttempts", "200")] }).toOption := by
  have hperm := List.reverse_perm
    [("MaxDiscoverAttempts", "200"), ("discoveryinterval", "1000"), ("GOSSIPTIMEOUT", "1"),
      ("nOdEpReFeReNcE", "leader"), ("TLS", "false"), ("TlsVerifyCert", "false")]
  refine (query_order_and_case {} hostUrl (by decide +kernel) hperm.symm ?_).1
  have hsame {n n' v : String} (h : toLowercase n = toLowercase n') :
      SameParam (n, v) (n', v) := ⟨.inl h, .inl rfl⟩
  refine .cons (hsame (by decide +kernel)) (.cons (hsame (by decide +kernel)) (.cons ?_
    (.cons (hsame (by decide +kernel)) (.cons (hsame (by decide +kernel))
      (.cons (hsame (by decide +kernel)) .nil)))))
  exact ⟨.inl (by decide +kernel), .inr ⟨by decide +kernel, .inl (by decide +kernel)⟩⟩

end Kurrent
