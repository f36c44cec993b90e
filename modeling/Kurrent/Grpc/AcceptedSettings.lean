import Kurrent.Grpc.Accepted
import Kurrent.Grpc.NodeConnection

/-!
# What holds of accepted settings

Later code counts on settings that came from a connection string: `NodeConnection::new`
indexes the hosts to choose the cluster mode. The hosts are there before the parameters are
read, a parameter cannot take them away, and what a parameter may set is checked there.
-/

namespace Kurrent

open Lib

def discoverProtocols : List String :=
  ["esdb+discover", "kurrentdb+discover", "kurrent+discover", "kdb+discover"]

/-- A parsed URL holds its port as a `u16`. -/
def PortsFit (parse : String → Except UrlError Url) : Prop :=
  ∀ s url p, parse s = .ok url → url.port = some p → p ≤ 65535

/-- What holds from the moment the hosts are known, while the parameters are read. -/
structure Underway (url : Url) (setts : ClientSettings) : Prop where
  hosts : setts.hosts ≠ []
  ports : ∀ e ∈ setts.hosts, e.port ≤ 65535
  discover : setts.dnsDiscover = true ↔ url.scheme ∈ discoverProtocols
  credentials : setts.defaultUserName.isSome = true ↔ url.username ≠ ""
  keepAliveInterval : (Duration.fromSecs 10).nanos ≤ setts.keepAliveInterval.nanos
  keepAliveTimeout : (Duration.fromSecs 10).nanos ≤ setts.keepAliveTimeout.nanos

/-- Settings a client can work with, read from `url`. -/
structure AcceptedSettings (url : Url) (setts : ClientSettings) : Prop
    extends Underway url setts where
  certificates : setts.userCertFile.isSome = setts.userKeyFile.isSome

section

variable {url : Url} {setts : ClientSettings} {parse : String → Except UrlError Url} {s : String}

/-! ## Before, during and after the parameters -/

theorem discover_iff (h : url.scheme ∈ supportedProtocols) :
    "+discover".toList <:+: url.scheme.toList ↔ url.scheme ∈ discoverProtocols := by
  have hall : ∀ scheme ∈ supportedProtocols,
      ("+discover".toList <:+: scheme.toList ↔ scheme ∈ discoverProtocols) := by decide
  exact hall url.scheme h

theorem startUrl_credentials :
    (startUrl {} url).defaultUserName.isSome = true ↔ url.username ≠ "" := by
  unfold startUrl credentialsFromUrl
  split
  next h => simp [h]
  next h => simp [h]

theorem startUrl_discover (h : url.scheme ∈ supportedProtocols) :
    (startUrl {} url).dnsDiscover = true ↔ url.scheme ∈ discoverProtocols := by
  rw [← discover_iff h]
  unfold startUrl credentialsFromUrl
  split
  next => exact decide_eq_true_iff
  next => exact decide_eq_true_iff

/-- Scheme and user do not touch the keep-alive times. -/
theorem startUrl_keepAlive :
    (startUrl {} url).keepAliveInterval = .fromMillis Defaults.keepAliveIntervalInMs ∧
      (startUrl {} url).keepAliveTimeout = .fromMillis Defaults.keepAliveTimeoutInMs := by
  unfold startUrl credentialsFromUrl
  split <;> exact ⟨rfl, rfl⟩

theorem Underway.start {hosts : List Endpoint} (hs : url.scheme ∈ supportedProtocols)
    (hne : hosts ≠ []) (hports : ∀ e ∈ hosts, e.port ≤ 65535) :
    Underway url { startUrl {} url with hosts } := by
  obtain ⟨hinterval, htimeout⟩ := @startUrl_keepAlive url
  have hten : (Duration.fromSecs 10).nanos ≤ (Duration.fromMillis 10000).nanos := by decide
  refine ⟨hne, hports, startUrl_discover hs, startUrl_credentials, ?_, ?_⟩
  · rw [hinterval]
    exact hten
  · rw [htimeout]
    exact hten

/-- An allowed change leaves hosts, scheme and user alone and keeps the times long enough. -/
theorem Underway.change {c : Change} (hc : c.Allowed) (h : Underway url setts) :
    Underway url (c.apply setts) := by
  obtain ⟨hosts, ports, discover, credentials, interval, timeout⟩ := h
  cases c with
  | keepAliveInterval d =>
    cases d with
    | none => exact ⟨hosts, ports, discover, credentials, interval, timeout⟩
    | some d => exact ⟨hosts, ports, discover, credentials, hc d rfl, timeout⟩
  | keepAliveTimeout d =>
    cases d with
    | none => exact ⟨hosts, ports, discover, credentials, interval, timeout⟩
    | some d => exact ⟨hosts, ports, discover, credentials, interval, hc d rfl⟩
  | text t value =>
    cases t <;> exact ⟨hosts, ports, discover, credentials, interval, timeout⟩
  | _ => exact ⟨hosts, ports, discover, credentials, interval, timeout⟩

theorem Underway.param {p : String × String} {setts' : ClientSettings}
    (hp : applyParam setts p = .ok setts') (h : Underway url setts) : Underway url setts' := by
  rcases applyParam_ok hp with rfl | ⟨c, -, hc, rfl⟩
  · exact h
  · exact h.change hc

theorem checkCertificates_eq_ok (h : checkCertificates setts = .ok setts) :
    setts.userCertFile.isSome = setts.userKeyFile.isSome := by
  unfold checkCertificates at h
  split at h
  next => cases h
  next hc => cases hk : setts.userKeyFile <;> cases hf : setts.userCertFile <;> simp_all

theorem acceptedUrl_port (hp : PortsFit parse) (h : acceptedUrl parse s = some url) :
    ∀ p, url.port = some p → p ≤ 65535 := by
  unfold acceptedUrl at h
  intro p hport
  split at h
  next u hu =>
    cases h
    exact hp s url p hu hport
  next =>
    cases hslash : parse (replaceChar ',' '/' s) with
    | error e => rw [hslash] at h; cases h
    | ok u =>
      rw [hslash] at h
      cases h
      exact hp _ url p hslash hport

/-! ## The cluster mode -/

/-- Discovery through the first host, gossip with all of several, or the only one there is. -/
inductive ModeOf (setts : ClientSettings) : Option ClusterMode → Prop where
  | dns {first : Endpoint} : setts.dnsDiscover = true → setts.hosts.head? = some first →
      ModeOf setts (some (.dns first))
  | seeds : setts.dnsDiscover = false → 2 ≤ setts.hosts.length →
      ModeOf setts (some (.seeds setts.hosts))
  | single {host : Endpoint} : setts.dnsDiscover = false → setts.hosts = [host] →
      ModeOf setts none

/-- With a host there is a mode: the index is in bounds. -/
theorem chooseClusterMode_of_hosts (h : setts.hosts ≠ []) :
    ∃ mode, NodeConnection.chooseClusterMode setts = .ret mode ∧ ModeOf setts mode := by
  unfold NodeConnection.chooseClusterMode
  obtain ⟨first, rest, hhosts⟩ := List.exists_cons_of_ne_nil h
  cases hd : setts.dnsDiscover with
  | true =>
    simp only [Bool.true_or, if_true, hhosts, List.head?_cons]
    exact ⟨_, rfl, .dns hd (by rw [hhosts]; rfl)⟩
  | false =>
    simp only [Bool.false_or, decide_eq_true_eq, Bool.false_eq_true, if_false]
    split
    next hlen => exact ⟨_, rfl, .seeds hd (by omega)⟩
    next hlen =>
      refine ⟨_, rfl, @ModeOf.single _ first hd ?_⟩
      cases rest with
      | nil => exact hhosts
      | cons second rest => simp [hhosts] at hlen

end

/-- **Accepted settings are sound**, whichever way the string was read: there is a host, the
ports fit, discovery follows the scheme and the user the URL, certificate and key come
together, the keep-alive times are long enough, and the cluster mode is chosen without a
panic. -/
theorem accepted_settings {parse : String → Except UrlError Url} {s : String}
    {setts : ClientSettings} (hp : PortsFit parse)
    (h : ClientSettings.fromStr parse s = .ok setts) :
    ∃ url, acceptedUrl parse s = some url ∧ AcceptedSettings url setts ∧
      ∃ conn, NodeConnection.new setts = .ret conn ∧ ModeOf setts conn.clusterMode := by
  obtain ⟨url, hosts, hurl, hs, hne, hports, hparams, hcheck⟩ := accepted_base h
  have hstart : Underway url { startUrl {} url with hosts } :=
    .start hs hne (hports (acceptedUrl_port hp hurl))
  have hlast : Underway url setts :=
    foldlM_inv (fun _ _ _ hb ha => Underway.param hb ha) hparams hstart
  obtain ⟨mode, hmode, hof⟩ := chooseClusterMode_of_hosts hlast.hosts
  have hnew : NodeConnection.new setts = .ret ⟨Uuid.nil, none, setts, mode, none⟩ := by
    rw [NodeConnection.new, hmode]
    rfl
  exact ⟨url, hurl, ⟨hlast, checkCertificates_eq_ok hcheck⟩, _, hnew, hof⟩

theorem listUrl_ports : PortsFit listUrl := by
  intro s url p h hport
  unfold listUrl at h
  obtain ⟨plain, hplain, rfl⟩ := map_eq_ok h
  unfold plainUrl at hplain
  split at hplain
  next => cases hplain
  next =>
    obtain ⟨port, hp, rfl⟩ := map_eq_ok hplain
    simp only [urlOf] at hport
    subst hport
    unfold plainPort at hp
    split at hp
    next => cases hp
    next text =>
      split at hp
      next => cases hp
      next =>
        split at hp
        next hfit => cases hp; exact hfit.2
        next => cases hp

theorem accepted_settings_discover : ∃ setts,
    ClientSettings.fromStr listUrl "kdb+discover://a:1234,b:1235?keepAliveInterval=20000" =
      .ok setts ∧
    ∃ url, acceptedUrl listUrl "kdb+discover://a:1234,b:1235?keepAliveInterval=20000" = some url ∧
      AcceptedSettings url setts ∧
      ∃ conn, NodeConnection.new setts = .ret conn ∧ ModeOf setts conn.clusterMode := by
  obtain ⟨setts, hs⟩ := exists_ok (show (ClientSettings.fromStr listUrl
    "kdb+discover://a:1234,b:1235?keepAliveInterval=20000").toOption.isSome = true by
      decide +kernel)
  exact ⟨setts, hs, accepted_settings listUrl_ports hs⟩

end Kurrent
