import Kurrent.Grpc.Query

/-!
# Accepted connection strings

What it takes for `ClientSettings::from_str` to accept a string, whatever the string: the
URL it is read from, the texts it names seeds with, and what of that URL ends up in the
settings. A seed that is the empty text, or begins with its colon, becomes an endpoint
without a host name. Behind a list that is read a second time, as the path of a URL, a
slash is such a seed.
-/

namespace Kurrent

open Lib

/-! ## What an accepted string goes through -/

section

variable {r r' setts : ClientSettings} {url : Url}

/-- No parameter touches the hosts. -/
theorem applyParam_hosts {p : String × String} (h : applyParam r p = .ok r') :
    r'.hosts = r.hosts := by
  rcases applyParam_ok h with rfl | ⟨c, -, -, rfl⟩
  · rfl
  · cases c with
    | text t value => cases t <;> rfl
    | _ => rfl

theorem hosts_foldlM {ps : List (String × String)} (h : ps.foldlM applyParam r = .ok r') :
    r'.hosts = r.hosts := by
  have hstep (a : ClientSettings) (p : String × String) (b : ClientSettings)
      (hb : applyParam a p = .ok b) (ha : a.hosts = r.hosts) : b.hosts = r.hosts := by
    rw [applyParam_hosts hb, ha]
  exact foldlM_inv hstep h rfl

theorem checkCertificates_ok (h : checkCertificates r = .ok r') : r' = r := by
  unfold checkCertificates at h
  split at h
  · cases h
  · cases h; rfl

/-- The settings before the hosts are read. -/
def startUrl (r : ClientSettings) (url : Url) : ClientSettings :=
  credentialsFromUrl { r with dnsDiscover := "+discover".toList <:+: url.scheme.toList } url

@[simp] theorem startUrl_hosts (r : ClientSettings) (url : Url) :
    (startUrl r url).hosts = r.hosts := by
  unfold startUrl credentialsFromUrl
  split <;> rfl

@[simp] theorem startUrl_get (t : TextParam) (r : ClientSettings) (url : Url) :
    t.get (startUrl r url) = t.get r := by
  unfold startUrl credentialsFromUrl
  split <;> cases t <;> rfl

/-- Hosts that are there already stay as they are. -/
def startHosts (r : ClientSettings) (url : Url) : Parsed :=
  if r.hosts = [] then hostsFromUrl (startUrl r url) url else .ok (startUrl r url)

/-- What is left of `parseFromUrl` once scheme, path and host have passed. -/
def readUrl (r : ClientSettings) (url : Url) : Parsed := do
  let result ← startHosts r url
  let result ← url.queryPairs.foldlM applyParam result
  checkCertificates result

/-- Scheme, path and host pass. -/
def UrlAllowed (r : ClientSettings) (url : Url) : Prop :=
  url.scheme ∈ supportedProtocols ∧
    (r.hosts = [] → (url.path = "" ∨ url.path = "/") ∧ url.host ≠ none)

theorem parseFromUrl_allowed (h : UrlAllowed r url) : parseFromUrl r url = readUrl r url := by
  obtain ⟨hs, hu⟩ := h
  have hpath : ¬ (r.hosts = [] ∧ url.path ≠ "" ∧ url.path ≠ "/") := by
    rintro ⟨hr, h1, h2⟩
    exact (hu hr).1.elim h1 h2
  have hhost : ¬ (r.hosts = [] ∧ url.host = none) := fun ⟨hr, hn⟩ => (hu hr).2 hn
  have hstart := startUrl_hosts r url
  unfold startUrl at hstart
  unfold parseFromUrl readUrl startHosts startUrl
  simp only [hs, not_true_eq_false, if_false, hstart, hpath, hhost]
  split <;> rfl

theorem urlAllowed_of_ok (h : parseFromUrl r url = .ok setts) : UrlAllowed r url := by
  have hstart := startUrl_hosts r url
  unfold startUrl at hstart
  unfold parseFromUrl at h
  simp only [hstart] at h
  by_cases hs : url.scheme ∈ supportedProtocols
  · refine ⟨hs, fun hr => ?_⟩
    simp only [hs, not_true_eq_false, if_false, hr, true_and] at h
    by_cases hp : url.path ≠ "" ∧ url.path ≠ "/"
    · rw [if_pos hp] at h
      cases h
    · refine ⟨?_, fun hn => ?_⟩
      · by_cases h1 : url.path = ""
        · exact .inl h1
        · exact .inr (by_contra fun h2 => hp ⟨h1, h2⟩)
      · rw [if_neg hp, if_pos hn] at h
        cases h
  · simp only [hs, not_false_eq_true, if_true] at h
    cases h

/-- The three steps of `readUrl`. -/
theorem readUrl_ok (h : readUrl r url = .ok setts) :
    ∃ base, startHosts r url = .ok base ∧ url.queryPairs.foldlM applyParam base = .ok setts ∧
      checkCertificates setts = .ok setts := by
  unfold readUrl at h
  obtain ⟨base, hbase, h⟩ := bind_eq_ok h
  obtain ⟨last, hlast, h⟩ := bind_eq_ok h
  obtain rfl := checkCertificates_ok h
  exact ⟨base, hbase, hlast, h⟩

/-- The URL the settings of a connection string are read from. -/
def acceptedUrl (parse : String → Except UrlError Url) (s : String) : Option Url :=
  match parse s with
  | .ok url => some url
  | .error _ => (parse (replaceChar ',' '/' s)).toOption

/-- **An accepted string** is a URL, or it is one with slashes for its commas. -/
theorem fromStr_ok {parse : String → Except UrlError Url} {s : String}
    (h : ClientSettings.fromStr parse s = .ok setts) :
    (∃ url, parse s = .ok url ∧ UrlAllowed {} url ∧ readUrl {} url = .ok setts) ∨
    (parse s = .error .invalidPort ∧ ',' ∈ s.toList ∧
      ∃ url host seeds, parse (replaceChar ',' '/' s) = .ok url ∧ url.host = some host ∧
        (url.pathSegments.getD []).foldlM parseGossipSeed (pushHost {} host (url.port.getD 2113)) =
          .ok seeds ∧ UrlAllowed seeds url ∧ readUrl seeds url = .ok setts) := by
  unfold ClientSettings.fromStr at h
  cases hp : parse s with
  | ok url =>
    rw [hp] at h
    have ha := urlAllowed_of_ok h
    exact .inl ⟨url, rfl, ha, (parseFromUrl_allowed ha).symm.trans h⟩
  | error e =>
    simp only [hp] at h
    split at h
    · next hc =>
      obtain ⟨rfl, hc⟩ := hc
      split at h
      · cases h
      · next url hurl =>
        split at h
        · cases h
        · next host hhost =>
          obtain ⟨seeds, hseeds, h⟩ := bind_eq_ok h
          have ha := urlAllowed_of_ok h
          exact .inr ⟨rfl, hc, url, host, seeds, hurl, hhost, hseeds, ha,
            (parseFromUrl_allowed ha).symm.trans h⟩
    · cases h

end

/-! ## The hosts -/

/-- The text has a host name in front of its colon. -/
def named (seed : String) : Bool := seed.toList.head?.any fun c => c ≠ ':'

def Endpoint.named (e : Endpoint) : Bool := e.host ≠ ""

section

variable {r r' : ClientSettings} {url : Url}

theorem named_iff {seed name : String} {rest : List String} (h : split ':' seed = name :: rest) :
    decide (name ≠ "") = named seed := by
  have hn := split_head_empty h
  unfold named
  cases hh : seed.toList.head? with
  | none => simpa [hh] using hn
  | some c => simp [hh] at hn; simp [hn]

theorem parseGossipSeed_ok {seed : String} (h : parseGossipSeed r seed = .ok r') :
    ∃ e : Endpoint, r' = { r with hosts := r.hosts ++ [e] } ∧ e.named = named seed ∧
      e.port ≤ 65535 := by
  unfold parseGossipSeed at h
  split at h
  · next piece hs =>
    cases h
    -- a seed without a colon is its only piece
    have hseed : piece = seed := by
      have := congrArg (join ':') hs
      simpa [split, join, List.intercalate_splitOn, Function.comp_def] using this.symm
    exact ⟨⟨seed, 2113⟩, rfl, by rw [← named_iff hs, hseed]; rfl, by simp⟩
  · next name port hs =>
    split at h
    · next p hp =>
      cases h
      exact ⟨⟨name, p⟩, rfl, named_iff hs, parseUnsigned_le hp⟩
    · cases h
  · cases h

theorem foldlM_parseGossipSeed {seeds : List String} :
    ∀ {r r' : ClientSettings}, seeds.foldlM parseGossipSeed r = .ok r' →
      ∃ new : List Endpoint, r' = { r with hosts := r.hosts ++ new } ∧
        new.map Endpoint.named = seeds.map named ∧ ∀ e ∈ new, e.port ≤ 65535 := by
  induction seeds with
  | nil =>
    intro r r' h
    cases h
    exact ⟨[], by simp, rfl, by simp⟩
  | cons seed seeds ih =>
    intro r r' h
    rw [List.foldlM_cons] at h
    obtain ⟨r₁, h₁, h⟩ := bind_eq_ok h
    obtain ⟨e, rfl, he, hport⟩ := parseGossipSeed_ok h₁
    obtain ⟨new, rfl, hnew, hports⟩ := ih h
    refine ⟨e :: new, by simp, by rw [List.map_cons, List.map_cons, he, hnew], ?_⟩
    exact List.forall_mem_cons.mpr ⟨hport, hports⟩

theorem hostsFromUrl_ok (h : hostsFromUrl r url = .ok r') :
    ∃ new : List Endpoint, r' = { r with hosts := r.hosts ++ new } ∧ new ≠ [] ∧
      (∀ host, url.host = some host → named host = true →
        new.map Endpoint.named = (split ',' host).map named) ∧
      ((∀ p, url.port = some p → p ≤ 65535) → ∀ e ∈ new, e.port ≤ 65535) := by
  unfold hostsFromUrl at h
  simp only at h
  split at h
  · next hc =>
    cases h
    refine ⟨_, rfl, by simp, fun host hh hn => ?_, fun hport => ?_⟩
    · rw [hh, Option.getD_some] at hc ⊢
      have hne : Endpoint.named ⟨host, url.port.getD 2113⟩ = true := by
        simp only [Endpoint.named, decide_eq_true_eq]
        rintro rfl
        cases hn
      rw [split_of_notMem hc]
      simp [hne, hn]
    · rw [List.forall_mem_singleton]
      cases hp : url.port with
      | none => simp
      | some p => exact hport p hp
  · obtain ⟨new, hr, hnew, hports⟩ := foldlM_parseGossipSeed h
    refine ⟨new, hr, ?_, fun host hh _ => ?_, fun _ => hports⟩
    · rintro rfl
      have hnil : split ',' (url.host.getD "") = [] := by simpa using hnew.symm
      exact List.splitOn_ne_nil _ _ (List.map_eq_nil_iff.mp hnil)
    · rwa [hh, Option.getD_some] at hnew

end

/-- The texts of the seeds: of a host the pieces between its commas, else the host and the
segments of the path. -/
def seedTexts (parse : String → Except UrlError Url) (s : String) : List String :=
  match parse s with
  | .ok url => split ',' (url.host.getD "")
  | .error _ =>
    match parse (replaceChar ',' '/' s) with
    | .ok url => url.host.getD "" :: url.pathSegments.getD []
    | .error _ => []

/-! ## A slash behind the seeds -/

/-- Neither blanks nor the beginning of a query or a fragment. -/
def Plain (text : String) : Prop := ∀ c ∈ text.toList, ' ' < c ∧ c ≠ '?' ∧ c ≠ '#'

/-- The path segments that a URL parser takes away. -/
def isDots (segment : String) : Bool :=
  toLowercase segment ∈ [".", "%2e", "..", ".%2e", "%2e.", "%2e%2e"]

/-- The URL with one more slash behind its path. -/
def Url.slash (url : Url) : Url :=
  { url with path := url.path ++ "/", pathSegments := some (url.pathSegments.getD [] ++ [""]) }

/-- What the client relies on in the URL parser when it reads seeds: a host is not empty
and ends at the first colon, a slash ends host and port and begins a last segment that is
empty, and a query changes nothing but the query pairs. -/
structure SeedUrls (parse : String → Except UrlError Url) : Prop where
  host : ∀ {s url host}, parse s = .ok url → url.host = some host → named host = true
  path : ∀ {scheme rest url}, scheme ∈ supportedProtocols → Plain rest → '/' ∉ rest.toList →
    parse (scheme ++ "://" ++ rest) = .ok url → url.path = ""
  slash : ∀ {scheme rest url}, scheme ∈ supportedProtocols → Plain rest →
    ('/' ∈ rest.toList → isDots ((split '/' rest).getLastD "") = false) →
    parse (scheme ++ "://" ++ rest) = .ok url → url.host ≠ none →
    parse (scheme ++ "://" ++ rest ++ "/") = .ok url.slash
  port : ∀ {scheme rest}, scheme ∈ supportedProtocols → Plain rest →
    parse (scheme ++ "://" ++ rest) = .error .invalidPort →
    parse (scheme ++ "://" ++ rest ++ "/") = .error .invalidPort
  query : ∀ q, ∃ pairs, ∀ {scheme rest url}, scheme ∈ supportedProtocols → Plain rest →
    parse (scheme ++ "://" ++ rest) = .ok url → url.host ≠ none →
    parse (scheme ++ "://" ++ rest ++ ("?" ++ q)) = .ok { url with queryPairs := pairs }

/-- Seeds with commas between them: no path, and a last seed that is no dot segment. -/
structure SeedList (list : String) : Prop where
  plain : Plain list
  noSlash : '/' ∉ list.toList
  last : isDots ((split ',' list).getLastD "") = false

/-- With a slash behind it, and with a query behind that, the string keeps these hosts. -/
def SlashTolerated (parse : String → Except UrlError Url) (s : String) (hosts : List Endpoint) :
    Prop :=
  ∀ (query : Option String) setts,
    ClientSettings.fromStr parse (s ++ UrlParts.after { query }) = .ok setts →
    ∃ setts', ClientSettings.fromStr parse (s ++ "/" ++ UrlParts.after { query }) = .ok setts' ∧
      setts'.hosts = hosts

section

variable {parse : String → Except UrlError Url} {s scheme list : String} {setts : ClientSettings}
  {url : Url}

theorem startHosts_none {r : ClientSettings} (h : r.hosts = []) :
    startHosts r url = hostsFromUrl (startUrl r url) url := if_pos h

theorem startHosts_some {r : ClientSettings} (h : r.hosts ≠ []) :
    startHosts r url = .ok (startUrl r url) := if_neg h

theorem startUrl_with_hosts (r : ClientSettings) (url : Url) (hosts : List Endpoint) :
    startUrl { r with hosts } url = { startUrl r url with hosts } := by
  unfold startUrl credentialsFromUrl
  split <;> rfl

/-- **The settings of an accepted string** come from its URL, on either way in three steps:
scheme, user and hosts first, then the parameters, then the check of the certificates. -/
theorem accepted_base (h : ClientSettings.fromStr parse s = .ok setts) :
    ∃ url hosts, acceptedUrl parse s = some url ∧ url.scheme ∈ supportedProtocols ∧
      hosts ≠ [] ∧ ((∀ p, url.port = some p → p ≤ 65535) → ∀ e ∈ hosts, e.port ≤ 65535) ∧
      url.queryPairs.foldlM applyParam { startUrl {} url with hosts } = .ok setts ∧
      checkCertificates setts = .ok setts := by
  rcases fromStr_ok h with ⟨url, hurl, ha, hread⟩ |
    ⟨hport, -, url, host, seeds, hurl, -, hseeds, ha, hread⟩
  · obtain ⟨base, hbase, hparams, hcheck⟩ := readUrl_ok hread
    rw [startHosts_none rfl] at hbase
    obtain ⟨new, rfl, hne, -, hports⟩ := hostsFromUrl_ok hbase
    rw [startUrl_hosts, List.nil_append] at hparams
    exact ⟨url, new, by rw [acceptedUrl, hurl], ha.1, hne, hports, hparams, hcheck⟩
  · obtain ⟨new, rfl, -, hports⟩ := foldlM_parseGossipSeed hseeds
    obtain ⟨base, hbase, hparams, hcheck⟩ := readUrl_ok hread
    rw [startHosts_some (by simp [pushHost])] at hbase
    cases hbase
    rw [startUrl_with_hosts, pushHost, startUrl_with_hosts] at hparams
    refine ⟨url, _, by rw [acceptedUrl, hport, hurl]; rfl, ha.1, ?_, fun hp => ?_,
      hparams, hcheck⟩
    · simp
    · have hfirst : url.port.getD 2113 ≤ 65535 := by
        cases hport : url.port with
        | none => simp
        | some p => exact hp p hport
      exact List.forall_mem_cons.mpr ⟨hfirst, hports⟩

/-- **The hosts of an accepted string** are its seeds, one for one: those without a name are
the texts without one. -/
theorem accepted_hosts (hp : SeedUrls parse) (h : ClientSettings.fromStr parse s = .ok setts) :
    setts.hosts.map Endpoint.named = (seedTexts parse s).map named := by
  rcases fromStr_ok h with ⟨url, hurl, ha, hread⟩ |
    ⟨hport, -, url, host, seeds, hurl, hhost, hseeds, -, hread⟩
  · obtain ⟨host, hhost⟩ := Option.ne_none_iff_exists'.mp (ha.2 rfl).2
    obtain ⟨base, hbase, hparams, -⟩ := readUrl_ok hread
    rw [startHosts_none rfl] at hbase
    obtain ⟨new, rfl, -, hnew, -⟩ := hostsFromUrl_ok hbase
    rw [hosts_foldlM hparams]
    simpa [seedTexts, hurl, hhost] using hnew host hhost (hp.host hurl hhost)
  · obtain ⟨new, rfl, hnew, -⟩ := foldlM_parseGossipSeed hseeds
    obtain ⟨base, hbase, hparams, -⟩ := readUrl_ok hread
    rw [startHosts_some (by simp [pushHost])] at hbase
    cases hbase
    have hfirst : Endpoint.named ⟨host, url.port.getD 2113⟩ = named host := by
      rw [hp.host hurl hhost, Endpoint.named, decide_eq_true_eq]
      rintro rfl
      cases hp.host hurl hhost
    rw [hosts_foldlM hparams, startUrl_hosts]
    simp [seedTexts, hport, hurl, hhost, pushHost, hnew, hfirst]

/-- No host name is empty when every seed has one. -/
theorem accepted_named_iff (hp : SeedUrls parse) (h : ClientSettings.fromStr parse s = .ok setts) :
    (∀ e ∈ setts.hosts, e.host ≠ "") ↔ ∀ seed ∈ seedTexts parse s, named seed = true := by
  have hmap := accepted_hosts hp h
  calc (∀ e ∈ setts.hosts, e.host ≠ "")
    _ ↔ ∀ b ∈ setts.hosts.map Endpoint.named, b = true := by simp [Endpoint.named]
    _ ↔ ∀ b ∈ (seedTexts parse s).map named, b = true := by rw [hmap]
    _ ↔ ∀ seed ∈ seedTexts parse s, named seed = true := by simp

/-- The path of a URL with nothing behind its host may be a slash. -/
theorem parseFromUrl_slash (ha : UrlAllowed {} url) (hpath : url.path = "") :
    parseFromUrl {} url.slash = readUrl {} url := by
  have hs : UrlAllowed {} url.slash :=
    ⟨ha.1, fun hr => ⟨.inr (by simp [Url.slash, hpath]), (ha.2 hr).2⟩⟩
  rw [parseFromUrl_allowed hs]
  rfl

theorem Plain.append_slash (h : Plain list) : Plain (list ++ "/") := by
  intro c hc
  rcases List.mem_append.mp (String.toList_append ▸ hc) with hc | hc
  · exact h c hc
  · obtain rfl := List.mem_singleton.mp hc
    decide

theorem Plain.replaceChar (h : Plain list) : Plain (replaceChar ',' '/' list) := by
  intro c hc
  simp only [Lib.replaceChar, String.toList_ofList, List.mem_map] at hc
  obtain ⟨d, hd, rfl⟩ := hc
  split
  · decide
  · exact h d hd

/-- Only the seeds have commas in them. -/
theorem replaceChar_seeds (hs : scheme ∈ supportedProtocols) (rest : String) :
    replaceChar ',' '/' (scheme ++ "://" ++ rest) = scheme ++ "://" ++ replaceChar ',' '/' rest := by
  have hcomma : ',' ∉ (scheme ++ "://").toList := by revert scheme; decide
  rw [replaceChar_append, replaceChar_of_notMem hcomma]

/-- The parser on strings that differ in their queries. -/
theorem SeedUrls.after (hp : SeedUrls parse) (query : Option String) :
    ∃ pairs : Url → List (String × String), (∀ url, pairs url.slash = pairs url) ∧
      ∀ {scheme rest url}, scheme ∈ supportedProtocols → Plain rest →
        parse (scheme ++ "://" ++ rest) = .ok url → url.host ≠ none →
        parse (scheme ++ "://" ++ rest ++ UrlParts.after { query }) =
          .ok { url with queryPairs := pairs url } := by
  cases query with
  | none =>
    refine ⟨fun url => url.queryPairs, fun _ => rfl, fun _ _ hurl _ => ?_⟩
    rw [UrlParts.after, String.append_empty, hurl]
  | some q =>
    obtain ⟨pairs, hq⟩ := hp.query q
    exact ⟨fun _ => pairs, fun _ => rfl, hq⟩

theorem fromStr_of_url (h : parse s = .ok url) :
    ClientSettings.fromStr parse s = parseFromUrl {} url := by
  unfold ClientSettings.fromStr
  rw [h]

/-- A list that is read as a host. -/
theorem slash_tolerated_of_url (hp : SeedUrls parse) (hs : scheme ∈ supportedProtocols)
    (hl : SeedList list) (h : ClientSettings.fromStr parse (scheme ++ "://" ++ list) = .ok setts)
    (hurl : parse (scheme ++ "://" ++ list) = .ok url) :
    SlashTolerated parse (scheme ++ "://" ++ list) setts.hosts := by
  intro query setts' h'
  rw [fromStr_of_url hurl] at h
  have ha := urlAllowed_of_ok h
  have hhost := (ha.2 rfl).2
  have hpath := hp.path hs hl.plain hl.noSlash hurl
  obtain ⟨pairs, hsame, hafter⟩ := hp.after query
  rw [fromStr_of_url (hafter hs hl.plain hurl hhost)] at h'
  have ha' : UrlAllowed {} { url with queryPairs := pairs url } := ha
  -- the settings with a slash are those without it
  have hslash : ClientSettings.fromStr parse
      (scheme ++ "://" ++ list ++ "/" ++ UrlParts.after { query }) = .ok setts' := by
    have hnot : '/' ∈ list.toList → isDots ((split '/' list).getLastD "") = false :=
      fun hm => absurd hm hl.noSlash
    have hurl' := hp.slash hs hl.plain hnot hurl hhost
    rw [String.append_assoc] at hurl'
    have hq := hafter hs hl.plain.append_slash hurl' hhost
    rw [← String.append_assoc, hsame] at hq
    rw [fromStr_of_url hq, ← h', parseFromUrl_allowed ha']
    exact parseFromUrl_slash ha' hpath
  refine ⟨setts', hslash, ?_⟩
  rw [parseFromUrl_allowed ha'] at h'
  rw [parseFromUrl_allowed ha] at h
  obtain ⟨base, hbase, hparams, -⟩ := readUrl_ok h
  obtain ⟨base', hbase', hparams', -⟩ := readUrl_ok h'
  have heq : base = base' := Except.ok.inj (hbase.symm.trans hbase')
  rw [hosts_foldlM hparams, hosts_foldlM hparams', heq]

/-- A list that is read as a path gets one more seed. -/
theorem slash_adds_seed (hp : SeedUrls parse) (hs : scheme ∈ supportedProtocols)
    (hl : SeedList list) (hport : parse (scheme ++ "://" ++ list) = .error .invalidPort)
    (hurl : parse (replaceChar ',' '/' (scheme ++ "://" ++ list)) = .ok url)
    (hhost : url.host ≠ none) :
    seedTexts parse (scheme ++ "://" ++ list ++ "/") =
      seedTexts parse (scheme ++ "://" ++ list) ++ [""] := by
  have hdots : isDots ((split '/' (replaceChar ',' '/' list)).getLastD "") = false := by
    rw [split_replaced hl.noSlash]
    exact hl.last
  have hport' := hp.port hs hl.plain hport
  have hrest := hurl
  rw [replaceChar_seeds hs] at hrest
  have hslash := hp.slash hs hl.plain.replaceChar (fun _ => hdots) hrest hhost
  have hstr : replaceChar ',' '/' (scheme ++ "://" ++ list ++ "/") =
      scheme ++ "://" ++ replaceChar ',' '/' list ++ "/" := by
    rw [replaceChar_append, replaceChar_seeds hs,
      @replaceChar_of_notMem ',' '/' "/" (by decide)]
  simp [seedTexts, hport, hport', hstr, hslash, hurl, Url.slash]

/-- **Seeds without a name.** The hosts of an accepted string all have names exactly when
its seeds do; a slash behind a list of seeds is tolerated exactly when the list is read as
a host. -/
theorem seeds_named_iff (hp : SeedUrls parse) :
    (∀ s setts, ClientSettings.fromStr parse s = .ok setts →
      ((∀ e ∈ setts.hosts, e.host ≠ "") ↔ ∀ seed ∈ seedTexts parse s, named seed = true)) ∧
    ∀ scheme list setts, scheme ∈ supportedProtocols → SeedList list →
      ClientSettings.fromStr parse (scheme ++ "://" ++ list) = .ok setts →
      (SlashTolerated parse (scheme ++ "://" ++ list) setts.hosts ↔
        ∃ url, parse (scheme ++ "://" ++ list) = .ok url) := by
  refine ⟨fun s setts h => accepted_named_iff hp h, fun scheme list setts hs hl h => ?_⟩
  constructor
  · intro ht
    rcases fromStr_ok h with ⟨url, hurl, -, -⟩ | ⟨hport, -, url, host, -, hurl, hhost, -, -⟩
    · exact ⟨url, hurl⟩
    · obtain ⟨setts', h', hhosts⟩ := ht none setts (by simpa [UrlParts.after] using h)
      have h'' : ClientSettings.fromStr parse (scheme ++ "://" ++ list ++ "/") = .ok setts' := by
        simpa [UrlParts.after] using h'
      have hmore := slash_adds_seed hp hs hl hport hurl (by rw [hhost]; simp)
      have hlen := congrArg List.length (accepted_hosts hp h)
      have hlen' := congrArg List.length (accepted_hosts hp h'')
      rw [hmore, hhosts] at hlen'
      simp only [List.length_map, List.length_append, List.length_singleton] at hlen hlen'
      omega
  · rintro ⟨url, hurl⟩
    exact slash_tolerated_of_url hp hs hl h hurl

end

/-! ## A parser that keeps the laws -/

/-- A parser for URLs with no user and no fragment; an empty host is none. -/
def listUrl (s : String) : Except UrlError Url :=
  let (text, query) := splitFirst '?' s
  (plainUrl text).map fun url =>
    { url with
      host := if url.host = some "" then none else url.host
      queryPairs := (query.map (formPairs asciiLossy)).getD [] }

/-- Host, port and path behind a scheme. -/
def authorityUrl (scheme rest : String) : Except UrlError Url :=
  let (authority, path) := splitFirst '/' rest
  let (host, port) := splitFirst ':' authority
  (plainPort port).map fun port => urlOf scheme host port ((path.map (split '/')).getD [])

section

variable {scheme rest : String} {url : Url}

theorem plainUrl_scheme (hs : scheme ∈ supportedProtocols) (rest : String) :
    plainUrl (scheme ++ "://" ++ rest) = authorityUrl scheme rest := by
  have hcolon : ':' ∉ scheme.toList := by revert scheme; decide
  have htext : scheme ++ "://" ++ rest = scheme ++ String.singleton ':' ++ ("//" ++ rest) := by
    apply String.toList_inj.mp
    simp
  unfold plainUrl authorityUrl
  rw [htext, splitFirst_append hcolon]
  simp

theorem urlOf_concat (scheme host : String) (port : Option Nat) (segments : List String) :
    urlOf scheme host port (segments ++ [""]) = (urlOf scheme host port segments).slash := by
  by_cases h : segments = []
  · subst h
    simp [urlOf, Url.slash, pathText]
  · simp [urlOf, Url.slash, pathText, h, join_append '/' h (by simp : [""] ≠ []),
      String.append_assoc]

theorem authorityUrl_slash (scheme rest : String) :
    authorityUrl scheme (rest ++ "/") = (authorityUrl scheme rest).map Url.slash := by
  have hempty : split '/' "" = [""] := by decide
  obtain ⟨a, path, hcut, hcut'⟩ : ∃ a path, splitFirst '/' rest = (a, path) ∧
      splitFirst '/' (rest ++ "/") = (a, some ((path.map fun b => b ++ "/").getD "")) := by
    rcases splitFirst_cases '/' rest with ⟨hno, hcut⟩ | ⟨a, b, hno, hrest, hcut⟩
    · refine ⟨rest, none, hcut, ?_⟩
      have h := @splitFirst_append '/' rest "" hno
      simpa using h
    · refine ⟨a, some b, hcut, ?_⟩
      have h := @splitFirst_append '/' a (b ++ "/") hno
      rwa [← String.append_assoc, ← hrest] at h
  have hsegments : split '/' ((path.map fun b => b ++ "/").getD "") =
      (path.map (split '/')).getD [] ++ [""] := by
    cases path with
    | none => exact hempty
    | some b =>
      have h := split_append '/' b ""
      rw [hempty, String.append_empty] at h
      exact h
  unfold authorityUrl
  simp only [hcut, hcut', Option.map_some, Option.getD_some, hsegments, urlOf_concat]
  cases plainPort (splitFirst ':' a).2 <;> rfl

theorem Plain.question_notMem (hs : scheme ∈ supportedProtocols) (hr : Plain rest) :
    '?' ∉ (scheme ++ "://" ++ rest).toList := by
  have hscheme : '?' ∉ (scheme ++ "://").toList := by revert scheme; decide
  rw [String.toList_append, List.mem_append, not_or]
  exact ⟨hscheme, fun h => (hr _ h).2.1 rfl⟩

/-- What is done to the URL of the plain parser. -/
theorem listUrl_eq (hs : scheme ∈ supportedProtocols) (hr : Plain rest) (query : Option String) :
    listUrl (scheme ++ "://" ++ rest ++ UrlParts.after { query }) =
      (authorityUrl scheme rest).map fun url =>
        { url with
          host := if url.host = some "" then none else url.host
          queryPairs := (query.map (formPairs asciiLossy)).getD [] } := by
  unfold listUrl
  rw [splitFirst_query (hr.question_notMem hs)]
  simp only [plainUrl_scheme hs]

theorem listUrl_bare (hs : scheme ∈ supportedProtocols) (hr : Plain rest) :
    listUrl (scheme ++ "://" ++ rest) =
      (authorityUrl scheme rest).map fun url =>
        { url with host := if url.host = some "" then none else url.host, queryPairs := [] } := by
  have h := listUrl_eq hs hr none
  rwa [UrlParts.after, String.append_empty] at h

/-- The host ends at the first colon. -/
theorem plainUrl_named {s host : String} (h : plainUrl s = .ok url) (hh : url.host = some host)
    (hne : host ≠ "") : named host = true := by
  obtain ⟨authority, hauthority⟩ : ∃ authority, url.host = some (splitFirst ':' authority).1 := by
    unfold plainUrl at h
    split at h
    · cases h
    · next scheme rest _ =>
      simp only at h
      obtain ⟨p, -, rfl⟩ := map_eq_ok h
      exact ⟨(splitFirst '/' (String.ofList (rest.toList.drop 2))).1, by simp only [urlOf]⟩
  have hcolon : ':' ∉ host.toList := by
    obtain rfl := Option.some.inj (hh.symm.trans hauthority)
    rcases splitFirst_cases ':' authority with ⟨hno, hcut⟩ | ⟨a, b, hno, -, hcut⟩
    · rwa [hcut]
    · rwa [hcut]
  rw [← named_iff (split_of_notMem hcolon), decide_eq_true hne]

theorem listUrl_seeds : SeedUrls listUrl where
  host := by
    intro s url host h hh
    obtain ⟨url', hurl', rfl⟩ := map_eq_ok h
    simp only at hh
    split at hh
    · cases hh
    · next hne =>
      refine plainUrl_named hurl' hh ?_
      rintro rfl
      exact hne hh
  path := by
    intro scheme rest url hs hr hno h
    rw [listUrl_bare hs hr] at h
    obtain ⟨url', hurl', rfl⟩ := map_eq_ok h
    unfold authorityUrl at hurl'
    rw [splitFirst_of_notMem hno] at hurl'
    obtain ⟨p, -, rfl⟩ := map_eq_ok hurl'
    rfl
  slash := by
    intro scheme rest url hs hr _ h _
    rw [listUrl_bare hs hr] at h
    obtain ⟨url', hurl', rfl⟩ := map_eq_ok h
    rw [String.append_assoc, listUrl_bare hs hr.append_slash, authorityUrl_slash, hurl']
    rfl
  port := by
    intro scheme rest hs hr h
    rw [listUrl_bare hs hr] at h
    rw [String.append_assoc, listUrl_bare hs hr.append_slash, authorityUrl_slash]
    cases hu : authorityUrl scheme rest with
    | ok url => rw [hu] at h; cases h
    | error e => rw [hu] at h; cases h; rfl
  query q := by
    refine ⟨formPairs asciiLossy q, ?_⟩
    intro scheme rest url hs hr h _
    rw [listUrl_bare hs hr] at h
    obtain ⟨url', hurl', rfl⟩ := map_eq_ok h
    have hq := listUrl_eq hs hr (some q)
    rw [hurl'] at hq
    exact hq

end

/-- Two seeds without ports: every host has a name, and a slash does no harm. -/
theorem two_names_tolerated : ∃ setts,
    ClientSettings.fromStr listUrl "esdb://a,b" = .ok setts ∧
      (∀ e ∈ setts.hosts, e.host ≠ "") ∧ SlashTolerated listUrl "esdb://a,b" setts.hosts := by
  have hs : "esdb" ++ "://" ++ "a,b" = "esdb://a,b" := by decide +kernel
  have hnamed : (seedTexts listUrl "esdb://a,b").all named = true := by decide +kernel
  have hplain : Plain "a,b" := by
    intro c hc
    have h : c = 'a' ∨ c = ',' ∨ c = 'b' := by simpa using hc
    rcases h with rfl | rfl | rfl <;> decide
  have hl : SeedList "a,b" := ⟨hplain, by simp, by decide +kernel⟩
  obtain ⟨setts, h⟩ := exists_ok
    (show (ClientSettings.fromStr listUrl "esdb://a,b").toOption.isSome = true by decide +kernel)
  have hurl := exists_ok (show (listUrl "esdb://a,b").toOption.isSome = true by decide +kernel)
  obtain ⟨hhosts, hslash⟩ := seeds_named_iff listUrl_seeds
  have htolerated := hslash "esdb" "a,b" setts (by decide) hl
  rw [hs] at htolerated
  exact ⟨setts, h, (hhosts _ _ h).mpr (by simpa using hnamed), (htolerated h).mpr hurl⟩

/-- **A slash behind seeds with ports is one more seed**, and so is a doubled comma: the
host without a name is in the settings. -/
theorem slash_becomes_seed :
    (ClientSettings.fromStr listUrl "esdb://a:1,b:2").map ClientSettings.hosts =
      .ok [⟨"a", 1⟩, ⟨"b", 2⟩] ∧
    (ClientSettings.fromStr listUrl "esdb://a:1,b:2/").map ClientSettings.hosts =
      .ok [⟨"a", 1⟩, ⟨"b", 2⟩, ⟨"", 2113⟩] ∧
    (ClientSettings.fromStr listUrl "esdb://a,,b").map ClientSettings.hosts =
      .ok [⟨"a", 2113⟩, ⟨"", 2113⟩, ⟨"b", 2113⟩] ∧
    (ClientSettings.fromStr listUrl "esdb://a:2114/").map ClientSettings.hosts =
      .ok [⟨"a", 2114⟩] ∧
    ¬ (∀ s setts, ClientSettings.fromStr listUrl s = .ok setts →
      ∀ e ∈ setts.hosts, e.host ≠ "") ∧
    ¬ ∀ setts, ClientSettings.fromStr listUrl "esdb://a:1,b:2" = .ok setts →
      SlashTolerated listUrl "esdb://a:1,b:2" setts.hosts := by
  have hplain : (ClientSettings.fromStr listUrl "esdb://a:1,b:2").map ClientSettings.hosts =
      .ok [⟨"a", 1⟩, ⟨"b", 2⟩] := by decide +kernel
  have hslash : (ClientSettings.fromStr listUrl "esdb://a:1,b:2/").map ClientSettings.hosts =
      .ok [⟨"a", 1⟩, ⟨"b", 2⟩, ⟨"", 2113⟩] := by decide +kernel
  refine ⟨hplain, hslash, by decide +kernel, by decide +kernel, fun hall => ?_, fun hall => ?_⟩
  · obtain ⟨setts, hok, hhosts⟩ := map_eq_ok hslash
    exact hall _ setts hok ⟨"", 2113⟩ (by rw [hhosts]; decide) rfl
  · obtain ⟨setts, hok, hhosts⟩ := map_eq_ok hplain
    have hs : "esdb://a:1,b:2" ++ UrlParts.after {} = "esdb://a:1,b:2" := by decide +kernel
    have hs' : "esdb://a:1,b:2" ++ "/" ++ UrlParts.after {} = "esdb://a:1,b:2/" := by decide +kernel
    obtain ⟨setts', hok', hhosts'⟩ := hall setts hok none setts (by rw [hs]; exact hok)
    rw [hs'] at hok'
    rw [hok'] at hslash
    have hmore : setts'.hosts = [⟨"a", 1⟩, ⟨"b", 2⟩, ⟨"", 2113⟩] := Except.ok.inj hslash
    rw [hhosts', hhosts] at hmore
    exact absurd (congrArg List.length hmore) (by decide)

end Kurrent
