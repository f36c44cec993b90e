import Kurrent.Grpc.UrlText

/-!
# Gossip seeds in a connection string

A connection string that lists seeds, each a name with or without a port, and the hosts the
client makes of it. User and query may stand around the seeds: on the second way the commas
of the query are turned into slashes with those between the seeds.
-/

namespace Kurrent

open Lib

/-! ## Seeds -/

structure Seed where
  host : String
  port : Option UInt16
  ne : host ≠ ""
  chars : ∀ c ∈ host.toList, isNameChar c
  dots : host ≠ "." ∧ host ≠ ".."

namespace Seed

def portText (s : Seed) : Option String := s.port.map fun p => p.toNat.repr

def text (s : Seed) : String := authorityText s.host s.portText

def endpoint (s : Seed) : Endpoint := ⟨s.host, (s.port.map UInt16.toNat).getD 2113⟩

end Seed

def connectionString (seeds : List Seed) : String := "esdb://" ++ join ',' (seeds.map Seed.text)

/-- The seeds with a user before and a query after them. -/
def partsString (parts : UrlParts) (seeds : List Seed) : String :=
  "esdb://" ++ (parts.before ++ join ',' (seeds.map Seed.text) ++ parts.after)

/-- No port is lost: there is one seed, or the last one has no port of its own, or an
earlier one has. -/
def KeepsPorts (seeds : List Seed) : Prop :=
  ∀ init last, seeds = init ++ [last] → init ≠ [] → (∀ s ∈ init, s.port = none) →
    last.port = none ∨ last.port = some 2113

section

variable {s : Seed} {seeds : List Seed} {c : Char}

/-! ## The text of a seed -/

theorem Seed.comma_notMem_host (s : Seed) : ',' ∉ s.host.toList :=
  fun h => absurd (s.chars _ h) (by decide)

theorem Seed.colon_notMem_host (s : Seed) : ':' ∉ s.host.toList :=
  fun h => absurd (s.chars _ h) (by decide)

theorem Seed.text_of_none (h : s.port = none) : s.text = s.host := by
  simp [Seed.text, Seed.portText, h, authorityText]

theorem Seed.text_of_some {p : UInt16} (h : s.port = some p) :
    s.text = s.host ++ ":" ++ p.toNat.repr := by
  simp [Seed.text, Seed.portText, h, authorityText]

theorem isDigit_of_mem_repr {n : Nat} (h : c ∈ n.repr.toList) : c.isDigit = true := by
  rw [Nat.toList_repr] at h
  exact Nat.isDigit_of_mem_toDigits (by decide) (by decide) h

theorem repr_ne_empty (n : Nat) : n.repr ≠ "" := by
  intro h
  have : n.repr.toList = [] := by rw [h]; rfl
  rw [Nat.toList_repr] at this
  exact Nat.toDigits_ne_nil this

theorem portValue_repr (n : Nat) : portValue n.repr = n := by
  rw [portValue, Nat.toList_repr, Nat.ofDigitChars_ten_toDigits]

theorem isPort_repr (p : UInt16) : IsPort p.toNat.repr := by
  refine ⟨List.all_eq_true.mpr fun c hc => isDigit_of_mem_repr hc, ?_⟩
  have := p.toNat_lt
  rw [portValue_repr]
  omega

theorem Seed.mem_text (h : c ∈ s.text.toList) : isNameChar c ∨ c = ':' := by
  cases hp : s.port with
  | none => rw [Seed.text_of_none hp] at h; exact .inl (s.chars c h)
  | some p =>
    rw [Seed.text_of_some hp] at h
    simp only [String.toList_append, List.mem_append] at h
    rcases h with (h | h) | h
    · exact .inl (s.chars c h)
    · exact .inr (by simpa using h)
    · exact .inl (isNameChar_of_isDigit (isDigit_of_mem_repr h))

theorem Seed.comma_notMem_text (s : Seed) : ',' ∉ s.text.toList :=
  fun h => absurd (Seed.mem_text h) (by decide)

theorem Seed.segmentText (s : Seed) : SegmentText s.text := by
  cases hp : s.port with
  | none =>
    rw [Seed.text_of_none hp]
    exact ⟨s.ne, fun c hc => .inl (s.chars c hc), s.dots⟩
  | some p =>
    have hcolon : ':' ∈ s.text.toList := by rw [Seed.text_of_some hp]; simp
    have hne : ∀ t : String, ':' ∉ t.toList → s.text ≠ t := fun t ht heq => ht (heq ▸ hcolon)
    exact ⟨hne _ (by decide), fun c hc => Seed.mem_text hc, hne _ (by decide), hne _ (by decide)⟩

/-! ## Reading the seeds back -/

/-- A seed is read to its endpoint. -/
theorem parseGossipSeed_text (result : ClientSettings) (s : Seed) :
    parseGossipSeed result s.text =
      .ok { result with hosts := result.hosts ++ [s.endpoint] } := by
  unfold parseGossipSeed
  cases hp : s.port with
  | none =>
    rw [Seed.text_of_none hp, split_of_notMem s.colon_notMem_host]
    simp [pushHost, Seed.endpoint, hp]
  | some p =>
    have hjoin : s.text = join ':' [s.host, p.toNat.repr] := by
      rw [Seed.text_of_some hp, join_cons ':' _ (by simp), join_singleton]
      rfl
    have hsplit : split ':' s.text = [s.host, p.toNat.repr] := by
      rw [hjoin]
      refine split_join (by simp) ?_
      intro t ht
      simp only [List.mem_cons, List.not_mem_nil, or_false] at ht
      rcases ht with rfl | rfl
      · exact s.colon_notMem_host
      · exact notMem_repr (by decide)
    have hle : p.toNat ≤ 2 ^ 16 - 1 := by
      have := p.toNat_lt
      omega
    rw [hsplit]
    simp only [parseUnsigned_repr hle]
    simp [pushHost, Seed.endpoint, hp]

theorem foldlM_texts (seeds : List Seed) (result : ClientSettings) :
    (seeds.map Seed.text).foldlM parseGossipSeed result =
      .ok { result with hosts := result.hosts ++ seeds.map Seed.endpoint } := by
  induction seeds generalizing result with
  | nil => simp; rfl
  | cons s seeds ih =>
    rw [List.map_cons, List.foldlM_cons, parseGossipSeed_text]
    show (seeds.map Seed.text).foldlM parseGossipSeed _ = _
    rw [ih]
    simp

/-- The seed without its port. -/
def Seed.bare (s : Seed) : Seed := { s with port := none }

theorem foldlM_hosts (seeds : List Seed) (result : ClientSettings) :
    (seeds.map Seed.host).foldlM parseGossipSeed result =
      .ok { result with hosts := result.hosts ++ seeds.map fun s => ⟨s.host, 2113⟩ } := by
  have h := foldlM_texts (seeds.map Seed.bare) result
  simpa [Function.comp_def, Seed.text, Seed.bare, Seed.portText, authorityText, Seed.endpoint]
    using h

theorem ne_empty_of_mem {t : String} (h : c ∈ t.toList) : t ≠ "" := by
  rintro rfl
  cases h

theorem exists_mem_host (s : Seed) : ∃ c, c ∈ s.host.toList := by
  refine List.exists_mem_of_ne_nil _ fun h => s.ne ?_
  exact String.toList_inj.mp h

theorem hostText_join (hne : seeds ≠ []) : HostText (join ',' (seeds.map Seed.host)) := by
  constructor
  · obtain ⟨s, rest, rfl⟩ := List.exists_cons_of_ne_nil hne
    obtain ⟨c, hc⟩ := exists_mem_host s
    refine @ne_empty_of_mem c _ ?_
    by_cases hr : rest = []
    · subst hr; simpa using hc
    · rw [List.map_cons, join_cons ',' _ (by simpa using hr)]
      simp [hc]
  · intro c hc
    rcases mem_join hc with rfl | ⟨t, ht, hct⟩
    · exact .inr rfl
    · obtain ⟨s, -, rfl⟩ := List.mem_map.mp ht
      exact .inl (s.chars c hct)

theorem hostText_single (s : Seed) : HostText s.host :=
  ⟨s.ne, fun c hc => .inl (s.chars c hc)⟩

/-- With no port but that of the last seed, the whole list is a host and a port. -/
theorem join_texts_bare {init : List Seed} {last : Seed} (h : ∀ s ∈ init, s.port = none) :
    join ',' ((init ++ [last]).map Seed.text) =
      authorityText (join ',' ((init ++ [last]).map Seed.host)) last.portText := by
  have hinit : init.map Seed.text = init.map Seed.host :=
    List.map_congr_left fun s hs => Seed.text_of_none (h s hs)
  rw [List.map_append, List.map_append, hinit]
  show join ',' (init.map Seed.host ++ [last.text]) = _
  cases hp : last.port with
  | none =>
    rw [Seed.text_of_none hp]
    simp [Seed.portText, hp, authorityText]
  | some p =>
    rw [Seed.text_of_some hp, String.append_assoc, join_concat_append]
    simp [Seed.portText, hp, authorityText, String.append_assoc]

/-- With a port before the last seed, the first colon is followed by no port. -/
theorem join_texts_port {pre post : List Seed} {s : Seed} {p : UInt16}
    (hpre : ∀ a ∈ pre, a.port = none) (hp : s.port = some p) (hpost : post ≠ []) :
    join ',' ((pre ++ s :: post).map Seed.text) =
      authorityText (join ',' ((pre ++ [s]).map Seed.host))
        (some (p.toNat.repr ++ "," ++ join ',' (post.map Seed.text))) := by
  have happ : pre ++ s :: post = (pre ++ [s]) ++ post := by simp
  rw [happ, List.map_append, join_append ',' (by simp) (by simpa using hpost), join_texts_bare hpre]
  simp only [Seed.portText, hp, Option.map_some, authorityText, String.append_assoc]
  rfl

/-! ## From the URL to the hosts -/

/-- What is left to do once the hosts are known. -/
def finishUrl (hosts : List Endpoint) (url : Url) : Parsed := do
  let result ← url.queryPairs.foldlM applyParam (credentialsFromUrl { hosts } url)
  checkCertificates result

/-- Without user and query the hosts are all there is. -/
theorem finishUrl_bare (hosts : List Endpoint) (lossy : List UInt8 → String) (url : Url) :
    finishUrl hosts (UrlParts.apply lossy {} url) = .ok { hosts } := rfl

theorem connectionString_eq (seeds : List Seed) :
    connectionString seeds = partsString {} seeds := by
  simp [connectionString, partsString, UrlParts.before, UrlParts.after]

/-- Hosts that are there already stay as they are. -/
theorem parseFromUrl_seeded {hosts : List Endpoint} {url : Url} (hu : url.scheme = "esdb")
    (h : hosts ≠ []) : parseFromUrl { hosts } url = finishUrl hosts url := by
  have hscheme : "esdb" ∈ supportedProtocols := by decide
  have hdns : ¬ "+discover".toList <:+: "esdb".toList := by decide
  have hhosts : (credentialsFromUrl { hosts } url).hosts = hosts := by
    unfold credentialsFromUrl; split <;> rfl
  unfold parseFromUrl finishUrl
  simp only [hu, hscheme, hdns, not_true_eq_false, if_false, decide_false, hhosts, h, false_and]
  rfl

/-- Otherwise they come from the URL. -/
theorem parseFromUrl_plain {hosts : List Endpoint} {url : Url} {host : String}
    (hu : url.scheme = "esdb") (hpath : url.path = "") (hhost : url.host = some host)
    (h : ∀ result : ClientSettings, result.hosts = [] →
      hostsFromUrl result url = .ok { result with hosts }) :
    parseFromUrl {} url = finishUrl hosts url := by
  have hscheme : "esdb" ∈ supportedProtocols := by decide
  have hdns : ¬ "+discover".toList <:+: "esdb".toList := by decide
  have hnone : (credentialsFromUrl {} url).hosts = [] := by
    unfold credentialsFromUrl; split <;> rfl
  have hwith : { credentialsFromUrl {} url with hosts } = credentialsFromUrl { hosts } url := by
    unfold credentialsFromUrl; split <;> rfl
  unfold parseFromUrl finishUrl
  simp only [hu, hscheme, hdns, not_true_eq_false, if_false, decide_false, hnone, hpath, hhost,
    ne_eq, false_and, and_false, reduceCtorEq, if_true, h _ hnone, hwith]
  rfl

/-- A host with commas gives its names, whatever the port. -/
theorem hostsFromUrl_list {url : Url} {result : ClientSettings} (h₂ : 2 ≤ seeds.length)
    (hhost : url.host = some (join ',' (seeds.map Seed.host))) (hr : result.hosts = []) :
    hostsFromUrl result url =
      .ok { result with hosts := seeds.map fun s => ⟨s.host, 2113⟩ } := by
  have hcomma : ',' ∈ (join ',' (seeds.map Seed.host)).toList := by
    match seeds, h₂ with
    | s :: t :: rest, _ =>
      rw [List.map_cons, join_cons ',' _ (by simp)]
      simp
  have hsplit : split ',' (join ',' (seeds.map Seed.host)) = seeds.map Seed.host := by
    refine split_join (by intro hn; simp_all) ?_
    intro t ht
    obtain ⟨s, -, rfl⟩ := List.mem_map.mp ht
    exact s.comma_notMem_host
  unfold hostsFromUrl
  simp only [hhost, Option.getD_some, not_not_intro hcomma, if_false, hsplit, foldlM_hosts, hr,
    List.nil_append]

theorem hostsFromUrl_single {url : Url} {result : ClientSettings} (s : Seed)
    (hhost : url.host = some s.host) (hport : url.port = s.port.map UInt16.toNat)
    (hr : result.hosts = []) :
    hostsFromUrl result url = .ok { result with hosts := [s.endpoint] } := by
  unfold hostsFromUrl
  simp only [hhost, Option.getD_some, s.comma_notMem_host, not_false_eq_true, if_true, hport,
    pushHost, hr, List.nil_append]
  rfl

/-! ## The two ways -/

variable {parse : String → Except UrlError Url} {lossy : List UInt8 → String} {parts : UrlParts}

theorem portText_seed (s : Seed) : PortText s.portText := by
  intro text ht
  obtain ⟨p, -, rfl⟩ := Option.map_eq_some_iff.mp ht
  exact ⟨repr_ne_empty _, fun c hc => .inl (isNameChar_of_isDigit (isDigit_of_mem_repr hc))⟩

theorem plainPort_seed (s : Seed) : plainPort s.portText = .ok (s.port.map UInt16.toNat) := by
  unfold Seed.portText
  cases s.port with
  | none => rfl
  | some p => simp [plainPort, isPort_repr, portValue_repr]

/-- **As a host**: no seed but the last has a port. The names are kept, the port of a list
of more than one seed is not. -/
theorem fromStr_host (hr : Reads parse lossy parts) {init : List Seed} {last : Seed}
    (h : ∀ s ∈ init, s.port = none) :
    ∃ url, ClientSettings.fromStr parse (partsString parts (init ++ [last])) =
      finishUrl (init.map (fun s => ⟨s.host, 2113⟩) ++
        [if init = [] then last.endpoint else ⟨last.host, 2113⟩]) (parts.apply lossy url) := by
  have htext : partsString parts (init ++ [last]) =
      fullText parts (join ',' ((init ++ [last]).map Seed.host)) last.portText [] := by
    unfold partsString fullText
    rw [join_texts_bare h]
    simp [pathText]
  have hhost : HostText (join ',' ((init ++ [last]).map Seed.host)) := hostText_join (by simp)
  have hurl := hr _ _ _ hhost (portText_seed last) (List.forall_mem_nil SegmentText)
  rw [← htext, plainPort_seed] at hurl
  refine ⟨urlOf "esdb" (join ',' ((init ++ [last]).map Seed.host)) (last.port.map UInt16.toNat) [],
    ?_⟩
  unfold ClientSettings.fromStr
  rw [hurl]
  refine parseFromUrl_plain rfl rfl rfl fun result hr => ?_
  by_cases hi : init = []
  · subst hi
    rw [hostsFromUrl_single last (by simp [urlOf, UrlParts.apply]) rfl hr]
    simp
  · have hlen : 2 ≤ (init ++ [last]).length := by
      have := List.length_pos_iff.mpr hi
      rw [List.length_append, List.length_singleton]
      omega
    rw [hostsFromUrl_list hlen rfl hr]
    simp [hi]

theorem UrlParts.Valid.comma_notMem_before (hv : parts.Valid) : ',' ∉ parts.before.toList := by
  unfold UrlParts.before
  split
  · simp
  · next login password hu =>
    obtain ⟨hl, hp⟩ := hv.user login password hu
    have hlogin : ',' ∉ login.toList := fun hm => absurd (hl _ hm) (by decide)
    have hpassword : ',' ∉ password.toList := fun hm => absurd (hp _ hm) (by decide)
    simp [hlogin, hpassword]

theorem UrlParts.replaceChar_after (parts : UrlParts) :
    replaceChar ',' '/' parts.after = parts.slashed.after := by
  unfold UrlParts.after UrlParts.slashed
  cases parts.query with
  | none => rfl
  | some q => simp [replaceChar]

/-- The string with slashes has the first seed as its authority and the others as its path. -/
theorem partsString_slashes (hv : parts.Valid) (s : Seed) {rest : List Seed} (h : rest ≠ []) :
    replaceChar ',' '/' (partsString parts (s :: rest)) =
      fullText parts.slashed s.host s.portText (rest.map Seed.text) := by
  have hcomma : ∀ t ∈ (s :: rest).map Seed.text, ',' ∉ t.toList := by
    intro t ht
    obtain ⟨a, -, rfl⟩ := List.mem_map.mp ht
    exact a.comma_notMem_text
  unfold partsString fullText
  rw [replaceChar_append, replaceChar_of_notMem (by decide), replaceChar_append,
    replaceChar_append, replaceChar_of_notMem hv.comma_notMem_before, replaceChar_join hcomma,
    parts.replaceChar_after, List.map_cons, join_cons '/' _ (by simpa using h)]
  simp only [pathText, List.map_eq_nil_iff, h, if_false, String.append_assoc]
  rfl

/-- With a port before the last seed the parser finds no port behind the first colon. -/
theorem parse_refused (hr : Reads parse lossy parts) {pre post : List Seed} {s : Seed}
    {p : UInt16} (hpre : ∀ a ∈ pre, a.port = none) (hp : s.port = some p) (hpost : post ≠ []) :
    parse (partsString parts (pre ++ s :: post)) = .error .invalidPort := by
  have htext : partsString parts (pre ++ s :: post) =
      fullText parts (join ',' ((pre ++ [s]).map Seed.host))
        (some (p.toNat.repr ++ "," ++ join ',' (post.map Seed.text))) [] := by
    unfold partsString fullText
    rw [join_texts_port hpre hp hpost]
    simp [pathText]
  have hmem : ',' ∈ (p.toNat.repr ++ "," ++ join ',' (post.map Seed.text)).toList := by simp
  have hport : PortText (some (p.toNat.repr ++ "," ++ join ',' (post.map Seed.text))) := by
    rintro text ⟨⟩
    refine ⟨ne_empty_of_mem hmem, fun c hc => ?_⟩
    simp only [String.toList_append, List.mem_append] at hc
    rcases hc with (hc | hc) | hc
    · exact .inl (isNameChar_of_isDigit (isDigit_of_mem_repr hc))
    · exact .inr (.inl (by simpa using hc))
    · rcases mem_join hc with hc | ⟨t, ht, hct⟩
      · exact .inr (.inl hc)
      · obtain ⟨a, -, rfl⟩ := List.mem_map.mp ht
        rcases Seed.mem_text hct with hct | hct
        · exact .inl hct
        · exact .inr (.inr hct)
  have hno : ¬ IsPort (p.toNat.repr ++ "," ++ join ',' (post.map Seed.text)) :=
    fun h => absurd (h.isDigit hmem) (by decide)
  rw [htext, hr _ _ _ (hostText_join (by simp)) hport (List.forall_mem_nil SegmentText),
    plainPort_refused (ne_empty_of_mem hmem) hno]
  rfl

/-- **As a path**: a seed before the last has a port. Every port is kept. -/
theorem fromStr_path (hv : parts.Valid) (hr : Reads parse lossy parts)
    (hs : Reads parse lossy parts.slashed) {pre post : List Seed} {s : Seed} {p : UInt16}
    (hpre : ∀ a ∈ pre, a.port = none) (hp : s.port = some p) (hpost : post ≠ []) :
    ∃ url, ClientSettings.fromStr parse (partsString parts (pre ++ s :: post)) =
      finishUrl ((pre ++ s :: post).map Seed.endpoint) (parts.slashed.apply lossy url) := by
  have hrefused := parse_refused hr hpre hp hpost
  have hcomma : ',' ∈ (partsString parts (pre ++ s :: post)).toList := by
    have hjoin := join_texts_port hpre hp hpost
    unfold partsString
    rw [hjoin]
    simp [authorityText]
  obtain ⟨first, rest, heq, hrest⟩ : ∃ first rest, pre ++ s :: post = first :: rest ∧ rest ≠ [] := by
    cases pre with
    | nil => exact ⟨s, post, rfl, hpost⟩
    | cons a pre => exact ⟨a, pre ++ s :: post, rfl, by simp⟩
  have hseg : ∀ t ∈ rest.map Seed.text, SegmentText t := by
    intro t ht
    obtain ⟨a, -, rfl⟩ := List.mem_map.mp ht
    exact a.segmentText
  have hurl : parse (replaceChar ',' '/' (partsString parts (pre ++ s :: post))) =
      .ok (parts.slashed.apply lossy
        (urlOf "esdb" first.host (first.port.map UInt16.toNat) (rest.map Seed.text))) := by
    rw [heq, partsString_slashes hv first hrest,
      hs _ _ _ (hostText_single first) (portText_seed first) hseg, plainPort_seed]
    rfl
  have hfold : (rest.map Seed.text).foldlM parseGossipSeed
      (pushHost {} first.host ((first.port.map UInt16.toNat).getD 2113)) =
      .ok { hosts := (first :: rest).map Seed.endpoint } := by
    rw [foldlM_texts]; rfl
  refine ⟨urlOf "esdb" first.host (first.port.map UInt16.toNat) (rest.map Seed.text), ?_⟩
  unfold ClientSettings.fromStr
  simp only [hrefused, hcomma, and_self, if_true, hurl]
  rw [heq, ← parseFromUrl_seeded rfl (by simp), UrlParts.apply]
  simp only [urlOf, List.map_eq_nil_iff, hrest, if_false, Option.getD_some, hfold]
  rfl

end

/-- The first seed with a port. -/
theorem exists_first_port {seeds : List Seed} (h : ¬ ∀ s ∈ seeds, s.port = none) :
    ∃ pre s p post, seeds = pre ++ s :: post ∧ s.port = some p ∧ ∀ a ∈ pre, a.port = none := by
  obtain ⟨s, hs⟩ : ∃ s, seeds.find? (fun s => s.port.isSome) = some s := by
    rw [← Option.isSome_iff_exists, List.find?_isSome]
    obtain ⟨s, hs, hp⟩ : ∃ s ∈ seeds, s.port ≠ none := by
      by_contra hn
      exact h fun s hs => by_contra fun hp => hn ⟨s, hs, hp⟩
    exact ⟨s, hs, Option.isSome_iff_ne_none.mpr hp⟩
  obtain ⟨hsome, pre, post, hseeds, hpre⟩ := List.find?_eq_some_iff_append.mp hs
  obtain ⟨p, hp⟩ := Option.isSome_iff_exists.mp hsome
  exact ⟨pre, s, p, post, hseeds, hp, fun a ha => by simpa using hpre a ha⟩

/-- **The hosts of a connection string are its seeds**, with their ports, exactly when no
port is lost on the way. -/
theorem seeds_read_back_iff {parse : String → Except UrlError Url} (hl : UrlLaws parse)
    {seeds : List Seed} (hne : seeds ≠ []) :
    (∃ setts, ClientSettings.fromStr parse (connectionString seeds) = .ok setts ∧
      setts.hosts = seeds.map Seed.endpoint) ↔ KeepsPorts seeds := by
  obtain ⟨init, last, rfl⟩ : ∃ init last, seeds = init ++ [last] := by
    rcases List.eq_nil_or_concat seeds with rfl | ⟨init, last, rfl⟩
    · exact absurd rfl hne
    · exact ⟨init, last, List.concat_eq_append⟩
  have hr := hl.reads fun _ => ""
  rw [connectionString_eq]
  by_cases h : ∀ s ∈ init, s.port = none
  · have hinit : init.map Seed.endpoint = init.map fun s => ⟨s.host, 2113⟩ :=
      List.map_congr_left fun s hs => by simp [Seed.endpoint, h s hs]
    obtain ⟨url, hurl⟩ := fromStr_host hr h
    rw [hurl, finishUrl_bare, List.map_append, hinit]
    constructor
    · rintro ⟨setts, hsetts, hhosts⟩ init' last' heq hi _
      obtain ⟨rfl, rfl⟩ : init' = init ∧ last' = last := by
        have := List.append_inj' heq rfl
        exact ⟨this.1.symm, (List.singleton_inj.mp this.2).symm⟩
      cases hsetts
      rw [if_neg hi] at hhosts
      have hport : 2113 = (last'.port.map UInt16.toNat).getD 2113 :=
        congrArg Endpoint.port (List.singleton_inj.mp (List.append_cancel_left hhosts))
      cases hp : last'.port with
      | none => exact .inl rfl
      | some p =>
        right
        rw [hp] at hport
        exact congrArg some (UInt16.toNat_inj.mp hport.symm)
    · intro hk
      refine ⟨_, rfl, ?_⟩
      by_cases hi : init = []
      · simp [hi]
      · have hport : (last.port.map UInt16.toNat).getD 2113 = 2113 := by
          rcases hk init last rfl hi h with hp | hp <;> rw [hp] <;> rfl
        simp [hi, Seed.endpoint, hport]
  · -- the first seed with a port comes before the last seed
    obtain ⟨pre, s, p, post, rfl, hp, hpre⟩ := exists_first_port h
    have hpost : post ++ [last] ≠ [] := by simp
    obtain ⟨url, hurl⟩ := fromStr_path ⟨by simp, by simp⟩ hr hr hpre hp hpost
    rw [List.append_assoc, List.cons_append, hurl, show UrlParts.slashed {} = {} from rfl,
      finishUrl_bare]
    refine ⟨fun _ init' last' heq _ hnone => ?_, fun _ => ⟨_, rfl, rfl⟩⟩
    have heq' : (pre ++ s :: post) ++ [last] = init' ++ [last'] := by simpa using heq
    have hinit : init' = pre ++ s :: post := (List.append_inj' heq' rfl).1.symm
    have hsn := hnone s (by rw [hinit]; simp)
    rw [hp] at hsn
    cases hsn

def seedA : Seed := ⟨"a", some 1234, by decide, by simp [isNameChar], by decide⟩

def seedB : Seed := ⟨"b", none, by decide, by simp [isNameChar], by decide⟩

/-- A port on the first seed only. -/
theorem seeds_read_back_first_port : ∃ setts,
    ClientSettings.fromStr plainUrl "esdb://a:1234,b" = .ok setts ∧
      setts.hosts = [⟨"a", 1234⟩, ⟨"b", 2113⟩] := by
  have hk : KeepsPorts [seedA, seedB] := by
    intro init last heq _ _
    have hlast : last = seedB := by
      have := congrArg List.getLast? heq
      simpa using this.symm
    exact .inl (hlast ▸ rfl)
  have hs : connectionString [seedA, seedB] = "esdb://a:1234,b" := by decide +kernel
  rw [← hs]
  exact (seeds_read_back_iff plainUrl_laws (by simp)).mpr hk

/-- **The port of the last seed is lost** when it is the only one. -/
theorem seeds_last_port_lost :
    connectionString [seedB, seedA] = "esdb://b,a:1234" ∧
    (ClientSettings.fromStr plainUrl "esdb://b,a:1234").map ClientSettings.hosts =
      .ok ([⟨"b", 2113⟩, ⟨"a", 2113⟩] : List Endpoint) ∧
    ¬ ∃ setts, ClientSettings.fromStr plainUrl (connectionString [seedB, seedA]) = .ok setts ∧
      setts.hosts = [seedB, seedA].map Seed.endpoint := by
  have hread : (ClientSettings.fromStr plainUrl (connectionString [seedB, seedA])).map
      ClientSettings.hosts = .ok ([⟨"b", 2113⟩, ⟨"a", 2113⟩] : List Endpoint) := by decide +kernel
  have hs : connectionString [seedB, seedA] = "esdb://b,a:1234" := by decide +kernel
  refine ⟨hs, hs ▸ hread, ?_⟩
  rintro ⟨setts, hsetts, hhosts⟩
  rw [hsetts] at hread
  have heq : [seedB, seedA].map Seed.endpoint = [⟨"b", 2113⟩, ⟨"a", 2113⟩] := by
    rw [← hhosts]
    exact Except.ok.inj hread
  revert heq
  decide

end Kurrent
