import Kurrent.Grpc.ConnectionString
import Kurrent.Lib.Percent

/-!
# URLs as the client's connection strings use them

`UrlLaws` is what the client relies on in the URL parser: for a scheme of its own the host
ends at the first colon, the port is what follows it, and the path is split at slashes.
`plainUrl` is a parser that keeps these laws. `UrlParts` is what may stand around authority
and path: a user with a password, and a query. `Reads parse lossy parts` says that a parser
reads these parts as they are documented: user and password as the text they are written
in, the query as form-urlencoded pairs.
-/

namespace Kurrent

open Lib

/-! ## What the URL parser does -/

def isNameChar (c : Char) : Prop := c.isAlphanum = true ∨ c = '.' ∨ c = '_' ∨ c = '-'

def authorityText (host : String) : Option String → String
  | none => host
  | some port => host ++ ":" ++ port

def pathText (segments : List String) : String :=
  if segments = [] then "" else "/" ++ join '/' segments

def urlText (scheme host : String) (port : Option String) (segments : List String) : String :=
  scheme ++ "://" ++ authorityText host port ++ pathText segments

/-- The URL with this authority and path and nothing else. -/
def urlOf (scheme host : String) (port : Option Nat) (segments : List String) : Url where
  scheme := scheme
  host := some host
  port := port
  path := pathText segments
  pathSegments := if segments = [] then none else some segments

/-- Names with commas between them. -/
structure HostText (host : String) : Prop where
  ne : host ≠ ""
  chars : ∀ c ∈ host.toList, isNameChar c ∨ c = ','

structure SegmentText (segment : String) : Prop where
  ne : segment ≠ ""
  chars : ∀ c ∈ segment.toList, isNameChar c ∨ c = ':'
  dots : segment ≠ "." ∧ segment ≠ ".."

/-- The value of a port made of digits. -/
def portValue (text : String) : Nat := Nat.ofDigitChars 10 text.toList 0

/-- A text that is a port. -/
def IsPort (text : String) : Prop :=
  text.toList.all Char.isDigit = true ∧ portValue text ≤ 65535

structure UrlLaws (parse : String → Except UrlError Url) : Prop where
  host : ∀ {scheme host segments}, scheme ∈ supportedProtocols → HostText host →
    (∀ s ∈ segments, SegmentText s) →
    parse (urlText scheme host none segments) = .ok (urlOf scheme host none segments)
  port : ∀ {scheme host text segments}, scheme ∈ supportedProtocols → HostText host →
    (∀ s ∈ segments, SegmentText s) → text ≠ "" → IsPort text →
    parse (urlText scheme host (some text) segments) =
      .ok (urlOf scheme host (some (portValue text)) segments)
  invalidPort : ∀ {scheme host text segments}, scheme ∈ supportedProtocols → HostText host →
    (∀ s ∈ segments, SegmentText s) → text ≠ "" →
    (∀ c ∈ text.toList, isNameChar c ∨ c = ',' ∨ c = ':') → ¬ IsPort text →
    parse (urlText scheme host (some text) segments) = .error .invalidPort

instance : DecidablePred isNameChar := fun c =>
  inferInstanceAs (Decidable (c.isAlphanum = true ∨ c = '.' ∨ c = '_' ∨ c = '-'))

instance : DecidablePred IsPort := fun text =>
  inferInstanceAs (Decidable (text.toList.all Char.isDigit = true ∧ portValue text ≤ 65535))

def plainPort : Option String → Except UrlError (Option Nat)
  | none => .ok none
  | some text =>
    if text = "" then .ok none
    else if IsPort text then .ok (some (portValue text)) else .error .invalidPort

/-- A parser for URLs with no user, no query and no fragment. -/
def plainUrl (s : String) : Except UrlError Url :=
  match splitFirst ':' s with
  | (_, none) => .error .relativeUrlWithoutBase
  | (scheme, some rest) =>
    let (authority, path) := splitFirst '/' (String.ofList (rest.toList.drop 2))
    let (host, port) := splitFirst ':' authority
    (plainPort port).map fun port => urlOf scheme host port ((path.map (split '/')).getD [])

section

variable {c : Char}

theorem isNameChar_of_isDigit (h : c.isDigit = true) : isNameChar c :=
  .inl (by simp [Char.isAlphanum, h])

theorem IsPort.isDigit {text : String} (h : IsPort text) (hc : c ∈ text.toList) :
    c.isDigit = true := List.all_eq_true.mp h.1 c hc

/-! ## The plain parser keeps the laws -/

theorem HostText.colon_notMem {host : String} (h : HostText host) : ':' ∉ host.toList :=
  fun hm => absurd (h.chars _ hm) (by decide)

theorem HostText.slash_notMem {host : String} (h : HostText host) : '/' ∉ host.toList :=
  fun hm => absurd (h.chars _ hm) (by decide)

theorem SegmentText.slash_notMem {t : String} (h : SegmentText t) : '/' ∉ t.toList :=
  fun hm => absurd (h.chars _ hm) (by decide)

theorem splitFirst_authority {host : String} (h : HostText host) (port : Option String) :
    splitFirst ':' (authorityText host port) = (host, port) := by
  cases port with
  | none => exact splitFirst_of_notMem h.colon_notMem
  | some text => exact splitFirst_append h.colon_notMem

theorem splitFirst_path {authority : String} {segments : List String}
    (ha : '/' ∉ authority.toList) (hseg : ∀ t ∈ segments, SegmentText t) :
    ∃ path, splitFirst '/' (authority ++ pathText segments) = (authority, path) ∧
      (path.map (split '/')).getD [] = segments := by
  by_cases hs : segments = []
  · subst hs
    refine ⟨none, ?_, rfl⟩
    simpa [pathText] using splitFirst_of_notMem ha
  · refine ⟨some (join '/' segments), ?_, ?_⟩
    · rw [pathText, if_neg hs, ← String.append_assoc]
      exact splitFirst_append ha
    · exact split_join hs fun t ht => (hseg t ht).slash_notMem

theorem plainUrl_text {scheme host : String} {port : Option String} {segments : List String}
    (hscheme : scheme ∈ supportedProtocols) (hhost : HostText host)
    (hport : ∀ text, port = some text → '/' ∉ text.toList)
    (hseg : ∀ t ∈ segments, SegmentText t) :
    plainUrl (urlText scheme host port segments) =
      (plainPort port).map fun p => urlOf scheme host p segments := by
  have hcolon : ':' ∉ scheme.toList := by revert scheme; decide
  have hslash : '/' ∉ (authorityText host port).toList := by
    cases port with
    | none => exact hhost.slash_notMem
    | some text => simpa [authorityText, hhost.slash_notMem] using hport text rfl
  obtain ⟨path, hpath, hsegments⟩ := splitFirst_path hslash hseg
  have htext : urlText scheme host port segments = scheme ++ String.singleton ':' ++
      ("//" ++ (authorityText host port ++ pathText segments)) := by
    apply String.toList_inj.mp
    simp [urlText]
  unfold plainUrl
  rw [htext, splitFirst_append hcolon]
  simp [hpath, hsegments, splitFirst_authority hhost]

theorem plainUrl_laws : UrlLaws plainUrl where
  host hscheme hhost hseg := plainUrl_text hscheme hhost (by simp) hseg
  port := by
    intro scheme host text segments hscheme hhost hseg hne hport
    have hslash : '/' ∉ text.toList := fun hm => absurd (hport.isDigit hm) (by decide)
    rw [plainUrl_text hscheme hhost (by rintro t ⟨⟩; exact hslash) hseg]
    simp [plainPort, hne, hport, Except.map]
  invalidPort := by
    intro scheme host text segments hscheme hhost hseg hne hchars hport
    have hslash : '/' ∉ text.toList := fun hm => absurd (hchars _ hm) (by decide)
    rw [plainUrl_text hscheme hhost (by rintro t ⟨⟩; exact hslash) hseg]
    simp [plainPort, hne, hport, Except.map]

end

/-! ## User and query -/

/-- User with password, and query, as a URL writes them. -/
structure UrlParts where
  user : Option (String × String) := none
  query : Option String := none
  deriving DecidableEq, Repr

namespace UrlParts

def before (parts : UrlParts) : String :=
  match parts.user with
  | none => ""
  | some (login, password) => login ++ ":" ++ password ++ "@"

def after (parts : UrlParts) : String :=
  match parts.query with
  | none => ""
  | some query => "?" ++ query

/-- The URL with these parts; an empty password is none. -/
def apply (lossy : List UInt8 → String) (parts : UrlParts) (url : Url) : Url :=
  { url with
    username := (parts.user.map Prod.fst).getD ""
    password := parts.user.bind fun user => if user.2 = "" then none else some user.2
    queryPairs := (parts.query.map (formPairs lossy)).getD [] }

/-- A user or a password: unreserved characters and percent signs. -/
def UserText (text : String) : Prop := ∀ c ∈ text.toList, isNameChar c ∨ c = '~' ∨ c = '%'

structure Valid (parts : UrlParts) : Prop where
  user : ∀ login password, parts.user = some (login, password) → UserText login ∧ UserText password
  query : ∀ query, parts.query = some query → '#' ∉ query.toList

/-- The parts once every comma is a slash. -/
def slashed (parts : UrlParts) : UrlParts :=
  { parts with query := parts.query.map (replaceChar ',' '/') }

end UrlParts

def fullText (parts : UrlParts) (host : String) (port : Option String) (segments : List String) :
    String :=
  "esdb://" ++ (parts.before ++ (authorityText host port ++ pathText segments) ++ parts.after)

/-- What may be found where a port is expected. -/
def PortText (port : Option String) : Prop :=
  ∀ text, port = some text → text ≠ "" ∧ ∀ c ∈ text.toList, isNameChar c ∨ c = ',' ∨ c = ':'

/-- The parser reads these parts around any host, port and path. -/
def Reads (parse : String → Except UrlError Url) (lossy : List UInt8 → String)
    (parts : UrlParts) : Prop :=
  ∀ host port segments, HostText host → PortText port → (∀ s ∈ segments, SegmentText s) →
    parse (fullText parts host port segments) =
      (plainPort port).map fun p => parts.apply lossy (urlOf "esdb" host p segments)

theorem plainPort_refused {text : String} (hne : text ≠ "") (h : ¬ IsPort text) :
    plainPort (some text) = .error .invalidPort := by
  simp [plainPort, hne, h]

/-- The laws of the bare URL are the case without user and query. -/
theorem UrlLaws.reads {parse : String → Except UrlError Url} (hl : UrlLaws parse)
    (lossy : List UInt8 → String) : Reads parse lossy {} := by
  intro host port segments hhost hport hseg
  have hscheme : "esdb" ∈ supportedProtocols := by decide
  have htext : fullText {} host port segments = urlText "esdb" host port segments := by
    apply String.toList_inj.mp
    simp [fullText, urlText, UrlParts.before, UrlParts.after]
  have happly : ∀ p, UrlParts.apply lossy {} (urlOf "esdb" host p segments) =
      urlOf "esdb" host p segments := fun _ => rfl
  rw [htext]
  simp only [happly]
  cases port with
  | none => exact hl.host hscheme hhost hseg
  | some text =>
    obtain ⟨hne, hchars⟩ := hport text rfl
    by_cases hp : IsPort text
    · rw [hl.port hscheme hhost hseg hne hp]
      simp [plainPort, hne, hp, Except.map]
    · rw [hl.invalidPort hscheme hhost hseg hne hchars hp, plainPort_refused hne hp]
      rfl

/-! ## A parser that reads user and query -/

def fullUrl (lossy : List UInt8 → String) (s : String) : Except UrlError Url :=
  let (text, query) := splitFirst '?' s
  match splitFirst '@' text with
  | (_, none) => (plainUrl text).map (UrlParts.apply lossy { query })
  | (before, some rest) =>
    let (scheme, user) := splitFirst ':' before
    let (login, password) := splitFirst ':' (String.ofList ((user.getD "").toList.drop 2))
    (plainUrl (scheme ++ "://" ++ rest)).map
      (UrlParts.apply lossy { user := some (login, password.getD ""), query })

section

variable {c : Char} {host : String} {port : Option String} {segments : List String}

theorem mem_authorityPath (hhost : HostText host) (hport : PortText port)
    (hseg : ∀ t ∈ segments, SegmentText t)
    (hc : c ∈ (authorityText host port ++ pathText segments).toList) :
    isNameChar c ∨ c = ',' ∨ c = ':' ∨ c = '/' := by
  rw [String.toList_append, List.mem_append] at hc
  rcases hc with hc | hc
  · cases port with
    | none =>
      rcases hhost.chars c hc with h | h
      · exact .inl h
      · exact .inr (.inl h)
    | some text =>
      simp only [authorityText, String.toList_append, List.mem_append] at hc
      rcases hc with (hc | hc) | hc
      · rcases hhost.chars c hc with h | h
        · exact .inl h
        · exact .inr (.inl h)
      · exact .inr (.inr (.inl (by simpa using hc)))
      · rcases (hport text rfl).2 c hc with h | h | h
        · exact .inl h
        · exact .inr (.inl h)
        · exact .inr (.inr (.inl h))
  · unfold pathText at hc
    split at hc
    · simp at hc
    · rw [String.toList_append, List.mem_append] at hc
      rcases hc with hc | hc
      · exact .inr (.inr (.inr (by simpa using hc)))
      · rcases mem_join hc with h | ⟨t, ht, hct⟩
        · exact .inr (.inr (.inr h))
        · rcases (hseg t ht).chars c hct with h | h
          · exact .inl h
          · exact .inr (.inr (.inl h))

theorem plainUrl_authorityPath (hhost : HostText host) (hport : PortText port)
    (hseg : ∀ t ∈ segments, SegmentText t) :
    plainUrl ("esdb" ++ "://" ++ (authorityText host port ++ pathText segments)) =
      (plainPort port).map fun p => urlOf "esdb" host p segments := by
  have hslash : ∀ text, port = some text → '/' ∉ text.toList :=
    fun text ht hm => absurd ((hport text ht).2 _ hm) (by decide)
  rw [← String.append_assoc]
  exact plainUrl_text (by decide) hhost hslash hseg

/-- Text without `?` in front of a query, if there is one. -/
theorem splitFirst_query {text : String} (h : '?' ∉ text.toList) (parts : UrlParts) :
    splitFirst '?' (text ++ parts.after) = (text, parts.query) := by
  unfold UrlParts.after
  cases parts.query with
  | none => simpa using splitFirst_of_notMem h
  | some q =>
    rw [← String.append_assoc]
    exact splitFirst_append h

theorem fullUrl_reads (lossy : List UInt8 → String) {parts : UrlParts} (hv : parts.Valid) :
    Reads (fullUrl lossy) lossy parts := by
  intro host port segments hhost hport hseg
  have hmem {c : Char} (hc : ¬ (isNameChar c ∨ c = ',' ∨ c = ':' ∨ c = '/')) :
      c ∉ (authorityText host port ++ pathText segments).toList :=
    fun h => hc (mem_authorityPath hhost hport hseg h)
  have hquestion := hmem (c := '?') (by decide)
  have hat := hmem (c := '@') (by decide)
  have hplain := plainUrl_authorityPath hhost hport hseg
  obtain ⟨user, query⟩ := parts
  cases user with
  | none =>
    have htext : fullText ⟨none, query⟩ host port segments =
        "esdb" ++ "://" ++ (authorityText host port ++ pathText segments) ++
          UrlParts.after ⟨none, query⟩ := by
      apply String.toList_inj.mp
      simp [fullText, UrlParts.before]
    have hq : '?' ∉ ("esdb" ++ "://" ++ (authorityText host port ++ pathText segments)).toList := by
      rw [String.toList_append, List.mem_append, not_or]
      exact ⟨by decide, hquestion⟩
    have ha : '@' ∉ ("esdb" ++ "://" ++ (authorityText host port ++ pathText segments)).toList := by
      rw [String.toList_append, List.mem_append, not_or]
      exact ⟨by decide, hat⟩
    unfold fullUrl
    rw [htext, splitFirst_query hq]
    simp only [splitFirst_of_notMem ha, hplain]
    cases plainPort port <;> rfl
  | some user =>
    obtain ⟨login, password⟩ := user
    obtain ⟨hl, hp⟩ := hv.user login password rfl
    have hin {c : Char} (hc : ¬ (isNameChar c ∨ c = '~' ∨ c = '%')) :
        c ∉ login.toList ∧ c ∉ password.toList := ⟨fun h => hc (hl c h), fun h => hc (hp c h)⟩
    have hq := hin (c := '?') (by decide)
    have ha := hin (c := '@') (by decide)
    have hcolon := hin (c := ':') (by decide)
    have htext : fullText ⟨some (login, password), query⟩ host port segments =
        "esdb" ++ String.singleton ':' ++ ("//" ++ (login ++ String.singleton ':' ++ password)) ++
          String.singleton '@' ++ (authorityText host port ++ pathText segments) ++
          UrlParts.after ⟨some (login, password), query⟩ := by
      apply String.toList_inj.mp
      simp [fullText, UrlParts.before]
    have hbefore : '@' ∉ ("esdb" ++ String.singleton ':' ++
        ("//" ++ (login ++ String.singleton ':' ++ password))).toList := by
      simp [ha]
    have hquery : '?' ∉ ("esdb" ++ String.singleton ':' ++
        ("//" ++ (login ++ String.singleton ':' ++ password)) ++
          String.singleton '@' ++ (authorityText host port ++ pathText segments)).toList := by
      rw [String.toList_append, List.mem_append, not_or]
      exact ⟨by simp [hq], hquestion⟩
    unfold fullUrl
    rw [htext, splitFirst_query hquery]
    simp only [splitFirst_append hbefore]
    rw [splitFirst_append (by decide)]
    have hdrop : String.ofList
        (("//" ++ (login ++ String.singleton ':' ++ password)).toList.drop 2) =
        login ++ String.singleton ':' ++ password := by
      apply String.toList_inj.mp
      simp
    simp only [Option.getD_some, hdrop, splitFirst_append hcolon.1, hplain]
    cases plainPort port <;> rfl

end

end Kurrent
