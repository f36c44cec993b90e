import Kurrent.Grpc.Changes
import Kurrent.Grpc.Seeds

/-!
# The query of a connection string with several seeds

A string whose seeds have ports is no URL; it is parsed once more with every comma turned
into a slash, those of the query among them. A value that is read as a number, a flag or a
preference is refused with either character. A text is kept as it is, so a comma that is
written out in one of the four text parameters comes back as a slash.
-/

namespace Kurrent

open Lib

namespace TextParam

/-- The last text a list of parameters gives. -/
def last (t : TextParam) (params : List (String × String)) : Option String :=
  (params.filter fun p => toLowercase p.1 = t.name).getLast?.map Prod.snd

/-- The last text a query gives, as it is written there. -/
def written (lossy : List UInt8 → String) (t : TextParam) (q : String) : Option String :=
  ((rawPairs q).filter fun p => toLowercase (formDecode lossy p.1) = t.name).getLast?.map Prod.snd

end TextParam

/-- The settings apart from hosts and texts: of a text only whether it is there. -/
def ClientSettings.forget (setts : ClientSettings) : ClientSettings :=
  { setts with
    hosts := []
    connectionName := setts.connectionName.map fun _ => ""
    userCertFile := setts.userCertFile.map fun _ => ""
    userKeyFile := setts.userKeyFile.map fun _ => ""
    tlsCaFile := setts.tlsCaFile.map fun _ => "" }

/-! ## What one parameter does -/

/-- An update that leaves texts and user alone and does the same to settings that differ in
their texts and hosts only. -/
structure Checked (u : ClientSettings → ClientSettings) : Prop where
  get : ∀ (t : TextParam) r, t.get (u r) = t.get r
  user : ∀ r, (u r).defaultUserName = r.defaultUserName
  forget : ∀ r r', r.forget = r'.forget → (u r).forget = (u r').forget

section

variable {r r' : ClientSettings} {p : String × String}

theorem TextParam.get_set (t t' : TextParam) (r : ClientSettings) (value : String) :
    t'.get (t.set r value) = if t = t' then some value else t'.get r := by
  cases t <;> cases t' <;> rfl

theorem TextParam.forget_set (t : TextParam) (h : r.forget = r'.forget) (value value' : String) :
    (t.set r value).forget = (t.set r' value').forget := by
  simp only [ClientSettings.forget, ClientSettings.mk.injEq] at h
  cases t <;> simp [TextParam.set, ClientSettings.forget, h]

theorem TextParam.name_inj {t t' : TextParam} (h : t.name = t'.name) : t = t' := by
  revert h; cases t <;> cases t' <;> decide

/-- An update that does not look at texts and hosts and leaves texts and user alone. -/
theorem Checked.of_comm {u : ClientSettings → ClientSettings}
    (hget : ∀ (t : TextParam) r, t.get (u r) = t.get r)
    (huser : ∀ r, (u r).defaultUserName = r.defaultUserName)
    (hcomm : ∀ r, (u r).forget = u r.forget) : Checked u where
  get := hget
  user := huser
  forget r r' h := by rw [hcomm, hcomm, h]

/-- A change of a checked parameter looks at neither texts nor hosts. -/
theorem Change.checked {c : Change} (h : c.name ∈ checkedParams) : Checked c.apply := by
  cases c with
  | text t value => exact absurd h t.name_notMem
  | _ => exact .of_comm (fun t _ => by cases t <;> rfl) (fun _ => rfl) (fun _ => rfl)

/-- **What a parameter can do**: be refused, set a text, or change another setting; an
unknown one does nothing. -/
theorem applyParam_cases (p : String × String) :
    (toLowercase p.1 ∈ checkedParams ∧ ∃ e, ∀ r, applyParam r p = .error e) ∨
    (∃ t : TextParam, toLowercase p.1 = t.name ∧ ∀ r, applyParam r p = .ok (t.set r p.2)) ∨
    ((∀ t : TextParam, toLowercase p.1 ≠ t.name) ∧
      ∃ u, Checked u ∧ ∀ r, applyParam r p = .ok (u r)) := by
  by_cases hc : toLowercase p.1 ∈ checkedParams
  · have ht : ∀ t : TextParam, toLowercase p.1 ≠ t.name := by
      intro t ht
      rw [ht] at hc
      exact t.name_notMem hc
    rcases applyParam_checked hc with he | ⟨c, hname, -, hr⟩
    · exact .inl ⟨hc, he⟩
    · exact .inr (.inr ⟨ht, c.apply, Change.checked (hname ▸ hc), hr⟩)
  · by_cases ht : ∃ t : TextParam, toLowercase p.1 = t.name
    · obtain ⟨t, ht⟩ := ht
      exact .inr (.inl ⟨t, ht, applyParam_text ht⟩)
    · exact .inr (.inr ⟨fun t h => ht ⟨t, h⟩, id, ⟨fun _ _ => rfl, fun _ => rfl, fun _ _ h => h⟩,
        fun r => applyParam_unknown hc fun t h => ht ⟨t, h⟩⟩)

/-- A checked value with a comma or a slash is refused. -/
theorem applyParam_refused {c : Char} (hn : toLowercase p.1 ∈ checkedParams)
    (hc : c = ',' ∨ c = '/') (hm : c ∈ p.2.toList) (r : ClientSettings) :
    (applyParam r p).toOption = none := by
  obtain ⟨V, read, change, reads⟩ := applyParam_reads hn
  obtain ⟨e, he⟩ := reads.strict c p.2 hc hm
  rw [reads.apply, he]
  rfl

/-- A parameter does to settings what it does to others that differ in hosts and texts. -/
theorem applyParam_forget (h : r.forget = r'.forget) :
    (applyParam r p).toOption.map ClientSettings.forget =
      (applyParam r' p).toOption.map ClientSettings.forget := by
  rcases applyParam_cases p with ⟨-, e, he⟩ | ⟨t, -, ht⟩ | ⟨-, u, hu, hr⟩
  · rw [he, he]
  · rw [ht, ht]
    exact congrArg some (t.forget_set h _ _)
  · rw [hr, hr]
    exact congrArg some (hu.forget _ _ h)

/-- No text parameter has a comma or a slash in its name. -/
theorem TextParam.ne_name {c : Char} (hc : c = ',' ∨ c = '/') {n : String} (hm : c ∈ n.toList)
    (t : TextParam) : toLowercase n ≠ t.name := by
  intro ht
  have hmem := mem_toLowercase hc hm
  rw [ht] at hmem
  rcases hc with rfl | rfl <;> revert hmem <;> cases t <;> decide

/-- A name with a comma or a slash is unknown. -/
theorem applyParam_marked {c : Char} (hc : c = ',' ∨ c = '/') (hm : c ∈ p.1.toList)
    (r : ClientSettings) : applyParam r p = .ok r := by
  refine applyParam_unknown ?_ (TextParam.ne_name hc hm)
  intro hn
  have hl := mem_toLowercase hc hm
  have hnone : ∀ n ∈ checkedParams, ',' ∉ n.toList ∧ '/' ∉ n.toList := by decide
  rcases hc with rfl | rfl
  · exact (hnone _ hn).1 hl
  · exact (hnone _ hn).2 hl

/-- With a comma in one value and a slash in the other, both are refused, or both do the same
apart from texts. -/
theorem applyParam_values {p' : String × String} (hname : p'.1 = p.1) (hp : ',' ∈ p.2.toList)
    (hp' : '/' ∈ p'.2.toList) (h : r.forget = r'.forget) :
    (applyParam r p).toOption.map ClientSettings.forget =
      (applyParam r' p').toOption.map ClientSettings.forget := by
  by_cases hc : toLowercase p.1 ∈ checkedParams
  · have hc' : toLowercase p'.1 ∈ checkedParams := by rw [hname]; exact hc
    rw [applyParam_refused hc (.inl rfl) hp, applyParam_refused hc' (.inr rfl) hp']
  by_cases ht : ∃ t : TextParam, toLowercase p.1 = t.name
  · obtain ⟨t, ht⟩ := ht
    have ht' : toLowercase p'.1 = t.name := by rw [hname]; exact ht
    rw [applyParam_text ht, applyParam_text ht']
    exact congrArg some (t.forget_set h _ _)
  · have hun : ∀ t : TextParam, toLowercase p.1 ≠ t.name := fun t h => ht ⟨t, h⟩
    rw [applyParam_unknown hc hun, applyParam_unknown (hname ▸ hc) (hname ▸ hun)]
    exact congrArg some h

end

/-! ## A query and the query with slashes -/

def slashPair (p : String × String) : String × String :=
  (replaceChar ',' '/' p.1, replaceChar ',' '/' p.2)

def decodePair (lossy : List UInt8 → String) (p : String × String) : String × String :=
  (formDecode lossy p.1, formDecode lossy p.2)

theorem inert_comma : Inert ',' := ⟨by decide, by decide, by decide, by decide⟩

theorem inert_slash : Inert '/' := ⟨by decide, by decide, by decide, by decide⟩

section

variable {lossy : List UInt8 → String} {r r' : ClientSettings}

/-- Both forms of a parameter are refused, or both do the same apart from texts. -/
theorem applyParam_slash (hl : SplitsAscii lossy) (p : String × String)
    (h : r.forget = r'.forget) :
    (applyParam r (decodePair lossy p)).toOption.map ClientSettings.forget =
      (applyParam r' (decodePair lossy (slashPair p))).toOption.map ClientSettings.forget := by
  by_cases hn : ',' ∈ p.1.toList
  · have h1 : ',' ∈ (decodePair lossy p).1.toList := mem_formDecode hl inert_comma hn
    have h2 : '/' ∈ (decodePair lossy (slashPair p)).1.toList :=
      mem_formDecode hl inert_slash (mem_replaceChar_of_mem hn)
    rw [applyParam_marked (.inl rfl) h1, applyParam_marked (.inr rfl) h2]
    exact congrArg some h
  · have hname : replaceChar ',' '/' p.1 = p.1 := replaceChar_of_notMem hn
    by_cases hv : ',' ∈ p.2.toList
    · refine applyParam_values ?_ (mem_formDecode hl inert_comma hv)
        (mem_formDecode hl inert_slash (mem_replaceChar_of_mem hv)) h
      simp [decodePair, slashPair, hname]
    · have hsame : slashPair p = p := by
        simp [slashPair, hname, replaceChar_of_notMem hv]
      rw [hsame]
      exact applyParam_forget h

/-- So do all the parameters of a query. -/
theorem foldlM_slash (hl : SplitsAscii lossy) (ps : List (String × String)) :
    ∀ {r r' : ClientSettings}, r.forget = r'.forget →
      ((ps.map (decodePair lossy)).foldlM applyParam r).toOption.map ClientSettings.forget =
      ((ps.map fun p => decodePair lossy (slashPair p)).foldlM applyParam r').toOption.map
        ClientSettings.forget := by
  induction ps with
  | nil => intro r r' h; exact congrArg some h
  | cons p ps ih =>
    intro r r' h
    have hp := applyParam_slash hl p h
    rw [List.map_cons, List.map_cons, List.foldlM_cons, List.foldlM_cons]
    cases h1 : applyParam r (decodePair lossy p) with
    | error e =>
      cases h2 : applyParam r' (decodePair lossy (slashPair p)) with
      | error e' => rfl
      | ok s' => rw [h1, h2] at hp; cases hp
    | ok s =>
      cases h2 : applyParam r' (decodePair lossy (slashPair p)) with
      | error e' => rw [h1, h2] at hp; cases hp
      | ok s' =>
        rw [h1, h2] at hp
        exact ih (Option.some.inj hp)

/-- The last text given is the one that is kept. -/
theorem get_foldlM (t : TextParam) {ps : List (String × String)} :
    ∀ {r r' : ClientSettings}, ps.foldlM applyParam r = .ok r' →
      t.get r' = (t.last ps).or (t.get r) := by
  induction ps with
  | nil => intro r r' h; cases h; rfl
  | cons p ps ih =>
    intro r r' h
    rw [List.foldlM_cons] at h
    obtain ⟨s, hs, h⟩ := bind_eq_ok h
    rw [ih h]
    unfold TextParam.last
    rw [List.filter_cons]
    rcases applyParam_cases p with ⟨-, e, he⟩ | ⟨t', ht', hset⟩ | ⟨hne, u, hu, hr⟩
    · rw [he] at hs; cases hs
    · rw [hset] at hs
      cases hs
      rw [TextParam.get_set]
      by_cases heq : t' = t
      · subst heq
        rw [if_pos rfl, if_pos (by simpa using ht'), List.getLast?_cons]
        cases (ps.filter fun p => toLowercase p.1 = t'.name).getLast? <;> rfl
      · have hname : ¬ toLowercase p.1 = t.name :=
          fun h => heq (TextParam.name_inj (ht'.symm.trans h))
        rw [if_neg heq, if_neg (by simpa using hname)]
    · rw [hr] at hs
      cases hs
      rw [if_neg (by simpa using hne t), hu.get]

/-- A query is refused where one of its parameters is. -/
theorem foldlM_error_iff {ps : List (String × String)} :
    ∀ {r : ClientSettings}, (ps.foldlM applyParam r).toOption = none ↔
      ∃ p ∈ ps, ∃ e, applyParam {} p = .error e := by
  induction ps with
  | nil => intro r; simp [Except.toOption, pure, Except.pure]
  | cons p ps ih =>
    intro r
    rw [List.foldlM_cons, List.exists_mem_cons_iff]
    rcases applyParam_cases p with ⟨-, e, he⟩ | ⟨t, -, hset⟩ | ⟨-, u, -, hr⟩
    · simp only [he, Except.error.injEq, exists_eq', true_or, iff_true]
      rfl
    · simp only [hset, reduceCtorEq, exists_false, false_or]
      exact ih
    · simp only [hr, reduceCtorEq, exists_false, false_or]
      exact ih

theorem formPairs_eq (q : String) : formPairs lossy q = (rawPairs q).map (decodePair lossy) := rfl

theorem formPairs_slash (q : String) :
    formPairs lossy (replaceChar ',' '/' q) =
      (rawPairs q).map fun p => decodePair lossy (slashPair p) := by
  rw [formPairs_eq, rawPairs_replaceChar ⟨by decide, by decide⟩ ⟨by decide, by decide⟩, List.map_map]
  rfl

theorem last_formPairs (t : TextParam) (q : String) :
    t.last (formPairs lossy q) = (t.written lossy q).map (formDecode lossy) := by
  unfold TextParam.last TextParam.written
  rw [formPairs_eq, List.filter_map, List.getLast?_map, Option.map_map, Option.map_map]
  rfl

theorem last_slash (hl : SplitsAscii lossy) (t : TextParam) (q : String) :
    t.last (formPairs lossy (replaceChar ',' '/' q)) =
      (t.written lossy q).map fun v => formDecode lossy (replaceChar ',' '/' v) := by
  -- a name with a comma is no text parameter, with the comma or with the slash
  have hname : ∀ p : String × String,
      toLowercase (decodePair lossy (slashPair p)).1 = t.name ↔
        toLowercase (formDecode lossy p.1) = t.name := by
    intro p
    by_cases hn : ',' ∈ p.1.toList
    · have h1 := t.ne_name (.inl rfl) (mem_formDecode hl inert_comma hn)
      have h2 := t.ne_name (.inr rfl)
        (mem_formDecode hl inert_slash (@mem_replaceChar_of_mem ',' '/' p.1 hn))
      exact ⟨fun h => absurd h h2, fun h => absurd h h1⟩
    · simp [decodePair, slashPair, replaceChar_of_notMem hn]
  unfold TextParam.last TextParam.written
  rw [formPairs_slash, List.filter_map, List.getLast?_map, Option.map_map, Option.map_map]
  have hfilter : ((fun p : String × String => decide (toLowercase p.1 = t.name)) ∘
      fun p => decodePair lossy (slashPair p)) =
      fun p => decide (toLowercase (formDecode lossy p.1) = t.name) := by
    funext p
    simp only [Function.comp_apply, hname p]
  rw [hfilter]
  rfl

/-- A comma that is written out shows in the text. -/
theorem formDecode_slash_iff (hl : SplitsAscii lossy) {v : String} :
    formDecode lossy (replaceChar ',' '/' v) = formDecode lossy v ↔ ',' ∉ v.toList := by
  constructor
  · intro h hm
    obtain ⟨a, b, rfl, ha⟩ := exists_append_of_mem hm
    have hone : replaceChar ',' '/' (String.singleton ',') = String.singleton '/' := by decide
    rw [replaceChar_append, replaceChar_append, replaceChar_of_notMem ha, hone,
      formDecode_append hl inert_slash, formDecode_append hl inert_comma] at h
    have hlist := congrArg String.toList h
    simp at hlist
  · intro h
    rw [replaceChar_of_notMem h]

end

/-! ## The two strings -/

/-- The same settings apart from the hosts, or none. -/
def SameButHosts : Parsed → Parsed → Prop
  | .ok a, .ok b => { a with hosts := [] } = { b with hosts := [] }
  | .error _, .error _ => True
  | _, _ => False

/-- A query no connection string can have: a parameter does not read, or only one of the
two certificate files is given. -/
def Refused (lossy : List UInt8 → String) (q : String) : Prop :=
  (∃ p ∈ formPairs lossy q, ∃ e, applyParam {} p = .error e) ∨
    (TextParam.userCertFile.written lossy q).isSome ≠ (TextParam.userKeyFile.written lossy q).isSome

theorem eq_of_forget {a b : ClientSettings} (h : a.forget = b.forget) :
    { a with hosts := [] } = { b with hosts := [] } ↔ ∀ t : TextParam, t.get a = t.get b := by
  simp only [ClientSettings.forget, ClientSettings.mk.injEq] at h
  constructor
  · intro heq t
    have hget : ∀ x : ClientSettings, t.get { x with hosts := [] } = t.get x := by
      intro x; cases t <;> rfl
    rw [← hget a, ← hget b, heq]
  · intro ht
    have h1 := ht .connectionName
    have h2 := ht .userCertFile
    have h3 := ht .userKeyFile
    have h4 := ht .tlsCaFile
    simp only [TextParam.get] at h1 h2 h3 h4
    simp [h, h1, h2, h3, h4]

theorem finishUrl_query (hosts : List Endpoint) (lossy : List UInt8 → String) (q : String)
    (url : Url) :
    finishUrl hosts (UrlParts.apply lossy { query := some q } url) =
      (formPairs lossy q).foldlM applyParam { hosts } >>= checkCertificates := rfl

theorem checkCertificates_eq (setts : ClientSettings) :
    checkCertificates setts =
      if setts.userCertFile.isSome ≠ setts.userKeyFile.isSome then
        .error ⟨"Invalid user certificate settings. Both userCertFile and userKeyFile must be provided",
          none⟩
      else .ok setts := by
  unfold checkCertificates
  cases setts.userCertFile <;> cases setts.userKeyFile <;> rfl

section

variable {lossy : List UInt8 → String} {q : String}

/-- Once the parameters are read, the texts that are kept are those of the query. -/
theorem get_query (t : TextParam) {hosts : List Endpoint} {r : ClientSettings}
    (h : (formPairs lossy q).foldlM applyParam { hosts } = .ok r) :
    t.get r = (t.written lossy q).map (formDecode lossy) := by
  rw [get_foldlM t h, last_formPairs]
  cases t <;> exact Option.or_none

theorem get_query_slash (hl : SplitsAscii lossy) (t : TextParam) {hosts : List Endpoint}
    {r : ClientSettings}
    (h : (formPairs lossy (replaceChar ',' '/' q)).foldlM applyParam { hosts } = .ok r) :
    t.get r = (t.written lossy q).map fun v => formDecode lossy (replaceChar ',' '/' v) := by
  rw [get_foldlM t h, last_slash hl]
  cases t <;> exact Option.or_none

/-- The texts are the same where no comma is written out in them. -/
theorem texts_slash_iff (hl : SplitsAscii lossy) {hosts hosts' : List Endpoint}
    {r r' : ClientSettings}
    (h : (formPairs lossy (replaceChar ',' '/' q)).foldlM applyParam { hosts } = .ok r)
    (h' : (formPairs lossy q).foldlM applyParam { hosts := hosts' } = .ok r') :
    (∀ t : TextParam, t.get r = t.get r') ↔
      ∀ t : TextParam, ∀ v ∈ t.written lossy q, ',' ∉ v.toList := by
  refine forall_congr' fun t => ?_
  rw [get_query_slash hl t h, get_query t h']
  constructor
  · intro heq v hv
    rw [hv] at heq
    exact (formDecode_slash_iff hl).mp (Option.some.inj heq)
  · intro hcomma
    exact Option.map_congr fun v hv => (formDecode_slash_iff hl).mpr (hcomma v hv)

/-- The query with slashes against the query itself. -/
theorem finishUrl_slash_iff (hl : SplitsAscii lossy) (hosts hosts' : List Endpoint)
    (url url' : Url) :
    SameButHosts
      (finishUrl hosts (UrlParts.apply lossy { query := some (replaceChar ',' '/' q) } url))
      (finishUrl hosts' (UrlParts.apply lossy { query := some q } url')) ↔
    Refused lossy q ∨ ∀ (t : TextParam), ∀ v ∈ t.written lossy q, ',' ∉ v.toList := by
  have hagree := foldlM_slash hl (rawPairs q)
    (show ClientSettings.forget { hosts := hosts' } = ClientSettings.forget { hosts } from rfl)
  rw [← formPairs_eq, ← formPairs_slash] at hagree
  rw [finishUrl_query, finishUrl_query]
  cases h' : (formPairs lossy q).foldlM applyParam { hosts := hosts' } with
  | error e =>
    have hrefused : Refused lossy q := .inl (foldlM_error_iff.mp (by rw [h']; rfl))
    rw [h'] at hagree
    cases h : (formPairs lossy (replaceChar ',' '/' q)).foldlM applyParam { hosts } with
    | ok r => rw [h] at hagree; cases hagree
    | error e' => exact ⟨fun _ => .inl hrefused, fun _ => trivial⟩
  | ok r' =>
    have hread : ¬ ∃ p ∈ formPairs lossy q, ∃ e, applyParam {} p = .error e := by
      intro hp
      have hnone := (@foldlM_error_iff _ { hosts := hosts' }).mpr hp
      rw [h'] at hnone
      cases hnone
    rw [h'] at hagree
    cases h : (formPairs lossy (replaceChar ',' '/' q)).foldlM applyParam { hosts } with
    | error e => rw [h] at hagree; cases hagree
    | ok r =>
      rw [h] at hagree
      have hforget : r.forget = r'.forget := (Option.some.inj hagree).symm
      have hcert : ∀ t : TextParam, (t.get r).isSome = (t.written lossy q).isSome ∧
          (t.get r').isSome = (t.written lossy q).isSome := by
        intro t
        rw [get_query_slash hl t h, get_query t h', Option.isSome_map, Option.isSome_map]
        exact ⟨rfl, rfl⟩
      have hc := hcert .userCertFile
      have hk := hcert .userKeyFile
      simp only [TextParam.get] at hc hk
      show SameButHosts (checkCertificates r) (checkCertificates r') ↔ _
      rw [checkCertificates_eq, checkCertificates_eq, hc.1, hc.2, hk.1, hk.2]
      by_cases hx : (TextParam.userCertFile.written lossy q).isSome ≠
          (TextParam.userKeyFile.written lossy q).isSome
      · rw [if_pos hx, if_pos hx]
        exact ⟨fun _ => .inl (.inr hx), fun _ => trivial⟩
      · rw [if_neg hx, if_neg hx]
        have hrefused : ¬ Refused lossy q := fun hr => hr.elim hread hx
        show { r with hosts := [] } = { r' with hosts := [] } ↔ _
        rw [eq_of_forget hforget, texts_slash_iff hl h h']
        exact ⟨.inr, fun hr => hr.resolve_left hrefused⟩

end

def localhost : Seed := ⟨"localhost", none, by decide, by simp [isNameChar], by decide⟩

theorem localhost_string (q : String) :
    "esdb://localhost?" ++ q = partsString { query := some q } [localhost] := by
  apply String.toList_inj.mp
  simp [partsString, UrlParts.before, UrlParts.after, localhost, Seed.text, Seed.portText,
    authorityText]

/-- **The hosts leave the other settings alone** exactly when no comma is written out in
the last value of a text parameter, or the query is refused anyway. -/
theorem query_apart_from_seeds_iff {parse : String → Except UrlError Url}
    {lossy : List UInt8 → String} (hr : ∀ parts : UrlParts, parts.Valid → Reads parse lossy parts)
    (hl : SplitsAscii lossy) {q : String} (hq : '#' ∉ q.toList) {seeds : List Seed}
    (h₂ : 2 ≤ seeds.length) (hports : ∀ s ∈ seeds, s.port ≠ none) :
    SameButHosts
      (ClientSettings.fromStr parse (partsString { query := some q } seeds))
      (ClientSettings.fromStr parse ("esdb://localhost?" ++ q)) ↔
    Refused lossy q ∨ ∀ (t : TextParam), ∀ v ∈ t.written lossy q, ',' ∉ v.toList := by
  have hv : UrlParts.Valid { query := some q } := ⟨by simp, by rintro _ ⟨⟩; exact hq⟩
  have hslash : '#' ∉ (replaceChar ',' '/' q).toList := notMem_replaceChar_of_ne (by decide) hq
  have hvs : UrlParts.Valid (UrlParts.slashed { query := some q }) :=
    ⟨by simp [UrlParts.slashed], by rintro _ ⟨⟩; exact hslash⟩
  obtain ⟨s, rest, rfl⟩ := List.exists_cons_of_ne_nil
    (show seeds ≠ [] by rintro rfl; simp at h₂)
  obtain ⟨p, hp⟩ := Option.ne_none_iff_exists'.mp (hports s (by simp))
  have hrest : rest ≠ [] := by
    rintro rfl
    simp at h₂
  obtain ⟨url, hurl⟩ := fromStr_path hv (hr _ hv) (hr _ hvs) (List.forall_mem_nil _) hp hrest
  obtain ⟨url', hurl'⟩ := @fromStr_host _ _ _ (hr _ hv) [] localhost (List.forall_mem_nil _)
  rw [List.nil_append] at hurl hurl'
  rw [localhost_string, hurl, hurl']
  exact finishUrl_slash_iff hl _ _ _ _

/-! ## The text decoder on ASCII -/

/-- Bytes beyond ASCII are not looked at. -/
def asciiLossy (bs : List UInt8) : String :=
  String.ofList (bs.map fun b => if b.toNat < 128 then Char.ofNat b.toNat else Char.ofNat 0xFFFD)

theorem asciiLossy_splits : SplitsAscii asciiLossy := by
  intro xs b ys hb
  apply String.toList_inj.mp
  simp [asciiLossy, hb]

def seedC : Seed := { seedB with port := some 4321 }

/-- A comma written as `%2C` comes through. -/
theorem query_apart_from_seeds_encoded :
    SameButHosts
      (ClientSettings.fromStr (fullUrl asciiLossy) "esdb://a:1234,b:4321?connectionName=x%2Cy")
      (ClientSettings.fromStr (fullUrl asciiLossy) "esdb://localhost?connectionName=x%2Cy") := by
  have hs : "esdb://a:1234,b:4321?connectionName=x%2Cy" =
      partsString { query := some "connectionName=x%2Cy" } [seedA, seedC] := by decide +kernel
  have hq : "esdb://localhost?connectionName=x%2Cy" =
      "esdb://localhost?" ++ "connectionName=x%2Cy" := by decide +kernel
  have hw : ∀ t : TextParam, ((t.written asciiLossy "connectionName=x%2Cy").all
      fun v => !v.toList.contains ',') = true := by
    intro t
    cases t <;> decide +kernel
  have hports : ∀ s ∈ [seedA, seedC], s.port ≠ none := by simp [seedA, seedC]
  have hiff := @query_apart_from_seeds_iff (fullUrl asciiLossy) asciiLossy
    (fun _ => fullUrl_reads asciiLossy) asciiLossy_splits "connectionName=x%2Cy"
    (by decide +kernel) [seedA, seedC] (by decide) hports
  rw [← hs, ← hq] at hiff
  rw [hiff]
  right
  intro t v hv
  have hall := hw t
  rw [hv] at hall
  simpa using hall

/-- **A comma that is written out comes back as a slash.** -/
theorem query_comma_becomes_slash :
    (ClientSettings.fromStr (fullUrl asciiLossy) "esdb://a:1234,b:4321?connectionName=x,y").map
      ClientSettings.connectionName = .ok (some "x/y") ∧
    (ClientSettings.fromStr (fullUrl asciiLossy) "esdb://localhost?connectionName=x,y").map
      ClientSettings.connectionName = .ok (some "x,y") ∧
    ¬ SameButHosts
      (ClientSettings.fromStr (fullUrl asciiLossy) "esdb://a:1234,b:4321?connectionName=x,y")
      (ClientSettings.fromStr (fullUrl asciiLossy) "esdb://localhost?connectionName=x,y") := by
  have h1 : (ClientSettings.fromStr (fullUrl asciiLossy)
      "esdb://a:1234,b:4321?connectionName=x,y").map ClientSettings.connectionName =
      .ok (some "x/y") := by decide +kernel
  have h2 : (ClientSettings.fromStr (fullUrl asciiLossy)
      "esdb://localhost?connectionName=x,y").map ClientSettings.connectionName =
      .ok (some "x,y") := by decide +kernel
  refine ⟨h1, h2, fun h => ?_⟩
  cases ha : ClientSettings.fromStr (fullUrl asciiLossy)
      "esdb://a:1234,b:4321?connectionName=x,y" with
  | error e => rw [ha] at h1; cases h1
  | ok a =>
    cases hb : ClientSettings.fromStr (fullUrl asciiLossy)
        "esdb://localhost?connectionName=x,y" with
    | error e => rw [hb] at h2; cases h2
    | ok b =>
      rw [ha] at h h1
      rw [hb] at h h2
      have heq : { a with hosts := [] } = { b with hosts := [] } := h
      have hname := congrArg ClientSettings.connectionName heq
      simp only at hname
      rw [Except.ok.inj h1, Except.ok.inj h2] at hname
      exact absurd hname (by decide)

end Kurrent
