import Kurrent.Streams.Metadata

/-!
# Nulls in stream metadata

A named property may be there with the value `null`, as another client may write it. What that
is read as depends on how the property's decoder asks for its value: as an option, which takes
`null` for an absent property, or as a number, a string or an object, where `null` is refused
although each visitor says what to make of none.
-/

namespace Kurrent

open Lib

def aclFields : List String := ["$r", "$w", "$d", "$mr", "$mw"]

/-- The roles are put as `null` into the object of the access control list. -/
inductive AclNulls (roles : List String) :
    List (String × Json) → List (String × Json) → Prop where
  | same {es : List (String × Json)} (h : roles = []) : AclNulls roles es es
  | acl {front back acl acl' : List (String × Json)} (h : Json.NullsAdded roles acl acl') :
    AclNulls roles (front ++ ("$acl", .object acl) :: back)
      (front ++ ("$acl", .object acl') :: back)

/-- The second object is the first with `null` for these names, and for these roles in its access
control list. -/
def NullsPut (names roles : List String) (es es' : List (String × Json)) : Prop :=
  ∃ mid, AclNulls roles es mid ∧ Json.NullsAdded names mid es'

section

variable {A : Type} {decode : Json.Decoder (Option A)} {names : List String} {name : String}
  {es es' : List (String × Json)}

/-- Where `null` is none, a property may as well be absent. -/
theorem defaultField_added (h : Json.NullsAdded names es es')
    (hnull : name ∈ names → decode .null = .ok none) :
    defaultField decode name es' = defaultField decode name es := by
  unfold defaultField Json.fieldOr
  by_cases hn : name ∈ names
  · rw [Json.optField_some (h.null name hn), Json.optField_none (Json.values_of_added h hn),
      hnull hn]
    rfl
  · unfold Json.optField
    rw [Json.values_of_notAdded h hn]

/-- Where `null` is refused, the object is. -/
theorem defaultField_null {e : DeError} (h : Json.values name es = [.null])
    (hnull : decode .null = .error e) (o : Option A) : defaultField decode name es ≠ .ok o := by
  unfold defaultField Json.fieldOr
  rw [Json.optField_some h, hnull]
  intro hok
  cases hok

/-- A property that is decoded is there once. -/
theorem values_of_decoded {o : Option A} {j : Json} (h : defaultField decode name es = .ok o)
    (hj : j ∈ Json.values name es) : Json.values name es = [j] := by
  unfold defaultField Json.fieldOr Json.optField at h
  split at h
  next hv => rw [hv] at hj; cases hj
  next v hv => rw [hv] at hj ⊢; rw [List.mem_singleton.mp hj]
  next => cases h

end

/-! ## What is decoded, field by field -/

structure MetadataRead (es : List (String × Json)) (m : StreamMetadata) : Prop where
  maxCount : defaultField (deserializeOption deserializeU64) "$maxCount" es = .ok m.maxCount
  maxAge : defaultField deserializeDuration "$maxAge" es = .ok m.maxAge
  truncateBefore : defaultField (deserializeOption deserializeU64) "$tb" es = .ok m.truncateBefore
  cacheControl : defaultField deserializeDuration "$cacheControl" es = .ok m.cacheControl
  acl : defaultField deserializeAcl "$acl" es = .ok m.acl
  customProperties : collect (es.filter fun e => e.1 ∉ metadataFields) = m.customProperties

theorem deserialize_iff_read {es : List (String × Json)} {m : StreamMetadata} :
    StreamMetadata.deserialize (.object es) = .ok m ↔ MetadataRead es m := by
  refine ⟨fun h => ?_, fun h => ?_⟩
  · unfold StreamMetadata.deserialize at h
    simp only at h
    obtain ⟨_, hcount, h⟩ := bind_eq_ok h
    obtain ⟨_, hage, h⟩ := bind_eq_ok h
    obtain ⟨_, htb, h⟩ := bind_eq_ok h
    obtain ⟨_, hcache, h⟩ := bind_eq_ok h
    obtain ⟨_, hacl, h⟩ := bind_eq_ok h
    cases h
    exact ⟨hcount, hage, htb, hcache, hacl, rfl⟩
  · unfold StreamMetadata.deserialize
    simp only
    rw [h.maxCount, h.maxAge, h.truncateBefore, h.cacheControl, h.acl, h.customProperties]
    rfl

/-- Every role of a list that is decoded can be. -/
theorem deserialize_roles {es : List (String × Json)} {acl : StreamAcl}
    (h : StreamAcl.deserialize es = .ok acl) :
    ∀ role ∈ aclFields, ∃ o, defaultField deserializeRoles role es = .ok o := by
  unfold StreamAcl.deserialize at h
  obtain ⟨_, hr, h⟩ := bind_eq_ok h
  obtain ⟨_, hw, h⟩ := bind_eq_ok h
  obtain ⟨_, hd, h⟩ := bind_eq_ok h
  obtain ⟨_, hmr, h⟩ := bind_eq_ok h
  obtain ⟨_, hmw, h⟩ := bind_eq_ok h
  intro role hrole
  simp only [aclFields, List.mem_cons, List.not_mem_nil, or_false] at hrole
  rcases hrole with rfl | rfl | rfl | rfl | rfl
  · exact ⟨_, hr⟩
  · exact ⟨_, hw⟩
  · exact ⟨_, hd⟩
  · exact ⟨_, hmr⟩
  · exact ⟨_, hmw⟩

section

variable {names roles : List String} {es mid es' : List (String × Json)} {m m' : StreamMetadata}

/-- What is decoded as an option may be `null`. -/
theorem MetadataRead.added (h : MetadataRead es m) (hadd : Json.NullsAdded names es es')
    (hnames : ∀ n ∈ names, n = "$maxCount" ∨ n = "$tb") : MetadataRead es' m := by
  have hnot {name : String} (hcount : name ≠ "$maxCount") (htb : name ≠ "$tb") : name ∉ names :=
    fun hn => (hnames name hn).elim hcount htb
  refine ⟨?_, ?_, ?_, ?_, ?_, ?_⟩
  · rw [defaultField_added hadd fun _ => rfl, h.maxCount]
  · rw [defaultField_added hadd fun hn => absurd hn (hnot (by simp) (by simp)), h.maxAge]
  · rw [defaultField_added hadd fun _ => rfl, h.truncateBefore]
  · rw [defaultField_added hadd fun hn => absurd hn (hnot (by simp) (by simp)), h.cacheControl]
  · rw [defaultField_added hadd fun hn => absurd hn (hnot (by simp) (by simp)), h.acl]
  · rw [← h.customProperties, ← hadd.rest, List.filter_filter]
    congr 1
    refine List.filter_congr fun e _ => ?_
    by_cases he : e.1 ∈ names
    · rcases hnames _ he with heq | heq <;> simp [heq, metadataFields]
    · simp [he]

/-- Nothing else may. -/
theorem MetadataRead.names_of_added (h : MetadataRead es' m') (hadd : Json.NullsAdded names mid es')
    {n : String} (hn : n ∈ names) (hfield : n ∈ metadataFields) : n = "$maxCount" ∨ n = "$tb" := by
  have hnull := hadd.null n hn
  simp only [metadataFields, List.mem_cons, List.not_mem_nil, or_false] at hfield
  rcases hfield with rfl | rfl | rfl | rfl | rfl
  · exact .inl rfl
  · exact absurd h.maxAge (defaultField_null hnull rfl _)
  · exact .inr rfl
  · exact absurd h.cacheControl (defaultField_null hnull rfl _)
  · exact absurd h.acl (defaultField_null hnull rfl _)

/-- No role may. -/
theorem MetadataRead.roles_of_added (h : MetadataRead es' m') (hadd : Json.NullsAdded names mid es')
    (hacl : AclNulls roles es mid) (hroles : ∀ role ∈ roles, role ∈ aclFields) : roles = [] := by
  cases hacl with
  | same hnil => exact hnil
  | @acl front back acl acl' hin =>
    -- the list is there in the second object, so that its decoder reads it
    have hmem : .object acl' ∈ Json.values "$acl" es' := by
      have hentry : ("$acl", .object acl') ∈ es' := by
        have := List.mem_append_right front (List.mem_cons_self (a := ("$acl", Json.object acl'))
          (l := back))
        rw [← hadd.rest] at this
        exact (List.mem_filter.mp this).1
      unfold Json.values
      exact List.mem_map.mpr ⟨_, List.mem_filter.mpr ⟨hentry, by simp⟩, rfl⟩
    have hdecode := h.acl
    unfold defaultField Json.fieldOr at hdecode
    rw [Json.optField_some (values_of_decoded h.acl hmem)] at hdecode
    unfold deserializeAcl at hdecode
    simp only at hdecode
    cases hread : StreamAcl.deserialize acl' with
    | error e => rw [hread] at hdecode; cases hdecode
    | ok a =>
      refine List.eq_nil_iff_forall_not_mem.mpr fun role hrole => ?_
      obtain ⟨o, ho⟩ := deserialize_roles hread role (hroles role hrole)
      exact defaultField_null (hin.null role hrole) rfl o ho

end

/-- **Which nulls are read as absent properties**: those of `$maxCount` and `$tb`, which are
decoded as options, and none of the durations, of the access control list and of its roles. -/
theorem metadata_nulls_iff {names roles : List String} {es es' : List (String × Json)}
    {m : StreamMetadata} (hnames : ∀ n ∈ names, n ∈ metadataFields)
    (hroles : ∀ role ∈ roles, role ∈ aclFields)
    (h : StreamMetadata.deserialize (.object es) = .ok m) (hput : NullsPut names roles es es') :
    StreamMetadata.deserialize (.object es') = .ok m ↔
      (∀ n ∈ names, n = "$maxCount" ∨ n = "$tb") ∧ roles = [] := by
  rw [deserialize_iff_read] at h ⊢
  obtain ⟨mid, hacl, hadd⟩ := hput
  refine ⟨fun h' => ⟨fun n hn => h'.names_of_added hadd hn (hnames n hn),
    h'.roles_of_added hadd hacl hroles⟩, ?_⟩
  rintro ⟨hcounts, rfl⟩
  have hmid : mid = es := by
    cases hacl with
    | same => rfl
    | acl hin =>
      have hall := hin.rest
      rw [List.filter_eq_self.mpr (by simp)] at hall
      rw [hall]
  exact (hmid ▸ h).added hadd hcounts

/-- An object without properties, and one with nothing but such nulls. -/
theorem metadata_nulls_count :
    StreamMetadata.deserialize (.object [("$tb", .null), ("$maxCount", .null)]) = .ok {} := by
  have hput : NullsPut ["$maxCount", "$tb"] [] [] [("$tb", .null), ("$maxCount", .null)] :=
    ⟨[], .same rfl, rfl, by simp [Json.values]⟩
  exact (metadata_nulls_iff (by decide) (by decide) rfl hput).mpr ⟨by decide, rfl⟩

/-- A duration that is `null`. -/
theorem metadata_null_refused :
    StreamMetadata.deserialize (.object []) = .ok {} ∧
      NullsPut ["$maxAge"] [] [] [("$maxAge", .null)] ∧
      StreamMetadata.deserialize (.object [("$maxAge", .null)]) =
        .error (.invalidType "a time duration in milliseconds") :=
  ⟨rfl, ⟨[], .same rfl, rfl, by simp [Json.values]⟩, rfl⟩

end Kurrent
