import Kurrent.Lib.Json

/-!
# The orders of a hash map

Two visits of one map see the same entries in another order, and every order of the entries
is a visit. A loop over the entries that may give up is `List.foldlM` in `Option`: its
result does not depend on the order when any two entries of the map can be taken in either
order.
-/

namespace Kurrent.Lib

section

variable {V : Type} {m : Finmap fun _ : String => V}

theorem Visit.perm (v w : Visit m) : v.entries.Perm w.entries := by
  obtain ⟨l, rfl⟩ := v
  obtain ⟨k, hk⟩ := w
  exact (AList.toFinmap_eq.mp hk).symm.map _

theorem Visit.nonempty (m : Finmap fun _ : String => V) : Nonempty (Visit m) :=
  m.induction_on fun l => ⟨⟨l, rfl⟩⟩

/-- Any order of the entries is one the map may be visited in. -/
theorem Visit.of_perm (v : Visit m) {es : List (String × V)} (h : es.Perm v.entries) :
    ∃ w : Visit m, w.entries = es := by
  have hback : ∀ l : List (Sigma fun _ : String => V),
      (l.map fun e => (e.1, e.2)).map (fun e => (⟨e.1, e.2⟩ : Sigma fun _ : String => V)) = l := by
    intro l
    rw [List.map_map]
    exact List.map_id l
  have hperm : (es.map fun e => (⟨e.1, e.2⟩ : Sigma fun _ : String => V)).Perm v.1.entries := by
    have := h.map fun e => (⟨e.1, e.2⟩ : Sigma fun _ : String => V)
    rwa [Visit.entries, hback] at this
  have hnodup := (List.perm_nodupKeys hperm).mpr v.1.nodupKeys
  refine ⟨⟨⟨_, hnodup⟩, ?_⟩, ?_⟩
  · rw [← v.2]
    exact AList.toFinmap_eq.mpr hperm
  · unfold Visit.entries
    rw [List.map_map]
    exact List.map_id es

/-- The entries of a visit are those of the map. -/
theorem Visit.mem_iff (v : Visit m) {k : String} {x : V} :
    (k, x) ∈ v.entries ↔ m.lookup k = some x := by
  obtain ⟨l, rfl⟩ := v
  unfold Visit.entries
  rw [Finmap.lookup_toFinmap]
  constructor
  · intro h
    obtain ⟨e, he, heq⟩ := List.mem_map.mp h
    cases heq
    exact AList.mem_lookup_iff.mpr he
  · intro h
    exact List.mem_map.mpr ⟨⟨k, x⟩, AList.mem_lookup_iff.mp h, rfl⟩

theorem Visit.mem_of_entry (v : Visit m) {e : String × V} (h : e ∈ v.entries) : e.1 ∈ m :=
  Finmap.mem_iff.mpr ⟨e.2, v.mem_iff.mp h⟩

theorem Visit.nodup (v : Visit m) : v.entries.Nodup := by
  obtain ⟨l, rfl⟩ := v
  refine List.Nodup.map ?_ l.nodupKeys.nodup
  rintro ⟨k, x⟩ ⟨k', x'⟩ h
  cases h
  rfl

theorem Visit.eq_of_key_eq (v : Visit m) {k : String} {x y : V} (hx : (k, x) ∈ v.entries)
    (hy : (k, y) ∈ v.entries) : x = y := by
  rw [v.mem_iff] at hx hy
  rw [hx] at hy
  exact Option.some.inj hy

/-- Any entry can come first. -/
theorem Visit.exists_first [DecidableEq V] (v : Visit m) {k : String} {x : V}
    (h : m.lookup k = some x) : ∃ w : Visit m, w.entries = (k, x) :: v.entries.erase (k, x) :=
  v.of_perm (List.perm_cons_erase (v.mem_iff.mpr h)).symm

/-- Any entry can come last. -/
theorem Visit.exists_last [DecidableEq V] (v : Visit m) {k : String} {x : V}
    (h : m.lookup k = some x) : ∃ w : Visit m, w.entries = v.entries.erase (k, x) ++ [(k, x)] :=
  v.of_perm ((List.perm_append_singleton _ _).trans (List.perm_cons_erase (v.mem_iff.mpr h)).symm)

end

section

variable {α σ : Type} {f : σ → α → Option σ}

/-- Steps that can be taken in either order can be taken in any order. -/
theorem foldlM_perm {l k : List α} (h : l.Perm k)
    (hcomm : ∀ a ∈ l, ∀ b ∈ l, ∀ s, (f s a).bind (f · b) = (f s b).bind (f · a)) (s : σ) :
    l.foldlM f s = k.foldlM f s := by
  induction h generalizing s with
  | nil => rfl
  | cons a h ih =>
    simp only [List.foldlM_cons]
    cases f s a with
    | none => rfl
    | some t => exact ih (fun b hb c hc => hcomm b (by simp [hb]) c (by simp [hc])) t
  | swap a b l =>
    simp only [List.foldlM_cons]
    have hab := hcomm b (by simp) a (by simp) s
    calc ((f s b).bind fun t => (f t a).bind fun u => l.foldlM f u)
        = ((f s b).bind (f · a)).bind fun u => l.foldlM f u := by
          rw [Option.bind_assoc]
      _ = ((f s a).bind (f · b)).bind fun u => l.foldlM f u := by rw [hab]
      _ = (f s a).bind fun t => (f t b).bind fun u => l.foldlM f u := by
          rw [Option.bind_assoc]
  | trans h₁ h₂ ih₁ ih₂ =>
    rw [ih₁ hcomm, ih₂ fun a ha b hb => hcomm a (h₁.mem_iff.mpr ha) b (h₁.mem_iff.mpr hb)]

/-- An entry no state can take ends the loop. -/
theorem foldlM_none_of_mem {l : List α} {a : α} (ha : a ∈ l) (h : ∀ s, f s a = none) (s : σ) :
    l.foldlM f s = none := by
  induction l generalizing s with
  | nil => cases ha
  | cons b l ih =>
    simp only [List.foldlM_cons]
    cases hb : f s b with
    | none => rfl
    | some t =>
      rcases List.mem_cons.mp ha with rfl | ha
      · rw [h s] at hb; cases hb
      · exact ih ha t

/-- What every entry keeps, the loop keeps; and it does not give up if no entry does. -/
theorem foldlM_some {I : σ → Prop} {l : List α}
    (h : ∀ a ∈ l, ∀ s, I s → ∃ t, f s a = some t ∧ I t) {s : σ} (hs : I s) :
    ∃ t, l.foldlM f s = some t ∧ I t := by
  induction l generalizing s with
  | nil => exact ⟨s, rfl, hs⟩
  | cons a l ih =>
    obtain ⟨t, ht, hi⟩ := h a (by simp) s hs
    obtain ⟨u, hu, hi⟩ := ih (fun b hb => h b (by simp [hb])) hi
    exact ⟨u, by simp only [List.foldlM_cons, ht]; exact hu, hi⟩

/-- What every entry keeps holds when the loop has gone through. -/
theorem foldlM_keeps {I : σ → Prop} {l : List α}
    (h : ∀ a ∈ l, ∀ s t, f s a = some t → I s → I t) :
    ∀ {s t : σ}, l.foldlM f s = some t → I s → I t := by
  induction l with
  | nil => intro s t hl hs; cases hl; exact hs
  | cons a l ih =>
    intro s t hl hs
    rw [List.foldlM_cons] at hl
    obtain ⟨u, hu, hl⟩ := Option.bind_eq_some_iff.mp hl
    exact ih (fun b hb => h b (by simp [hb])) hl (h a (by simp) s u hu hs)

/-- One entry leads from `I` to `J`; the others keep both. -/
theorem foldlM_once {I J : σ → Prop} {l : List α} {a : α} (ha : a ∈ l) (hnodup : l.Nodup)
    (hI : ∀ b ∈ l, b ≠ a → ∀ s t, f s b = some t → I s → I t)
    (hJ : ∀ b ∈ l, b ≠ a → ∀ s t, f s b = some t → J s → J t)
    (hstep : ∀ s t, f s a = some t → I s → J t) {s t : σ} (hl : l.foldlM f s = some t)
    (hs : I s) : J t := by
  obtain ⟨l₁, l₂, rfl⟩ := List.append_of_mem ha
  rw [List.foldlM_append] at hl
  obtain ⟨u, hu, hl⟩ := Option.bind_eq_some_iff.mp hl
  rw [List.foldlM_cons] at hl
  obtain ⟨v, hv, hl⟩ := Option.bind_eq_some_iff.mp hl
  obtain ⟨-, hnodup, hdisj⟩ := List.nodup_append.mp hnodup
  have hfront : ∀ b ∈ l₁, b ≠ a := fun b hb e => hdisj b hb a (by simp) e
  have hback : ∀ b ∈ l₂, b ≠ a := fun b hb e => (List.nodup_cons.mp hnodup).1 (e ▸ hb)
  have hIu := foldlM_keeps (fun b hb => hI b (by simp [hb]) (hfront b hb)) hu hs
  exact foldlM_keeps (fun b hb => hJ b (by simp [hb]) (hback b hb)) hl (hstep u v hv hIu)

end

/-- The entry of one key leads from `I` to `J`, if the map has that key; those of other keys
keep both. -/
theorem Visit.run_key {V σ : Type} {m : Finmap fun _ : String => V} (v : Visit m)
    {f : σ → String × V → Option σ} {I : σ → Prop} {J : V → σ → Prop} (key : String)
    (hI : ∀ e ∈ v.entries, e.1 ≠ key → ∀ s t, f s e = some t → I s → I t)
    (hJ : ∀ x, ∀ e ∈ v.entries, e.1 ≠ key → ∀ s t, f s e = some t → J x s → J x t)
    (hstep : ∀ x s t, f s (key, x) = some t → I s → J x t) {s t : σ}
    (h : v.entries.foldlM f s = some t) (hs : I s) :
    match m.lookup key with
    | none => I t
    | some x => J x t := by
  cases hv : m.lookup key with
  | none =>
    refine foldlM_keeps (fun e he => hI e he fun hkey => ?_) h hs
    exact Finmap.lookup_eq_none.mp hv (hkey ▸ v.mem_of_entry he)
  | some x =>
    have hmem := v.mem_iff.mpr hv
    have hne : ∀ e ∈ v.entries, e ≠ (key, x) → e.1 ≠ key := by
      rintro ⟨k, y⟩ he hne rfl
      exact hne (by rw [v.eq_of_key_eq he hmem])
    exact foldlM_once hmem v.nodup (fun e he hdiff => hI e he (hne e he hdiff))
      (fun e he hdiff => hJ x e he (hne e he hdiff)) (hstep x) h hs

end Kurrent.Lib
