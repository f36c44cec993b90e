import Mathlib.Data.List.Forall2
import Mathlib.Order.Lattice
import Mathlib.Data.List.TakeWhile
import Mathlib.Tactic.Common

/-!
# Append-only logs and readers that resume

A `Log` holds entries under strictly increasing keys and only grows. A reader starts
somewhere (`From`) and is sent the entries pending from there, in order. `resume f d` is
where a reader goes on that started at `f` and has received `d`: after the last of them.
`pending_resume` is the law of resumption, that nothing is sent twice and nothing is left
out; `OnTrack` is the invariant of readers that come and go while one list of received
entries grows.
-/

namespace Kurrent.Lib

variable {α κ : Type} [LinearOrder κ] {key : α → κ}

structure Log (key : α → κ) where
  entries : List α
  sorted : entries.Pairwise fun a b => key a < key b

namespace Log

/-- Appending needs a key above all others. -/
def append (l : Log key) (e : α) : Option (Log key) :=
  if h : ∀ a ∈ l.entries, key a < key e then
    some ⟨l.entries ++ [e], List.pairwise_append.mpr
      ⟨l.sorted, List.pairwise_singleton _ _, fun a ha b hb => by
        rw [List.mem_singleton.mp hb]; exact h a ha⟩⟩
  else none

theorem append_entries {l l' : Log key} {e : α} (h : l.append e = some l') :
    l'.entries = l.entries ++ [e] := by
  unfold append at h
  split at h
  · cases h; rfl
  · cases h

end Log

/-- Where a reader starts: at the first entry, after a key, or behind the first `n` entries. -/
inductive From (κ : Type) where
  | start
  | after (k : κ)
  | tail (n : Nat)
  deriving DecidableEq, Repr

/-- The entries of the log that a reader from there is sent. -/
def From.pending (key : α → κ) : From κ → List α → List α
  | .start, l => l
  | .after k, l => l.filter fun e => k < key e
  | .tail n, l => l.drop n

/-- Where to go on after `d`. -/
def resume (key : α → κ) (f : From κ) (d : List α) : From κ :=
  match d.getLast? with
  | none => f
  | some e => .after (key e)

omit [LinearOrder κ] in
@[simp] theorem resume_nil (f : From κ) : resume key f [] = f := rfl

omit [LinearOrder κ] in
@[simp] theorem resume_concat (f : From κ) (d : List α) (e : α) :
    resume key f (d ++ [e]) = .after (key e) := by
  simp [resume]

theorem pending_append (f : From κ) (l more : List α) :
    f.pending key l <+: f.pending key (l ++ more) := by
  cases f with
  | start => exact List.prefix_append _ _
  | after k =>
    show l.filter _ <+: (l ++ more).filter _
    rw [List.filter_append]
    exact List.prefix_append _ _
  | tail n =>
    show l.drop n <+: (l ++ more).drop n
    rw [List.drop_append]
    exact List.prefix_append _ _

theorem pending_mono (f : From κ) {l l' : List α} (h : l <+: l') :
    f.pending key l <+: f.pending key l' := by
  obtain ⟨more, rfl⟩ := h
  exact pending_append f l more

/-- Entries that correspond, under the same keys, are pending together. -/
theorem pending_rel {β : Type} {R : α → β → Prop} {keyβ : β → κ} (hkey : ∀ a b, R a b → key a = keyβ b)
    (f : From κ) {l : List α} {l' : List β} (h : List.Forall₂ R l l') :
    List.Forall₂ R (f.pending key l) (f.pending keyβ l') := by
  cases f with
  | start => exact h
  | after k =>
    refine List.rel_filter (R := R) (fun a b hab => ?_) h
    simp only [hkey a b hab]
  | tail n => exact List.forall₂_drop n h

/-- In a sorted list the entries above one of them are those behind it. -/
theorem filter_above {pre post : List α} {e : α}
    (hs : (pre ++ e :: post).Pairwise fun a b => key a < key b) :
    (pre ++ e :: post).filter (fun a => key e < key a) = post := by
  obtain ⟨-, htail, hcross⟩ := List.pairwise_append.mp hs
  have hpre : pre.filter (fun a => key e < key a) = [] := by
    rw [List.filter_eq_nil_iff]
    intro a ha
    have := hcross a ha e List.mem_cons_self
    simpa using le_of_lt this
  have hpost : post.filter (fun a => key e < key a) = post := by
    rw [List.filter_eq_self]
    intro a ha
    simpa using (List.pairwise_cons.mp htail).1 a ha
  rw [List.filter_append, hpre, List.filter_cons_of_neg (by simp), hpost, List.nil_append]

/-- The last entry has the largest key. -/
theorem le_getLast {l : List α} {a : α} (hs : l.Pairwise fun a b => key a < key b) (ha : a ∈ l) :
    ∃ b, l.getLast? = some b ∧ key a ≤ key b := by
  rcases List.eq_nil_or_concat l with rfl | ⟨init, b, rfl⟩
  · cases ha
  · rw [List.concat_eq_append] at hs ha ⊢
    refine ⟨b, List.getLast?_concat, ?_⟩
    rcases List.mem_append.mp ha with ha | ha
    · exact le_of_lt ((List.pairwise_append.mp hs).2.2 a ha b (List.mem_singleton_self b))
    · rw [List.mem_singleton.mp ha]

/-- What is below an entry stands before it. -/
theorem mem_of_key_lt {pre post : List α} {a e : α}
    (hs : (pre ++ e :: post).Pairwise fun a b => key a < key b) (ha : a ∈ pre ++ e :: post)
    (hlt : key a < key e) : a ∈ pre := by
  rcases List.mem_append.mp ha with ha | ha
  · exact ha
  · obtain ⟨-, htail, -⟩ := List.pairwise_append.mp hs
    rcases List.mem_cons.mp ha with rfl | ha
    · exact absurd hlt (lt_irrefl _)
    · exact absurd hlt (not_lt_of_gt ((List.pairwise_cons.mp htail).1 a ha))

/-- Asking for what comes after a pending entry leaves the entries pending behind it. -/
theorem pending_after {f : From κ} {l pre post : List α} {e : α}
    (hs : l.Pairwise fun a b => key a < key b) (h : f.pending key l = pre ++ e :: post) :
    (From.after (key e)).pending key l = post := by
  show l.filter (fun a => key e < key a) = post
  cases f with
  | start =>
    have hl : l = pre ++ e :: post := h
    rw [hl] at hs ⊢
    exact filter_above hs
  | after k =>
    have hf : l.filter (fun a => k < key a) = pre ++ e :: post := h
    have he : k < key e := by
      have : e ∈ l.filter fun a => k < key a := by rw [hf]; simp
      simpa using (List.mem_filter.mp this).2
    have hcomp : l.filter (fun a => key e < key a) =
        (l.filter fun a => k < key a).filter fun a => key e < key a := by
      rw [List.filter_filter]
      refine List.filter_congr fun a _ => ?_
      by_cases ha : key e < key a
      · simp [ha, he.trans ha]
      · simp [ha]
    rw [hcomp, hf]
    refine filter_above ?_
    rw [← hf]
    exact hs.sublist List.filter_sublist
  | tail n =>
    have hl : l = (l.take n ++ pre) ++ e :: post := by
      have hd : l.drop n = pre ++ e :: post := h
      rw [List.append_assoc, ← hd, List.take_append_drop]
    rw [hl] at hs ⊢
    exact filter_above hs

/-- **Resumption**: from where `d` ends, what is pending is what was pending behind `d`. -/
theorem pending_resume {f : From κ} {l d : List α} (hs : l.Pairwise fun a b => key a < key b)
    (hd : d <+: f.pending key l) :
    (resume key f d).pending key l = (f.pending key l).drop d.length := by
  rcases List.eq_nil_or_concat d with rfl | ⟨pre, e, rfl⟩
  · simp
  · obtain ⟨post, hpost⟩ := hd
    have hcons : f.pending key l = pre ++ e :: post := by
      rw [← hpost]; simp
    rw [List.concat_eq_append, resume_concat, pending_after hs hcons, hcons]
    simp

/-- A reader at the server: where it started and how many entries it has been sent. -/
structure Reader (κ : Type) where
  origin : From κ
  sent : Nat := 0
  deriving DecidableEq, Repr

def Reader.next (key : α → κ) (r : Reader κ) (l : List α) : Option α :=
  (r.origin.pending key l)[r.sent]?

/-- The reader goes on after some part of `d`, and has been sent the rest of it. -/
def OnTrack (key : α → κ) (f : From κ) (d : List α) (r : Reader κ) : Prop :=
  ∃ pre suf, d = pre ++ suf ∧ r.origin = resume key f pre ∧ r.sent = suf.length

omit [LinearOrder κ] in
theorem OnTrack.fresh (f : From κ) (d : List α) : OnTrack key f d ⟨resume key f d, 0⟩ :=
  ⟨d, [], (List.append_nil d).symm, rfl, rfl⟩

omit [LinearOrder κ] in
theorem OnTrack.sent {f : From κ} {d : List α} {r : Reader κ} (h : OnTrack key f d r) (e : α) :
    OnTrack key f (d ++ [e]) { r with sent := r.sent + 1 } := by
  obtain ⟨pre, suf, rfl, ho, hn⟩ := h
  exact ⟨pre, suf ++ [e], by simp, ho, by simp [hn]⟩

/-- **A reader on track is sent the next pending entry.** -/
theorem OnTrack.next {f : From κ} {d l : List α} {r : Reader κ} {e : α}
    (hs : l.Pairwise fun a b => key a < key b) (hd : d <+: f.pending key l)
    (h : OnTrack key f d r) (hn : r.next key l = some e) : d ++ [e] <+: f.pending key l := by
  obtain ⟨pre, suf, rfl, ho, hsent⟩ := h
  have hpre : pre <+: f.pending key l := (List.prefix_append _ _).trans hd
  unfold Reader.next at hn
  rw [ho, hsent, pending_resume hs hpre, List.getElem?_drop, ← List.length_append] at hn
  obtain ⟨rest, hrest⟩ := hd
  rw [← hrest, List.getElem?_append_right (Nat.le_refl _), Nat.sub_self] at hn
  cases rest with
  | nil => cases hn
  | cons e' rest =>
    cases hn
    exact ⟨rest, by rw [← hrest]; simp⟩

end Kurrent.Lib
