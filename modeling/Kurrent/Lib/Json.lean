import Mathlib.Data.Finmap

/-!
# JSON trees and derived decoders

A JSON text as a tree: an object is the list of its entries as they are written, so that a
repeated name stays visible. Numbers are what a decoder is shown of them, an unsigned
integer, a negative one or a float (by its value). `field`, `fieldOr` and `optField` are
the derived decoder of one named field of a record: a name that is repeated is refused,
and one that is absent is refused, replaced or `none`. A hash map is a `Finmap`; `collect`
builds one from entries, of which the last with a key counts.
-/

namespace Kurrent.Lib

inductive Number where
  | posInt (n : UInt64)
  /-- the number `-(n + 1)` -/
  | negSucc (n : Fin (2 ^ 63))
  | float (value : Rat)
  deriving DecidableEq

inductive Json where
  | null
  | bool (b : Bool)
  | number (n : Number)
  | string (s : String)
  | array (items : List Json)
  | object (entries : List (String × Json))

/-- Why a decoder refuses a tree. -/
inductive DeError where
  | invalidType (expected : String)
  | invalidValue (unexpected expected : String)
  | outOfRange (expected : String)
  | missingField (name : String)
  | duplicateField (name : String)
  | unknownVariant (name : String)
  | custom (message : String)
  deriving DecidableEq, Repr

namespace Json

/-- A decoder of `A`. -/
abbrev Decoder (A : Type) := Json → Except DeError A

def ofUInt64 (n : UInt64) : Json := .number (.posInt n)

/-- The number a signed 64-bit integer is written as. -/
def ofInt64 (v : Int64) : Json :=
  if h : v.toInt < 0 then
    .number (.negSucc ⟨(-v.toInt - 1).toNat, by have := Int64.le_toInt v; omega⟩)
  else .number (.posInt (UInt64.ofNat v.toInt.toNat))

/-- The entry of a field that is left out of the text when it is `none`. -/
def optEntry {A : Type} (name : String) (encode : A → Json) : Option A → List (String × Json)
  | none => []
  | some a => [(name, encode a)]

/-- The values an object gives one name. -/
def values (name : String) (entries : List (String × Json)) : List Json :=
  (entries.filter fun e => e.1 = name).map Prod.snd

/-- A field that may be absent; a decoder of its own says what `null` is. -/
def optField {A : Type} (decode : Decoder A) (name : String) (entries : List (String × Json)) :
    Except DeError (Option A) :=
  match values name entries with
  | [] => .ok none
  | [v] => (decode v).map some
  | _ :: _ :: _ => .error (.duplicateField name)

def field {A : Type} (decode : Decoder A) (name : String) (entries : List (String × Json)) :
    Except DeError A :=
  match optField decode name entries with
  | .ok (some a) => .ok a
  | .ok none => .error (.missingField name)
  | .error e => .error e

def fieldOr {A : Type} (default : A) (decode : Decoder A) (name : String)
    (entries : List (String × Json)) : Except DeError A :=
  (optField decode name entries).map fun a => a.getD default

/-! ## What was written under a name -/

theorem values_append (name : String) (es fs : List (String × Json)) :
    values name (es ++ fs) = values name es ++ values name fs := by
  simp [values]

theorem values_optEntry_self {A : Type} (name : String) (encode : A → Json) (o : Option A) :
    values name (optEntry name encode o) = (o.map encode).toList := by
  cases o <;> simp [values, optEntry]

theorem values_optEntry_ne {A : Type} {name other : String} (h : other ≠ name)
    (encode : A → Json) (o : Option A) : values name (optEntry other encode o) = [] := by
  cases o <;> simp [values, optEntry, h]

theorem values_eq_nil {name : String} {es : List (String × Json)} (h : ∀ e ∈ es, e.1 ≠ name) :
    values name es = [] := by
  simpa [values, List.filter_eq_nil_iff] using h

theorem optField_none {A : Type} {decode : Decoder A} {name : String}
    {es : List (String × Json)} (h : values name es = []) :
    optField decode name es = .ok none := by
  unfold optField; rw [h]

theorem optField_some {A : Type} {decode : Decoder A} {name : String}
    {es : List (String × Json)} {j : Json} (h : values name es = [j]) :
    optField decode name es = (decode j).map some := by
  unfold optField; rw [h]

/-- `es'` is `es` and, anywhere among its entries, a `null` for each of the names. -/
structure NullsAdded (names : List String) (es es' : List (String × Json)) : Prop where
  rest : (es'.filter fun e => e.1 ∉ names) = es
  null : ∀ name ∈ names, values name es' = [.null]

theorem values_of_notAdded {names : List String} {es es' : List (String × Json)} {name : String}
    (h : NullsAdded names es es') (hn : name ∉ names) : values name es' = values name es := by
  rw [← h.rest]
  unfold values
  rw [List.filter_filter]
  congr 1
  refine List.filter_congr fun e _ => ?_
  by_cases he : e.1 = name
  · simp [he, hn]
  · simp [he]

theorem values_of_added {names : List String} {es es' : List (String × Json)} {name : String}
    (h : NullsAdded names es es') (hn : name ∈ names) : values name es = [] := by
  refine values_eq_nil fun e he hname => ?_
  rw [← h.rest] at he
  exact of_decide_eq_true (List.mem_filter.mp he).2 (hname ▸ hn)

end Json

/-! ## Hash maps -/

section

variable {V : Type}

/-- The map of a list of entries, inserted one after the other. -/
def collect (es : List (String × V)) : Finmap fun _ : String => V :=
  es.foldl (fun m e => m.insert e.1 e.2) ∅

/-- An order in which the entries of a map may be visited. -/
def Visit (m : Finmap fun _ : String => V) : Type :=
  { l : AList fun _ : String => V // l.toFinmap = m }

def Visit.entries {m : Finmap fun _ : String => V} (v : Visit m) : List (String × V) :=
  v.1.entries.map fun e => (e.1, e.2)

theorem mem_foldl_insert {k : String} {es : List (String × V)}
    {m : Finmap fun _ : String => V} :
    k ∈ es.foldl (fun m e => m.insert e.1 e.2) m ↔ k ∈ es.map Prod.fst ∨ k ∈ m := by
  induction es generalizing m with
  | nil => simp
  | cons e es ih => simp [ih, Finmap.mem_insert]; tauto

theorem mem_collect {k : String} {es : List (String × V)} :
    k ∈ collect es ↔ k ∈ es.map Prod.fst := by
  rw [collect, mem_foldl_insert]
  simp [Finmap.notMem_empty]

/-- Entries with distinct keys are all found again. -/
theorem lookup_foldl_insert {k : String} {l : List (Sigma fun _ : String => V)}
    (hl : l.NodupKeys) {m : Finmap fun _ : String => V} :
    ((l.map fun e => (e.1, e.2)).foldl (fun m e => m.insert e.1 e.2) m).lookup k =
      (l.dlookup k).or (m.lookup k) := by
  induction l generalizing m with
  | nil => simp
  | cons e l ih =>
    obtain ⟨k', v⟩ := e
    obtain ⟨hk, hl⟩ := List.nodupKeys_cons.mp hl
    simp only [List.map_cons, List.foldl_cons, ih hl]
    by_cases h : k = k'
    · subst h
      rw [List.dlookup_cons_eq, Finmap.lookup_insert, List.dlookup_eq_none.mpr hk]
      rfl
    · rw [List.dlookup_cons_ne _ _ h, Finmap.lookup_insert_of_ne _ h]

theorem collect_entries {m : Finmap fun _ : String => V} (v : Visit m) :
    collect v.entries = m := by
  obtain ⟨l, rfl⟩ := v
  refine Finmap.ext_lookup fun k => ?_
  unfold collect Visit.entries
  rw [lookup_foldl_insert l.nodupKeys, Finmap.lookup_empty, Option.or_none]
  rfl

theorem mem_entries {m : Finmap fun _ : String => V} (v : Visit m) {k : String} :
    k ∈ v.entries.map Prod.fst ↔ k ∈ m := by
  rw [← mem_collect, collect_entries]

end

end Kurrent.Lib
