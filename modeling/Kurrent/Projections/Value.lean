import Kurrent.Lib.Loop
import Kurrent.Lib.SortedMap

/-!
# Projection states and results

`parse_value` (`projection_client.rs`) turns the protobuf value a server returns for a
projection into JSON. The source keeps its own stack: half-read lists and structs with what
has been converted of them, and one register for the value converted last. `Value.toJson`
is the conversion by recursion; the loop comes to the same, and its two checks on the
register never fail.
-/

namespace Kurrent

open Lib

/-- A double, as its bits. -/
structure F64 where
  bits : BitVec 64
  deriving DecidableEq, Repr

/-- The exponent of an infinity or of a NaN is all ones. -/
def F64.isFinite (f : F64) : Bool := f.bits.extractLsb' 52 11 != BitVec.allOnes 11

/-- `prost_types::Value`; `unset` has no kind. A struct has its fields in the order of a
`BTreeMap`. -/
inductive Value where
  | unset
  | nullValue
  | numberValue (value : F64)
  | stringValue (value : String)
  | boolValue (value : Bool)
  | structValue (fields : List (String × Value))
  | listValue (values : List Value)

/-- `serde_json::Value`, with an object's entries in the order of a `BTreeMap`. -/
inductive JsonValue where
  | null
  | bool (b : Bool)
  | number (f : F64)
  | string (s : String)
  | array (items : List JsonValue)
  | object (entries : List (String × JsonValue))

/-! ## The loop -/

/-- `serde_json::Number::from_f64` -/
def fromF64 (f : F64) : Option JsonValue := if f.isFinite then some (.number f) else none

inductive Stack where
  | list (iter : List Value) (acc : List JsonValue)
  | map (iter : List (String × Value)) (scope : String) (acc : List (String × JsonValue))
  | value (v : JsonValue)
  | proto (v : Value)

structure Parsing where
  stack : List Stack
  param : Option JsonValue

def popList (stack : List Stack) (iter : List Value) (acc : List JsonValue) :
    Option JsonValue → Flow Parsing (Call JsonValue)
  | none => .done (.panic "to be defined")
  | some value =>
    let acc := acc ++ [value]
    match iter with
    | value :: iter => .again ⟨.proto value :: .list iter acc :: stack, none⟩
    | [] => .again ⟨.value (.array acc) :: stack, none⟩

def popMap (stack : List Stack) (iter : List (String × Value)) (scope : String)
    (acc : List (String × JsonValue)) : Option JsonValue → Flow Parsing (Call JsonValue)
  | none => .done (.panic "to be defined")
  | some value =>
    let acc := insertEntry scope value acc
    match iter with
    | (scope, value) :: iter => .again ⟨.proto value :: .map iter scope acc :: stack, none⟩
    | [] => .again ⟨.value (.object acc) :: stack, none⟩

def popProto (stack : List Stack) (param : Option JsonValue) : Value → Flow Parsing (Call JsonValue)
  | .unset => .again ⟨.value .null :: stack, param⟩
  | .nullValue => .again ⟨.value .null :: stack, param⟩
  | .numberValue value =>
    match fromF64 value with
    | some number => .again ⟨.value number :: stack, param⟩
    | none => .done (.panic "to be valid")
  | .stringValue value => .again ⟨.value (.string value) :: stack, param⟩
  | .boolValue value => .again ⟨.value (.bool value) :: stack, param⟩
  | .structValue ((key, value) :: iter) =>
    .again ⟨.proto value :: .map iter key [] :: stack, param⟩
  | .structValue [] => .again ⟨.value (.object []) :: stack, param⟩
  | .listValue (value :: iter) => .again ⟨.proto value :: .list iter [] :: stack, param⟩
  | .listValue [] => .again ⟨.value (.array []) :: stack, param⟩

def parseBody (s : Parsing) : Flow Parsing (Call JsonValue) :=
  match s.stack with
  | [] => .done (Call.expect "not empty" s.param)
  | .value value :: stack => .again ⟨stack, some value⟩
  | .map iter scope acc :: stack => popMap stack iter scope acc s.param
  | .list iter acc :: stack => popList stack iter acc s.param
  | .proto value :: stack => popProto stack s.param value

/-! ## It ends -/

mutual

/-- More than the passes a value takes. -/
def Value.weight : Value → Nat
  | .structValue fields => fieldsWeight fields + 3
  | .listValue values => valuesWeight values + 3
  | .unset | .nullValue | .numberValue _ | .stringValue _ | .boolValue _ => 2

def valuesWeight : List Value → Nat
  | [] => 0
  | v :: vs => v.weight + 1 + valuesWeight vs

def fieldsWeight : List (String × Value) → Nat
  | [] => 0
  | e :: es => fieldWeight e + 1 + fieldsWeight es

def fieldWeight : String × Value → Nat
  | (_, v) => v.weight

end

def Stack.weight : Stack → Nat
  | .list iter _ => valuesWeight iter + 2
  | .map iter _ _ => fieldsWeight iter + 2
  | .value _ => 1
  | .proto v => v.weight

def stackWeight : List Stack → Nat
  | [] => 0
  | f :: stack => f.weight + stackWeight stack

def Parsing.measure (s : Parsing) : Nat := stackWeight s.stack

@[simp] theorem measure_cons (f : Stack) (stack : List Stack) (param : Option JsonValue) :
    Parsing.measure ⟨f :: stack, param⟩ = f.weight + Parsing.measure ⟨stack, param⟩ := rfl

theorem fieldWeight_eq (e : String × Value) : fieldWeight e = e.2.weight := by
  obtain ⟨k, v⟩ := e
  rfl

/-- The register does not count. -/
theorem measure_param (stack : List Stack) (param param' : Option JsonValue) :
    Parsing.measure ⟨stack, param⟩ = Parsing.measure ⟨stack, param'⟩ := rfl

theorem popList_decreases {stack : List Stack} {iter : List Value} {acc : List JsonValue}
    {param : Option JsonValue} {s' : Parsing} (h : popList stack iter acc param = .again s') :
    s'.measure < Parsing.measure ⟨.list iter acc :: stack, param⟩ := by
  have hp := measure_param stack none param
  unfold popList at h
  cases param with
  | none => cases h
  | some value =>
    cases iter <;> cases h <;>
      simp only [measure_cons, Stack.weight, valuesWeight] at * <;> omega

theorem popMap_decreases {stack : List Stack} {iter : List (String × Value)} {scope : String}
    {acc : List (String × JsonValue)} {param : Option JsonValue} {s' : Parsing}
    (h : popMap stack iter scope acc param = .again s') :
    s'.measure < Parsing.measure ⟨.map iter scope acc :: stack, param⟩ := by
  have hp := measure_param stack none param
  unfold popMap at h
  cases param with
  | none => cases h
  | some value =>
    cases iter <;> cases h <;>
      simp only [measure_cons, Stack.weight, fieldsWeight, fieldWeight_eq] at * <;> omega

theorem popProto_decreases {stack : List Stack} {param : Option JsonValue} {v : Value}
    {s' : Parsing} (h : popProto stack param v = .again s') :
    s'.measure < Parsing.measure ⟨.proto v :: stack, param⟩ := by
  cases v with
  | unset | nullValue | stringValue | boolValue =>
    cases h
    simp only [measure_cons, Stack.weight, Value.weight]
    omega
  | numberValue f =>
    unfold popProto at h
    cases hf : fromF64 f with
    | none => simp only [hf] at h; cases h
    | some number =>
      simp only [hf] at h
      cases h
      simp only [measure_cons, Stack.weight, Value.weight]
      omega
  | structValue fields =>
    cases fields <;> cases h <;>
      simp only [measure_cons, Stack.weight, Value.weight, fieldsWeight, fieldWeight_eq] <;> omega
  | listValue values =>
    cases values <;> cases h <;>
      simp only [measure_cons, Stack.weight, Value.weight, valuesWeight] <;> omega

theorem parseBody_decreases (s s' : Parsing) (h : parseBody s = .again s') :
    s'.measure < s.measure := by
  obtain ⟨stack, param⟩ := s
  cases stack with
  | nil => cases h
  | cons f stack =>
    cases f with
    | list iter acc => exact popList_decreases h
    | map iter scope acc => exact popMap_decreases h
    | proto v => exact popProto_decreases h
    | value v =>
      cases h
      rw [measure_cons, measure_param stack (some v) param]
      simp [Stack.weight]

def parseLoop : Loop Parsing (Call JsonValue) where
  body := parseBody
  measure := Parsing.measure
  decreases := parseBody_decreases

def parseValue (value : Value) : Call JsonValue := parseLoop.run ⟨[.proto value], none⟩

/-! ## The conversion by recursion -/

mutual

def Value.toJson : Value → JsonValue
  | .unset => .null
  | .nullValue => .null
  | .numberValue f => .number f
  | .stringValue s => .string s
  | .boolValue b => .bool b
  | .structValue fields => .object ((toEntries fields).foldl (fun m e => insertEntry e.1 e.2 m) [])
  | .listValue values => .array (toItems values)

def toItems : List Value → List JsonValue
  | [] => []
  | v :: vs => v.toJson :: toItems vs

def toEntries : List (String × Value) → List (String × JsonValue)
  | [] => []
  | e :: es => toEntry e :: toEntries es

def toEntry : String × Value → String × JsonValue
  | (k, v) => (k, v.toJson)

end

mutual

/-- Every number in the tree is finite. -/
def Value.finite : Value → Bool
  | .numberValue f => f.isFinite
  | .structValue fields => finiteFields fields
  | .listValue values => finiteValues values
  | .unset | .nullValue | .stringValue _ | .boolValue _ => true

def finiteValues : List Value → Bool
  | [] => true
  | v :: vs => v.finite && finiteValues vs

def finiteFields : List (String × Value) → Bool
  | [] => true
  | e :: es => finiteField e && finiteFields es

def finiteField : String × Value → Bool
  | (_, v) => v.finite

end

theorem toItems_eq (vs : List Value) : toItems vs = vs.map Value.toJson := by
  induction vs with
  | nil => rfl
  | cons v vs ih => rw [toItems, ih]; rfl

theorem toEntries_eq (es : List (String × Value)) :
    toEntries es = es.map fun e => (e.1, e.2.toJson) := by
  induction es with
  | nil => rfl
  | cons e es ih =>
    obtain ⟨k, v⟩ := e
    rw [toEntries, ih]
    rfl

/-- A struct becomes an object with the same keys, in the same order. -/
theorem toJson_structValue {fields : List (String × Value)} (h : Ascending fields) :
    Value.toJson (.structValue fields) = .object (fields.map fun e => (e.1, e.2.toJson)) := by
  have ha : Ascending (fields.map fun e => (e.1, e.2.toJson)) := List.pairwise_map.mpr h
  rw [Value.toJson, toEntries_eq, foldl_insertEntry (by simpa using ha), List.nil_append]

/-! ## The loop is the recursion -/

theorem run_value (stack : List Stack) (param : Option JsonValue) (v : JsonValue) :
    parseLoop.run ⟨.value v :: stack, param⟩ = parseLoop.run ⟨stack, some v⟩ :=
  Loop.run_of_again (L := parseLoop) rfl

/-- What the loop makes of a value on top of a stack: the converted value in the register,
or a panic at a number. -/
def Converts (v : Value) : Prop :=
  ∀ stack, parseLoop.run ⟨.proto v :: stack, none⟩ =
    if v.finite then parseLoop.run ⟨stack, some v.toJson⟩ else .panic "to be valid"

/-- A half-read list, when its values convert: the rest is appended to what there is. -/
theorem run_list {iter : List Value} (h : ∀ v ∈ iter, Converts v) (stack : List Stack) :
    ∀ (acc : List JsonValue) (value : JsonValue),
      parseLoop.run ⟨.list iter acc :: stack, some value⟩ =
        if finiteValues iter then
          parseLoop.run ⟨stack, some (.array (acc ++ value :: toItems iter))⟩
        else .panic "to be valid" := by
  induction iter with
  | nil =>
    intro acc value
    rw [Loop.run_of_again (L := parseLoop) rfl, run_value]
    rfl
  | cons v iter ih =>
    intro acc value
    rw [Loop.run_of_again (L := parseLoop) rfl, h v (by simp)]
    cases hv : v.finite with
    | false => simp [finiteValues, hv]
    | true =>
      rw [if_pos rfl, ih fun w hw => h w (by simp [hw])]
      simp [finiteValues, hv, toItems]

/-- A half-read struct likewise: the rest is inserted into what there is. -/
theorem run_map {iter : List (String × Value)} (h : ∀ e ∈ iter, Converts e.2)
    (stack : List Stack) :
    ∀ (scope : String) (acc : List (String × JsonValue)) (value : JsonValue),
      parseLoop.run ⟨.map iter scope acc :: stack, some value⟩ =
        if finiteFields iter then
          parseLoop.run ⟨stack, some (.object ((toEntries iter).foldl
            (fun m e => insertEntry e.1 e.2 m) (insertEntry scope value acc)))⟩
        else .panic "to be valid" := by
  induction iter with
  | nil =>
    intro scope acc value
    rw [Loop.run_of_again (L := parseLoop) rfl, run_value]
    rfl
  | cons e iter ih =>
    obtain ⟨key, v⟩ := e
    intro scope acc value
    rw [Loop.run_of_again (L := parseLoop) rfl, h (key, v) (by simp)]
    cases hv : v.finite with
    | false => simp [finiteFields, finiteField, hv]
    | true =>
      rw [if_pos rfl, ih fun w hw => h w (by simp [hw])]
      simp [finiteFields, finiteField, hv, toEntries, toEntry]

theorem converts_listValue {values : List Value} (h : ∀ v ∈ values, Converts v) :
    Converts (.listValue values) := by
  intro stack
  cases values with
  | nil =>
    rw [Loop.run_of_again (L := parseLoop) rfl, run_value]
    rfl
  | cons v iter =>
    rw [Loop.run_of_again (L := parseLoop) rfl, h v (by simp)]
    cases hv : v.finite with
    | false => simp [Value.finite, finiteValues, hv]
    | true =>
      rw [if_pos rfl, run_list fun w hw => h w (by simp [hw])]
      simp [Value.finite, finiteValues, hv, Value.toJson, toItems]

theorem converts_structValue {fields : List (String × Value)} (h : ∀ e ∈ fields, Converts e.2) :
    Converts (.structValue fields) := by
  intro stack
  cases fields with
  | nil =>
    rw [Loop.run_of_again (L := parseLoop) rfl, run_value]
    rfl
  | cons e iter =>
    obtain ⟨key, v⟩ := e
    rw [Loop.run_of_again (L := parseLoop) rfl, h (key, v) (by simp)]
    cases hv : v.finite with
    | false => simp [Value.finite, finiteFields, finiteField, hv]
    | true =>
      rw [if_pos rfl, run_map fun w hw => h w (by simp [hw])]
      simp [Value.finite, finiteFields, finiteField, hv, Value.toJson, toEntries, toEntry]

theorem converts_numberValue (f : F64) : Converts (.numberValue f) := by
  intro stack
  cases hf : f.isFinite with
  | true =>
    have hb : parseLoop.body ⟨.proto (.numberValue f) :: stack, none⟩ =
        .again ⟨.value (.number f) :: stack, none⟩ := by
      show popProto stack none (.numberValue f) = _
      simp [popProto, fromF64, hf]
    rw [Loop.run_of_again hb, run_value]
    simp [Value.finite, Value.toJson, hf]
  | false =>
    have hb : parseLoop.body ⟨.proto (.numberValue f) :: stack, none⟩ =
        .done (.panic "to be valid") := by
      show popProto stack none (.numberValue f) = _
      simp [popProto, fromF64, hf]
    rw [Loop.run_of_done hb]
    simp [Value.finite, hf]

mutual

/-- **Every value converts**, whatever lies below it on the stack. -/
theorem converts : ∀ v : Value, Converts v
  | .unset => fun stack => by rw [Loop.run_of_again (L := parseLoop) rfl, run_value]; rfl
  | .nullValue => fun stack => by rw [Loop.run_of_again (L := parseLoop) rfl, run_value]; rfl
  | .stringValue _ => fun stack => by rw [Loop.run_of_again (L := parseLoop) rfl, run_value]; rfl
  | .boolValue _ => fun stack => by rw [Loop.run_of_again (L := parseLoop) rfl, run_value]; rfl
  | .numberValue f => converts_numberValue f
  | .structValue fields => converts_structValue (converts_fields fields)
  | .listValue values => converts_listValue (converts_values values)

theorem converts_values : ∀ vs : List Value, ∀ v ∈ vs, Converts v
  | [] => by simp
  | v :: vs => List.forall_mem_cons.mpr ⟨converts v, converts_values vs⟩

theorem converts_fields : ∀ es : List (String × Value), ∀ e ∈ es, Converts e.2
  | [] => by simp
  | e :: es => List.forall_mem_cons.mpr ⟨converts_field e, converts_fields es⟩

theorem converts_field : ∀ e : String × Value, Converts e.2
  | (_, v) => converts v

end

theorem parseValue_eq (v : Value) :
    parseValue v = if v.finite then .ret v.toJson else .panic "to be valid" := by
  unfold parseValue
  rw [converts v []]
  cases v.finite with
  | false => rfl
  | true => exact Loop.run_of_done (L := parseLoop) rfl

/-- **The loop is the recursion**: the converted value when every number is finite, else a
panic at a number and at no other place. Lists keep their order and structs their keys. -/
theorem parse_value_recursive (v : Value) :
    (v.finite = true ∧ parseValue v = .ret v.toJson ∨
      v.finite = false ∧ parseValue v = .panic "to be valid") ∧
    parseValue v ≠ .panic "to be defined" ∧ parseValue v ≠ .panic "not empty" ∧
    (∀ values, Value.toJson (.listValue values) = .array (values.map Value.toJson)) ∧
    ∀ fields, Ascending fields →
      Value.toJson (.structValue fields) = .object (fields.map fun e => (e.1, e.2.toJson)) := by
  have hlist : ∀ values, Value.toJson (.listValue values) = .array (values.map Value.toJson) := by
    intro values
    rw [Value.toJson, toItems_eq]
  rw [parseValue_eq v]
  cases v.finite with
  | true =>
    refine ⟨.inl ⟨rfl, rfl⟩, ?_, ?_, hlist, fun _ => toJson_structValue⟩
    · simp
    · simp
  | false =>
    refine ⟨.inr ⟨rfl, rfl⟩, ?_, ?_, hlist, fun _ => toJson_structValue⟩
    · simp
    · simp

end Kurrent
