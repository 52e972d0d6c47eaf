import Mathlib.Data.String.Basic
import OrgCli.Support.SortedMap

/-!
# `OrgCli.Json`: the JSON values the program builds and reads

`Json` is `serde_json::Value`. Its map is a `BTreeMap<String, Value>`, because the
`preserve_order` feature is off (`Cargo.lock` has no `indexmap`). `Map` is that map, a
`SortedMap` with string keys. Lean compares strings by code point and Rust by UTF-8 byte,
and the two orders are the same.

A `Json.obj` node holds raw entries, because a type cannot be nested under its own
invariant. `Json.object` is the way the program builds objects: it takes a `Map`, whose
keys are sorted. A value from outside may be any tree, and every theorem about one covers
the sorted trees too.

`json!({..})` is `Json.object (Map.ofList [..])`, and `value["key"] = v` on an object is
`Map.insert`. `Value::get`, `as_str`, `as_i64`, `as_array` and `as_bool` are the accessors
below. On a value of the wrong kind each of them is `none`, as in the source.
-/

set_option autoImplicit false

namespace OrgCli

open OrgCli.Support

/-- `serde_json::Number`: an unsigned integer, a negative integer, or a float. A float is
its bit pattern, since the program never computes with one. -/
inductive Number where
  | posInt (n : UInt64)
  | negInt (n : Int64)
  | float (bits : UInt64)
  deriving DecidableEq

/-- `Number::as_i64`: an integer in the signed 64-bit range. -/
def Number.asI64 : Number → Option Int64
  | .posInt n => if n.toNat < 2 ^ 63 then some n.toInt64 else none
  | .negInt n => some n
  | .float _ => none

/-- The number of a signed 64-bit integer: unsigned when it is not negative. -/
def Number.ofI64 (n : Int64) : Number :=
  if 0 ≤ n then .posInt n.toUInt64 else .negInt n

/-- `serde_json::Value`. -/
inductive Json where
  | null
  | bool (b : Bool)
  | number (n : Number)
  | string (s : String)
  | array (items : List Json)
  | obj (entries : List (String × Json))

/-- `serde_json::Map<String, Value>`. -/
abbrev Map := SortedMap String Json

namespace Json

mutual

/-- Equality of values is decidable. -/
def decEq : (a b : Json) → Decidable (a = b)
  | .null, .null => isTrue rfl
  | .bool a, .bool b => decidable_of_iff (a = b) (by simp)
  | .number a, .number b => decidable_of_iff (a = b) (by simp)
  | .string a, .string b => decidable_of_iff (a = b) (by simp)
  | .array a, .array b =>
      have := decEqItems a b
      decidable_of_iff (a = b) (by simp)
  | .obj a, .obj b =>
      have := decEqEntries a b
      decidable_of_iff (a = b) (by simp)
  -- Values of different kinds.
  | .null, .bool _ | .null, .number _ | .null, .string _ | .null, .array _ | .null, .obj _
  | .bool _, .null | .bool _, .number _ | .bool _, .string _ | .bool _, .array _
  | .bool _, .obj _ | .number _, .null | .number _, .bool _ | .number _, .string _
  | .number _, .array _ | .number _, .obj _ | .string _, .null | .string _, .bool _
  | .string _, .number _ | .string _, .array _ | .string _, .obj _ | .array _, .null
  | .array _, .bool _ | .array _, .number _ | .array _, .string _ | .array _, .obj _
  | .obj _, .null | .obj _, .bool _ | .obj _, .number _ | .obj _, .string _
  | .obj _, .array _ => isFalse (by simp)

/-- Equality of array items is decidable. -/
def decEqItems : (as bs : List Json) → Decidable (as = bs)
  | [], [] => isTrue rfl
  | a :: as, b :: bs =>
      have := decEq a b
      have := decEqItems as bs
      decidable_of_iff (a = b ∧ as = bs) (by simp)
  | [], _ :: _ | _ :: _, [] => isFalse (by simp)

/-- Equality of object entries is decidable. -/
def decEqEntries : (as bs : List (String × Json)) → Decidable (as = bs)
  | [], [] => isTrue rfl
  | (k, a) :: as, (k', b) :: bs =>
      have := decEq a b
      have := decEqEntries as bs
      decidable_of_iff (k = k' ∧ a = b ∧ as = bs) (by simp [and_assoc])
  | [], _ :: _ | _ :: _, [] => isFalse (by simp)

end

instance : DecidableEq Json := decEq

/-- A JSON object of a map. -/
def object (m : Map) : Json := .obj m.entries

/-- `json!(n)` for an unsigned 64-bit integer. -/
def ofU64 (n : UInt64) : Json := .number (.posInt n)

/-- `json!(n)` for a signed 64-bit integer. -/
def ofI64 (n : Int64) : Json := .number (.ofI64 n)

/-- `json!(strings)` for a list of strings. -/
def strings (ss : List String) : Json := .array (ss.map .string)

/-- `Value::get` with a string index: a member of an object. -/
def get? (j : Json) (key : String) : Option Json :=
  match j with
  | .obj entries => lookup key entries
  | _ => none

/-- `Value::as_str`. -/
def asStr : Json → Option String
  | .string s => some s
  | _ => none

/-- `Value::as_bool`. -/
def asBool : Json → Option Bool
  | .bool b => some b
  | _ => none

/-- `Value::as_i64`. -/
def asI64 : Json → Option Int64
  | .number n => n.asI64
  | _ => none

/-- `Value::as_array`. -/
def asArray : Json → Option (List Json)
  | .array items => some items
  | _ => none

@[simp] theorem get?_object (m : Map) (key : String) : (object m).get? key = m.get? key := rfl

@[simp] theorem asStr_string (s : String) : (string s).asStr = some s := rfl

/-- An optional string reads back. -/
@[simp] theorem bind_asStr_map (o : Option String) : (o.map string).bind asStr = o := by
  cases o <;> rfl

@[simp] theorem asArray_array (items : List Json) : (array items).asArray = some items := rfl

@[simp] theorem asBool_bool (b : Bool) : (bool b).asBool = some b := rfl

/-- Two objects are equal exactly when their maps are. -/
@[simp] theorem object_inj {m n : Map} : object m = object n ↔ m = n := by
  constructor
  · intro h
    obtain ⟨es, hes⟩ := m
    obtain ⟨fs, hfs⟩ := n
    cases h
    rfl
  · intro h
    rw [h]

/-- Two lists of strings are equal exactly when their JSON arrays are. -/
@[simp] theorem strings_inj {ss ts : List String} : strings ss = strings ts ↔ ss = ts := by
  unfold strings
  rw [Json.array.injEq]
  exact (List.map_injective_iff.mpr fun _ _ h => Json.string.inj h).eq_iff

/-- The number of a signed integer reads back as that integer. -/
theorem asI64_ofI64 (n : Int64) : (ofI64 n).asI64 = some n := by
  unfold ofI64 asI64 Number.ofI64
  by_cases h : 0 ≤ n
  · -- A number that is not negative is stored unsigned, below `2 ^ 63`.
    rw [if_pos h]
    have hn : n.toUInt64.toNat < 2 ^ 63 := by
      rw [Int64.toNat_toUInt64_of_le h]
      have hlt := n.toInt_lt
      show n.toInt.toNat < 2 ^ 63
      omega
    show (if n.toUInt64.toNat < 2 ^ 63 then some n.toUInt64.toInt64 else none) = some n
    rw [if_pos hn, Int64.toInt64_toUInt64]
  · rw [if_neg h]
    rfl

end Json

end OrgCli
