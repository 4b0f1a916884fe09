/-
  `serde_json::Value`, as far as the sync code looks into it.

  A changeset carries its rows as opaque JSON objects; the merger reads them field by field with
  `get`, `as_str`, `as_i64`, `as_u64` and `as_f64`.  A JSON number is an integer or a float, as
  serde keeps it: an integer token stays exact and is a `u64` or an `i64` only when it fits.
-/
import Mathlib.Algebra.Group.Int.Defs
import Mathlib.Algebra.Group.Nat.Defs
import Mathlib.Data.List.Basic

namespace Oneshim

/-- An `f64` as its bit pattern: the sync code moves floats, it never computes with them. -/
structure F64 where
  /-- The IEEE 754 bits. -/
  bits : UInt64
deriving DecidableEq

/-- `n as f64`. -/
def F64.ofInt (n : Int) : F64 := ⟨(Float.ofInt n).toBits⟩

/-- A JSON value. -/
inductive Json where
  | null
  | bool (b : Bool)
  | int (n : Int)
  | float (x : F64)
  | str (s : String)
  | arr (xs : List Json)
  | obj (fields : List (String × Json))

namespace Json

/-- `Value::get(key)`: a field of an object, nothing on any other value. -/
def get (v : Json) (key : String) : Option Json :=
  match v with
  | obj fields => fields.lookup key
  | _ => none

/-- `as_str`. -/
def asStr : Json → Option String
  | str s => some s
  | _ => none

/-- `as_i64`: an integer in the range of `i64`. -/
def asI64 : Json → Option Int64
  | int n => if -2 ^ 63 ≤ n ∧ n < 2 ^ 63 then some (Int64.ofInt n) else none
  | _ => none

/-- `as_u64`: a non-negative integer in the range of `u64`. -/
def asU64 : Json → Option Nat
  | int n => if 0 ≤ n ∧ n < 2 ^ 64 then some n.toNat else none
  | _ => none

/-- `as_f64`: any number. -/
def asF64 : Json → Option F64
  | float x => some x
  | int n => some (F64.ofInt n)
  | _ => none

/-- An `INTEGER` column, as SQLite's `json_object` renders it. -/
def ofInt64 (n : Int64) : Json := int n.toInt

/-- A `TEXT` column that may be `NULL`. -/
def ofStr? : Option String → Json
  | some s => str s
  | none => null

/-! ## What a rendered column reads back as -/

@[simp] theorem asI64_ofInt64 (n : Int64) : asI64 (ofInt64 n) = some n := by
  have hlt := Int64.toInt_lt n
  have hle := Int64.le_toInt n
  rw [ofInt64, asI64, if_pos ⟨hle, hlt⟩, Int64.ofInt_toInt]

theorem asU64_ofInt64_of_nonneg {n : Int64} (h : 0 ≤ n.toInt) :
    asU64 (ofInt64 n) = some n.toInt.toNat := by
  have hlt := Int64.toInt_lt n
  exact if_pos ⟨h, by omega⟩

theorem asU64_ofInt64_of_neg {n : Int64} (h : n.toInt < 0) : asU64 (ofInt64 n) = none :=
  if_neg (by omega)

@[simp] theorem asStr_ofStr? (s : Option String) : asStr (ofStr? s) = s := by
  cases s <;> rfl

end Json
end Oneshim
