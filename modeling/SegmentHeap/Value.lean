/-
  Values, and how loads and stores turn bytes into values and back.

  Floating-point numbers are kept as bit patterns: memory moves bits, so the payload of a NaN
  survives.  A data load reads its bytes as a little-endian number and extends it; a data store
  writes the low bytes of its operand and accepts no operand of another type.
-/
import SegmentHeap.Decimal.Shortest
import SegmentHeap.Handle
import SegmentHeap.Instruction

namespace SegmentHeap

/-- A typed operand. -/
inductive Value where
  | i32 (value : Int32)
  | i64 (value : Int64)
  | f32 (bits : UInt32)
  | f64 (bits : UInt64)
  | handle (handle : Handle)
deriving DecidableEq, Repr

namespace Value

def typeName : Value → String
  | i32 _ => "i32" | i64 _ => "i64" | f32 _ => "f32" | f64 _ => "f64" | handle _ => "handle"

/-- How a value is shown: its type and its number, or the text of the handle. -/
def text : Value → String
  | i32 value => "i32:" ++ toString value.toInt
  | i64 value => "i64:" ++ toString value.toInt
  | f32 bits => "f32:" ++ Decimal.text .single bits.toNat
  | f64 bits => "f64:" ++ Decimal.text .double bits.toNat
  | handle h => h.text

end Value

/-! ## Integers as bit patterns -/

/-- The signed number that the low bits of `n` stand for. -/
def signExtend (bits n : Nat) : Int := (n : Int).bmod (1 <<< bits)

/-- An integer in the signed or the unsigned 32-bit range, as its bit pattern. -/
def toInt32? (n : Int) : Option Int32 :=
  if Int32.minValue.toInt ≤ n ∧ n < UInt32.size then some (Int32.ofInt n) else none

/-- An integer in the signed or the unsigned 64-bit range, as its bit pattern. -/
def toInt64? (n : Int) : Option Int64 :=
  if Int64.minValue.toInt ≤ n ∧ n < UInt64.size then some (Int64.ofInt n) else none

/-! ## Bytes of loads and stores -/

/-- A number of so many bits, extended to a type of more. -/
def Extension.extend (extension : Extension) (bits n : Nat) : Int :=
  match extension with
  | .signed => signExtend bits n
  | .unsigned => n

/-- The value that a load makes of the number in its bytes. -/
def DataLoad.ofNumber (op : DataLoad) (n : Nat) : Value :=
  match op with
  | .full .i32 => .i32 (Int32.ofInt n)
  | .full .i64 => .i64 (Int64.ofInt n)
  | .full .f32 => .f32 (UInt32.ofNat n)
  | .full .f64 => .f64 (UInt64.ofNat n)
  | .i32 narrow extension => .i32 (Int32.ofInt (extension.extend narrow.bits n))
  | .i64 narrow extension => .i64 (Int64.ofInt (extension.extend narrow.bits n))

/-- The value that a load makes of its bytes. -/
def DataLoad.ofBytes (op : DataLoad) (bytes : List UInt8) : Value :=
  op.ofNumber (Bytes.toNat bytes)

/-- The bit pattern of an operand of the type that a store takes. -/
def DataStore.pattern? (op : DataStore) (value : Value) : Option Nat :=
  match op.operand, value with
  | .i32, .i32 v => some v.toUInt32.toNat
  | .i64, .i64 v => some v.toUInt64.toNat
  | .f32, .f32 bits => some bits.toNat
  | .f64, .f64 bits => some bits.toNat
  | _, _ => none

/-- The bytes that a store writes; `none` for an operand of another type. -/
def DataStore.bytes? (op : DataStore) (value : Value) : Option (List UInt8) :=
  (op.pattern? value).map (Bytes.ofNat op.count)

theorem DataStore.length_bytes {op : DataStore} {value : Value} {bytes : List UInt8}
    (typed : op.bytes? value = some bytes) : bytes.length = op.width := by
  obtain ⟨pattern, _, rfl⟩ := Option.map_eq_some_iff.1 typed
  rw [Bytes.length_ofNat, op.count_eq_width]

end SegmentHeap
