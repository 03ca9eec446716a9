/-
  Values as numbers, and what stores and loads make of them.

  The `pattern` of a value is its bits as one number.  A store writes the low bytes of the pattern
  of its operand, the least significant first, whatever its width and the type of the operand are
  (`StoreOp.getD_bytes`).

  `DataLoad.Reads op n value` says what a data load has to make of the number `n` in its bytes: a
  value with just this pattern if the load is as wide as its type, else the integer that the bytes
  stand for, with a sign or without.  This leaves one value (`DataLoad.Reads.unique`), and all
  fourteen data loads answer it (`DataLoad.reads_ofBytes`).  Both notions are of integers and
  quotients only and know nothing of the extensions and of the casts that loads and stores are made
  of.
-/
import Mathlib.Algebra.Group.Int.Defs
import SegmentHeap.Proofs.Bytes
import SegmentHeap.Proofs.Heap.Access

namespace SegmentHeap

/-! ## Stores -/

/-- The bits of a value as a number: an integer modulo its range, a float as it is encoded, a handle
    as its word. -/
def Value.pattern : Value → Nat
  | .i32 value => (value.toInt % 2 ^ 32).toNat
  | .i64 value => (value.toInt % 2 ^ 64).toNat
  | .f32 bits => bits.toNat
  | .f64 bits => bits.toNat
  | .handle stored => stored.word.toNat

/-- A byte of a value by its position, from the least significant one on. -/
def Value.byte (value : Value) (i : Nat) : UInt8 := UInt8.ofNat (value.pattern / 256 ^ i)

/-- The residue of a signed number is the number with its bits. -/
theorem toNat_emod_toInt {width : Nat} (bits : BitVec width) :
    (bits.toInt % 2 ^ width).toNat = bits.toNat := by
  have small := bits.isLt
  have cast : (2 : Int) ^ width = (2 ^ width : Nat) := by norm_cast
  have same : bits.toInt % 2 ^ width = bits.toNat := by
    rw [BitVec.toInt_eq_toNat_bmod, cast, Int.bmod_emod]
    exact Int.emod_eq_of_lt (by omega) (by omega)
  rw [same, Int.toNat_natCast]

theorem eq_of_toNat_emod_toInt {width : Nat} {one other : BitVec width}
    (same : (one.toInt % 2 ^ width).toNat = (other.toInt % 2 ^ width).toNat) : one = other := by
  rw [toNat_emod_toInt, toNat_emod_toInt] at same
  exact BitVec.eq_of_toNat_eq same

theorem DataStore.pattern_eq {op : DataStore} {value : Value} {n : Nat}
    (typed : op.pattern? value = some n) : n = value.pattern := by
  unfold pattern? at typed
  split at typed
  · injection typed with same
    rw [← same]
    exact (toNat_emod_toInt (Int32.toBitVec _)).symm
  · injection typed with same
    rw [← same]
    exact (toNat_emod_toInt (Int64.toBitVec _)).symm
  · injection typed with same
    exact same.symm
  · injection typed with same
    exact same.symm
  · cases typed

/-- Every store writes the low bytes of the pattern of its operand. -/
theorem StoreOp.bytes_eq {op : StoreOp} {value : Value} {bytes : List UInt8}
    (typed : op.bytes? value = some bytes) : bytes = Bytes.ofNat op.width value.pattern := by
  rcases op with op | _
  · obtain ⟨n, pattern, rfl⟩ := Option.map_eq_some_iff.1 typed
    rw [DataStore.pattern_eq pattern, op.count_eq_width]
    rfl
  · rcases value with v | v | v | v | v <;> cases typed
    rfl

theorem StoreOp.getD_bytes {op : StoreOp} {value : Value} {bytes : List UInt8} {i : Nat}
    (typed : op.bytes? value = some bytes) (inside : i < op.width) :
    bytes.getD i 0 = value.byte i := by
  rw [bytes_eq typed, Bytes.getD_ofNat inside]
  rfl

/-! ## Loads -/

/-- The integer that some bits stand for: their number, or the one in two's complement. -/
def Extension.integer (extension : Extension) (bits n : Nat) : Int :=
  match extension with
  | .unsigned => n
  | .signed => if n < 2 ^ (bits - 1) then n else (n : Int) - 2 ^ bits

/-- What a load has to make of the number in its bytes. -/
def DataLoad.Reads (op : DataLoad) (n : Nat) (value : Value) : Prop :=
  match op with
  | .full type => value.scalar? = some type ∧ value.pattern = n
  | .i32 narrow extension =>
    ∃ v : Int32, value = .i32 v ∧ v.toInt = extension.integer (8 * narrow.width) n
  | .i64 narrow extension =>
    ∃ v : Int64, value = .i64 v ∧ v.toInt = extension.integer (8 * narrow.width) n

/-- The type and the bits of a number tell which one it is. -/
theorem Value.eq_of_pattern {one other : Value} {type : Scalar} (typed : one.scalar? = some type)
    (typed' : other.scalar? = some type) (same : one.pattern = other.pattern) : one = other := by
  rcases one with v | v | v | v | v <;> cases typed <;>
    rcases other with w | w | w | w | w <;> cases typed'
  · have bits : v.toBitVec = w.toBitVec := eq_of_toNat_emod_toInt same
    rw [Int32.toBitVec_inj.1 bits]
  · have bits : v.toBitVec = w.toBitVec := eq_of_toNat_emod_toInt same
    rw [Int64.toBitVec_inj.1 bits]
  · rw [UInt32.toNat_inj.1 same]
  · rw [UInt64.toNat_inj.1 same]

/-- There is one value that a load has to make of its bytes. -/
theorem DataLoad.Reads.unique {op : DataLoad} {n : Nat} {one other : Value}
    (reads : op.Reads n one) (reads' : op.Reads n other) : one = other := by
  rcases op with type | ⟨narrow, extension⟩ | ⟨narrow, extension⟩
  · obtain ⟨typed, bits⟩ := reads
    obtain ⟨typed', bits'⟩ := reads'
    exact Value.eq_of_pattern typed typed' (bits.trans bits'.symm)
  · obtain ⟨v, rfl, integer⟩ := reads
    obtain ⟨w, rfl, integer'⟩ := reads'
    rw [Int32.toInt_inj.1 (integer.trans integer'.symm)]
  · obtain ⟨v, rfl, integer⟩ := reads
    obtain ⟨w, rfl, integer'⟩ := reads'
    rw [Int64.toInt_inj.1 (integer.trans integer'.symm)]

/-- A number is extended to the integer that its bits stand for. -/
theorem Extension.extend_eq (extension : Extension) {bits n : Nat} (positive : 0 < bits)
    (small : n < 2 ^ bits) : extension.extend bits n = extension.integer bits n := by
  cases extension with
  | unsigned => rfl
  | signed =>
    -- the range of the bits is twice the one of the numbers that stay as they are
    have range : 2 ^ bits = 2 * 2 ^ (bits - 1) := by
      rw [← Nat.pow_succ', Nat.succ_eq_add_one, Nat.sub_add_cancel positive]
    have whole : (n : Int) % (2 ^ bits : Nat) = n := Int.emod_eq_of_lt (by omega) (by omega)
    have cast : (2 : Int) ^ bits = (2 ^ bits : Nat) := by norm_cast
    simp only [extend, integer, signExtend, Int.bmod_def, Nat.one_shiftLeft, whole, cast]
    split <;> split <;> omega

/-- A number is extended to an integer that fits every wider type. -/
theorem Extension.extend_bounds (extension : Extension) {bits wide n : Nat} (positive : 0 < bits)
    (narrow : bits < wide) (small : n < 2 ^ bits) :
    -2 ^ (wide - 1) ≤ extension.extend bits n ∧ extension.extend bits n < 2 ^ (wide - 1) := by
  have room : 2 ^ bits ≤ 2 ^ (wide - 1) := Nat.pow_le_pow_right (by decide) (by omega)
  have cast : (2 : Int) ^ bits = (2 ^ bits : Nat) := by norm_cast
  have cast_wide : (2 : Int) ^ (wide - 1) = (2 ^ (wide - 1) : Nat) := by norm_cast
  rw [extension.extend_eq positive small, cast_wide]
  cases extension with
  | unsigned =>
    simp only [integer]
    omega
  | signed =>
    simp only [integer, cast]
    split <;> omega

theorem Narrow32.bits_spec (narrow : Narrow32) :
    narrow.bits = 8 * narrow.width ∧ 0 < narrow.bits ∧ narrow.bits < 32 := by
  cases narrow <;> decide

theorem Narrow64.bits_spec (narrow : Narrow64) :
    narrow.bits = 8 * narrow.width ∧ 0 < narrow.bits ∧ narrow.bits < 64 := by
  cases narrow <;> decide

theorem DataLoad.reads_ofNumber (op : DataLoad) {n : Nat} (small : n < 256 ^ op.width) :
    op.Reads n (op.ofNumber n) := by
  rcases op with (_ | _ | _ | _) | ⟨narrow, extension⟩ | ⟨narrow, extension⟩
  · refine ⟨rfl, ?_⟩
    show ((Int32.ofInt n).toInt % 2 ^ 32).toNat = n
    have residue : (Int32.ofInt n).toInt % 2 ^ 32 = n % 2 ^ 32 := by
      rw [Int32.toInt_ofInt]
      exact Int.bmod_emod
    change n < 256 ^ 4 at small
    omega
  · refine ⟨rfl, ?_⟩
    show ((Int64.ofInt n).toInt % 2 ^ 64).toNat = n
    have residue : (Int64.ofInt n).toInt % 2 ^ 64 = n % 2 ^ 64 := by
      rw [Int64.toInt_ofInt]
      exact Int.bmod_emod
    change n < 256 ^ 8 at small
    omega
  · exact ⟨rfl, UInt32.toNat_ofNat_of_lt' small⟩
  · exact ⟨rfl, UInt64.toNat_ofNat_of_lt' small⟩
  · obtain ⟨bytes, positive, fits⟩ := narrow.bits_spec
    have small : n < 2 ^ narrow.bits := by
      rw [bytes, Nat.pow_mul]
      exact small
    obtain ⟨lower, upper⟩ := extension.extend_bounds positive fits small
    refine ⟨_, rfl, ?_⟩
    rw [Int32.toInt_ofInt_of_le lower upper, ← bytes]
    exact extension.extend_eq positive small
  · obtain ⟨bytes, positive, fits⟩ := narrow.bits_spec
    have small : n < 2 ^ narrow.bits := by
      rw [bytes, Nat.pow_mul]
      exact small
    obtain ⟨lower, upper⟩ := extension.extend_bounds positive fits small
    refine ⟨_, rfl, ?_⟩
    rw [Int64.toInt_ofInt_of_le lower upper, ← bytes]
    exact extension.extend_eq positive small

/-- Every data load makes of its bytes what it has to make of their number. -/
theorem DataLoad.reads_ofBytes {op : DataLoad} {bytes : List UInt8}
    (length : bytes.length = op.width) : op.Reads (Bytes.toNat bytes) (op.ofBytes bytes) := by
  have small := Bytes.toNat_lt bytes
  rw [length] at small
  exact op.reads_ofNumber small

end SegmentHeap
