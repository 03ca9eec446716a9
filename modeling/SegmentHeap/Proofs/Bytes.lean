/-
  The number of some bytes: what reading back gives, how large it is, and when it is zero; and the
  bytes of a number, one by one.

  For words of eight bytes this comes to `ofNat_toNat_ofNat`: a word is read back as it was written.
-/
import Mathlib.Algebra.Group.Nat.Defs
import SegmentHeap.Bytes

namespace SegmentHeap.Bytes

/-- Reading back gives what the bytes have room for. -/
theorem toNat_ofNat (w n : Nat) : toNat (ofNat w n) = n % 256 ^ w := by
  induction w generalizing n with
  | zero => simp [ofNat, toNat, Nat.mod_one]
  | succ w ih =>
    -- the first byte is the remainder, and the others hold the quotient
    have low : (UInt8.ofNat (n % 256)).toNat = n % 256 := by simp
    rw [ofNat, toNat, low, ih, Nat.pow_succ', Nat.mod_mul]

theorem toNat_lt (bs : List UInt8) : toNat bs < 256 ^ bs.length := by
  induction bs with
  | nil => simp [toNat]
  | cons b bs ih =>
    have hb := b.toNat_lt
    rw [toNat, List.length_cons, Nat.pow_succ]
    omega

theorem toNat_eq_zero_iff {bytes : List UInt8} :
    toNat bytes = 0 ↔ ∀ b ∈ bytes, b = 0 := by
  induction bytes with
  | nil => simp [toNat]
  | cons b bytes ih =>
    rw [toNat, List.forall_mem_cons, ← ih, ← UInt8.toNat_inj]
    show b.toNat + 256 * toNat bytes = 0 ↔ b.toNat = 0 ∧ toNat bytes = 0
    omega

/-- Each byte of a number is the remainder of one of its quotients. -/
theorem getD_ofNat {w i : Nat} (inside : i < w) (n : Nat) :
    (ofNat w n).getD i 0 = UInt8.ofNat (n / 256 ^ i) := by
  induction w generalizing n i with
  | zero => exact absurd inside (Nat.not_lt_zero i)
  | succ w ih =>
    rw [ofNat]
    rcases i with _ | i
    · rw [List.getD_cons_zero, Nat.pow_zero, Nat.div_one]
      exact UInt8.ofNat_mod_size
    · rw [List.getD_cons_succ, ih (by omega), Nat.pow_succ', Nat.div_div_eq_div_mul]

/-! ## Words of eight bytes -/

theorem ofNat_toNat_ofNat (word : UInt64) : UInt64.ofNat (toNat (ofNat 8 word.toNat)) = word := by
  have small := word.toNat_lt
  rw [toNat_ofNat, Nat.mod_eq_of_lt (by omega), UInt64.ofNat_toNat]

/-- Eight bytes make the word zero only if all of them are zero. -/
theorem ofNat_toNat_eq_zero_iff {bytes : List UInt8} (length : bytes.length = 8) :
    UInt64.ofNat (toNat bytes) = 0 ↔ ∀ b ∈ bytes, b = 0 := by
  have bound := toNat_lt bytes
  rw [length] at bound
  have number : (UInt64.ofNat (toNat bytes)).toNat = toNat bytes := by
    rw [UInt64.toNat_ofNat']
    omega
  rw [← toNat_eq_zero_iff, ← UInt64.toNat_inj, number]
  rfl

end SegmentHeap.Bytes
