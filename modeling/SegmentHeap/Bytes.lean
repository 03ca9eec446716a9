/-
  Numbers as bytes.

  `Bytes.ofNat w n` is the little-endian form of `n` in `w` bytes and `Bytes.toNat` reads it back:
  `ofNat bs.length (toNat bs) = bs`.
-/

namespace SegmentHeap.Bytes

/-- The `w` low bytes of `n`, least significant first. -/
def ofNat : Nat → Nat → List UInt8
  | 0, _ => []
  | w + 1, n => UInt8.ofNat (n % 256) :: ofNat w (n / 256)

/-- The number whose bytes, least significant first, are given. -/
def toNat : List UInt8 → Nat
  | [] => 0
  | b :: bs => b.toNat + 256 * toNat bs

@[simp] theorem length_ofNat (w n : Nat) : (ofNat w n).length = w := by
  induction w generalizing n with
  | zero => rfl
  | succ w ih => simp [ofNat, ih]

theorem ofNat_toNat (bs : List UInt8) : ofNat bs.length (toNat bs) = bs := by
  induction bs with
  | nil => rfl
  | cons b bs ih =>
    have hb := b.toNat_lt
    have low : (b.toNat + 256 * toNat bs) % 256 = b.toNat := by omega
    have high : (b.toNat + 256 * toNat bs) / 256 = toNat bs := by omega
    rw [List.length_cons, ofNat, toNat, low, high, ih, UInt8.ofNat_toNat]

end SegmentHeap.Bytes
