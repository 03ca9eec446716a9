/-
  Windows: the range of a segment that a handle may reach.

  The bounds are 32-bit words and the cursor of a handle is a signed 32-bit word, but both checks
  here are made over the integers, so that no sum wraps:
    * an access of `n` bytes at cursor `o` is allowed iff `0 ≤ o` and `o + n ≤ bound - base`;
    * a narrowing to `[lo, hi)` is allowed iff `0 ≤ lo ≤ hi ≤ bound - base`.
-/
import SegmentHeap.Fault

namespace SegmentHeap

/-- A range of addresses of a segment, from `base` up to but not including `bound`. -/
structure Window where
  base : UInt32
  bound : UInt32
deriving DecidableEq, Repr

namespace Window

/-- The window with no bytes at address 0. -/
def empty : Window := ⟨0, 0⟩

/-- The number of bytes in the window; negative if its bounds are inverted. -/
def length (window : Window) : Int := (window.bound.toNat : Int) - window.base.toNat

/-- The address of an access of `size` bytes at a cursor. -/
def address (window : Window) (cursor : Int32) (size : Nat) : Except Fault Nat :=
  if 0 ≤ cursor.toInt ∧ cursor.toInt + size ≤ window.length then
    .ok (window.base.toNat + cursor.toInt.toNat)
  else
    .error .outOfBounds

/-- The part of the window from `lo` to `hi`, both counted from its base. -/
def narrow (window : Window) (lo hi : Int32) : Except Fault Window :=
  if 0 ≤ lo.toInt ∧ lo.toInt ≤ hi.toInt ∧ hi.toInt ≤ window.length then
    .ok ⟨UInt32.ofNat (window.base.toNat + lo.toInt.toNat),
      UInt32.ofNat (window.base.toNat + hi.toInt.toNat)⟩
  else
    .error .invalidSlice

/-- An allowed access lies inside the window. -/
theorem le_bound_of_address {window : Window} {cursor : Int32} {size addr : Nat}
    (allowed : window.address cursor size = .ok addr) :
    window.base.toNat ≤ addr ∧ addr + size ≤ window.bound.toNat := by
  unfold address at allowed
  split at allowed
  · injection allowed with same
    subst same
    unfold length at *
    omega
  · cases allowed

end Window

end SegmentHeap
