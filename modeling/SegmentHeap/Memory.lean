/-
  Bytes in memory.

  A memory holds the bytes that were written and reads as zero elsewhere, so an allocation costs
  nothing before it is used.  It has no bounds: the segment that owns it checks them first.
    * `byte_write` says which bytes a write changes, and to what;
    * `read_write` says that what was written is read back.
-/
import Std.Data.ExtTreeMap

namespace SegmentHeap

/-- Bytes by address.  An address that holds none reads as zero. -/
abbrev Memory := Std.ExtTreeMap Nat UInt8

namespace Memory

/-- The byte at an address. -/
def byte (memory : Memory) (addr : Nat) : UInt8 := memory.getD addr 0

/-- The `len` bytes from `addr` on. -/
def read (memory : Memory) (addr len : Nat) : List UInt8 :=
  (List.range len).map fun i => memory.byte (addr + i)

/-- The memory with the bytes from `addr` on replaced by the given ones. -/
def write (memory : Memory) (addr : Nat) : List UInt8 → Memory
  | [] => memory
  | b :: bs => write (memory.insert addr b) (addr + 1) bs

@[simp] theorem byte_empty (addr : Nat) : byte ∅ addr = 0 := by simp [byte]

theorem byte_insert (memory : Memory) (addr : Nat) (b : UInt8) (i : Nat) :
    byte (memory.insert addr b) i = if addr = i then b else memory.byte i := by
  simp [byte, Std.ExtTreeMap.getD_insert]

@[simp] theorem length_read (memory : Memory) (addr len : Nat) :
    (memory.read addr len).length = len := by
  simp [read]

/-- A write shows the written byte inside its range and the old byte outside of it. -/
theorem byte_write (memory : Memory) (addr : Nat) (bs : List UInt8) (i : Nat) :
    byte (memory.write addr bs) i =
      if addr ≤ i ∧ i < addr + bs.length then bs.getD (i - addr) 0 else memory.byte i := by
  induction bs generalizing memory addr with
  | nil =>
    rw [if_neg (by simp only [List.length_nil]; omega)]
    rfl
  | cons b bs ih =>
    rw [write, ih, List.length_cons]
    by_cases after : addr + 1 ≤ i ∧ i < addr + 1 + bs.length
    · rw [if_pos after, if_pos (by omega)]
      rw [show i - addr = (i - (addr + 1)) + 1 by omega, List.getD_cons_succ]
    · rw [if_neg after, byte_insert]
      by_cases here : addr = i
      · subst here
        rw [if_pos rfl, if_pos (by omega), Nat.sub_self, List.getD_cons_zero]
      · rw [if_neg here, if_neg (by omega)]

/-- What was written is read back. -/
theorem read_write (memory : Memory) (addr : Nat) (bs : List UInt8) :
    (memory.write addr bs).read addr bs.length = bs := by
  apply List.ext_getElem (by simp)
  intro i _ inside
  simp only [read, List.getElem_map, List.getElem_range, byte_write]
  rw [if_pos (by omega), Nat.add_sub_cancel_left, List.getD_eq_getElem?_getD,
    List.getElem?_eq_getElem inside, Option.getD_some]

end Memory

end SegmentHeap
