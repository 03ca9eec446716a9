/-
  The limits of a heap, and what is wrong with limits that make none.
-/

namespace SegmentHeap

/-- Limits for one heap and its key table. -/
structure Config where
  /-- Slots in a fresh key table. -/
  initialCapacity : Nat := 11
  /-- The key table never grows beyond this many slots. -/
  maxCapacity : Nat := 1 <<< 22
  /-- The largest single allocation, in bytes. -/
  maxSegmentSize : UInt32 := 0x40000000
  /-- The host reserves room for at most this many slots. -/
  slotLimit : Nat := 1 <<< 40
deriving DecidableEq, Repr

/-- Why no heap can be made. -/
inductive ConfigError where
  | zeroInitialCapacity
  | initialCapacityExceedsMax (initial max : Nat)
  /-- The host cannot reserve the initial slots. -/
  | unreservable (capacity : Nat)
deriving DecidableEq, Repr

def ConfigError.message : ConfigError → String
  | zeroInitialCapacity => "key table initial capacity must be nonzero"
  | initialCapacityExceedsMax initial max =>
      s!"key table initial capacity {initial} exceeds maximum {max}"
  | unreservable capacity => s!"cannot reserve key table of {capacity} slots"

namespace Config

/-- A table starts with at least one slot and at most its maximum. -/
def validate (config : Config) : Except ConfigError Unit :=
  if config.initialCapacity = 0 then
    .error .zeroInitialCapacity
  else if config.maxCapacity < config.initialCapacity then
    .error (.initialCapacityExceedsMax config.initialCapacity config.maxCapacity)
  else
    .ok ()

theorem validate_eq_ok_iff (config : Config) :
    config.validate = .ok () ↔
      0 < config.initialCapacity ∧ config.initialCapacity ≤ config.maxCapacity := by
  unfold validate
  split
  · simp; omega
  · split <;> simp <;> omega

end Config

end SegmentHeap
