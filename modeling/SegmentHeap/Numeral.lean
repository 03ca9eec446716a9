/-
  Whole numbers as text: hexadecimal printing, and reading in base 10 or 16.

  Digits are ASCII.  Printing writes hexadecimal digits in lower case; reading takes them in either
  case.  A numeral has at least one digit and no sign.
-/

namespace SegmentHeap.Numeral

/-! ## Printing -/

/-- The hexadecimal digits of `n`, after `0x`. -/
def hex (n : Nat) : String := "0x" ++ String.ofList (Nat.toDigits 16 n)

/-- The same with zeros in front up to `width` digits. -/
def hexPadded (width n : Nat) : String :=
  "0x" ++ String.ofList ((Nat.toDigits 16 n).leftpad width '0')

/-! ## Reading -/

/-- The value of a hexadecimal digit. -/
def digit? (c : Char) : Option Nat :=
  if '0' ≤ c ∧ c ≤ '9' then some (c.toNat - '0'.toNat)
  else if 'a' ≤ c ∧ c ≤ 'f' then some (c.toNat - 'a'.toNat + 10)
  else if 'A' ≤ c ∧ c ≤ 'F' then some (c.toNat - 'A'.toNat + 10)
  else none

/-- The value of a digit in a base up to 16. -/
def digitIn? (base : Nat) (c : Char) : Option Nat :=
  (digit? c).filter (· < base)

/-- Reads digits onto a number already read. -/
def readOnto (base : Nat) : Nat → List Char → Option Nat
  | n, [] => some n
  | n, c :: cs => (digitIn? base c).bind fun d => readOnto base (base * n + d) cs

/-- The value of a nonempty string of digits. -/
def read? (base : Nat) : List Char → Option Nat
  | [] => none
  | cs => readOnto base 0 cs

end SegmentHeap.Numeral
