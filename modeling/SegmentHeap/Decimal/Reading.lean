/-
  Reading a decimal text as the nearest binary number.

  The grammar: an optional sign, then `inf`, `infinity` or `nan` in any case, or digits with an
  optional point among them or at one end (at least one digit), then optionally `e` or `E` and a
  whole number with an optional sign.  The value is rounded correctly from the exact quotient; what
  is too large becomes infinity, and the sign of zero and of a NaN is kept.
-/
import SegmentHeap.Decimal.Binary
import SegmentHeap.Numeral

namespace SegmentHeap.Decimal

/-- An optional sign and the rest. -/
def takeSign : List Char → Bool × List Char
  | '-' :: cs => (true, cs)
  | '+' :: cs => (false, cs)
  | cs => (false, cs)

/-- The exponent part, which may be absent. -/
def readExponent? : List Char → Option Int
  | [] => some 0
  | c :: cs =>
    if c = 'e' ∨ c = 'E' then
      let (negative, digits) := takeSign cs
      (Numeral.read? 10 digits).map fun n => if negative then -(n : Int) else n
    else none

/-- The whole number and the power of ten that an unsigned decimal is the product of. -/
def readDecimal? (cs : List Char) : Option (Nat × Int) := do
  let (whole, rest) := (cs.takeWhile Char.isDigit, cs.dropWhile Char.isDigit)
  let (fraction, rest) :=
    match rest with
    | '.' :: tail => (tail.takeWhile Char.isDigit, tail.dropWhile Char.isDigit)
    | _ => ([], rest)
  let digits ← Numeral.read? 10 (whole ++ fraction)
  let exponent ← readExponent? rest
  return (digits, exponent - fraction.length)

/-- Every format here holds decimals between `10 ^ -range` and `10 ^ range` only; beyond that a
    decimal is infinite or zero, and no power of ten has to be computed. -/
def range : Int := 400

/-- The pattern nearest to `digits · 10 ^ exponent`. -/
def roundDecimal (format : Binary) (digits : Nat) (exponent : Int) : Nat :=
  let length : Int := (Nat.toDigits 10 digits).length
  if digits = 0 ∨ length + exponent < -range then 0
  else if range < length + exponent then format.infinityBits
  else format.round (digits * Nat.pow 10 exponent.toNat) (Nat.pow 10 (-exponent).toNat)

/-- The bit pattern that a text stands for. -/
def read? (format : Binary) (cs : List Char) : Option Nat :=
  let (negative, body) := takeSign cs
  let lower := String.ofList (body.map Char.toLower)
  let magnitude :=
    if lower = "inf" ∨ lower = "infinity" then some format.infinityBits
    else if lower = "nan" then some format.nanBits
    else (readDecimal? body).map fun (digits, exponent) => roundDecimal format digits exponent
  magnitude.map fun bits => if negative then bits + format.signBit else bits

end SegmentHeap.Decimal
