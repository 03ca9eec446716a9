/-
  Binary floating point as bit patterns.

  A finite pattern stands for `± m · 2 ^ q` with a mantissa `m` of at most `precision` bits and an
  exponent `q` no smaller than that of the smallest positive number.  `Binary.round` goes the other
  way: it gives the pattern nearest to a quotient of natural numbers, a tie going to the even
  mantissa.  All arithmetic is exact, on natural numbers and integers.
-/

namespace SegmentHeap.Decimal

/-- A binary interchange format: a sign bit, then an exponent field, then a fraction field. -/
structure Binary where
  /-- Bits of a full mantissa, its leading one included. -/
  precision : Nat
  exponentBits : Nat
deriving DecidableEq, Repr

/-- What a bit pattern stands for. -/
inductive Number where
  | nan
  | infinity (negative : Bool)
  /-- The number `± mantissa · 2 ^ exponent`. -/
  | finite (negative : Bool) (mantissa : Nat) (exponent : Int)
deriving DecidableEq, Repr

namespace Binary

def single : Binary := ⟨24, 8⟩

def double : Binary := ⟨53, 11⟩

variable (format : Binary)

/-- The least mantissa with a leading one. -/
def leading : Nat := 1 <<< (format.precision - 1)

/-- The exponent field of infinities and NaNs. -/
def topField : Nat := (1 <<< format.exponentBits) - 1

/-- The exponent of the smallest positive number. -/
def leastExponent : Int := 3 - (1 <<< (format.exponentBits - 1) : Nat) - format.precision

/-- The sign bit. -/
def signBit : Nat := 1 <<< (format.precision - 1 + format.exponentBits)

/-- The pattern of positive infinity. -/
def infinityBits : Nat := format.topField * format.leading

/-- The pattern that a written NaN gets. -/
def nanBits : Nat := format.infinityBits + format.leading / 2

/-- What a pattern stands for. -/
def number (bits : Nat) : Number :=
  let negative := format.signBit ≤ bits
  let fraction := bits % format.leading
  let field := bits / format.leading % (1 <<< format.exponentBits)
  if field = format.topField then
    if fraction = 0 then .infinity negative else .nan
  else if field = 0 then
    .finite negative fraction format.leastExponent
  else
    .finite negative (format.leading + fraction) (format.leastExponent + (field - 1 : Nat))

/-- The quotient rounded to the nearest whole number, a half going to the even one. -/
def roundHalfEven (num den : Nat) : Nat :=
  let low := num / den
  let rest := num % den
  if 2 * rest < den then low
  else if den < 2 * rest then low + 1
  else low + low % 2

/-- The pattern nearest to `num / den`, for positive `num` and `den`.  The exponent is the one that
    gives the mantissa its full precision, but at least the least one.  Since a pattern without its
    sign is `field · leading + fraction`, a mantissa that is rounded up to twice `leading` carries
    into the exponent field by itself, and a subnormal one has the field 0. -/
def round (num den : Nat) : Nat :=
  let scale : Int := num.log2 - den.log2
  -- `2 ^ scale` is at most twice the quotient and more than half of it
  let magnitude : Int :=
    if num <<< (-scale).toNat < den <<< scale.toNat then scale - 1 else scale
  let exponent := max format.leastExponent (magnitude - (format.precision - 1 : Nat))
  let mantissa := roundHalfEven (num <<< (-exponent).toNat) (den <<< exponent.toNat)
  min format.infinityBits ((exponent - format.leastExponent).toNat * format.leading + mantissa)

end Binary

end SegmentHeap.Decimal
