/-
  The shortest decimal text of a binary number.

  A decimal `c · 10 ^ k` stands for a binary number if it rounds to it.  Those decimals form an
  interval around the number, closed if its mantissa is even.  `shortest` takes the greatest `k` for
  which the interval has a point of the grid `10 ^ k`, and on that grid the point nearest to the
  number; of two equally near ones, the greater.  If a grid has a point in the interval, then one of
  the two neighbours of the number on that grid is such a point, so only these are tested.

  The text is always positional: no exponent, no point without digits behind it.
-/
import SegmentHeap.Decimal.Binary

namespace SegmentHeap.Decimal

/-- The number of grids that are tried, from coarse to fine.  Seventeen digits always suffice, and
    the first grid is at most a few too coarse. -/
def gridCount : Nat := 24

/-- The nearest point `c` on a grid that rounds to the number, with the quantities scaled to whole
    numbers: the number is `value / unit` grid steps, and the interval reaches `below / unit` down
    and `above / unit` up. -/
def nearestOnGrid? (value below above unit : Nat) (closed : Bool) : Option Nat :=
  let low := value / unit
  let down := value - low * unit
  let up := (low + 1) * unit - value
  let downIn := 0 < low && (down < below || closed && down == below)
  let upIn := up < above || closed && up == above
  if upIn && (up ≤ down || !downIn) then some (low + 1)
  else if downIn then some low
  else none

/-- The search over the grids from `10 ^ k` on to finer ones. -/
def searchGrids (mantissa : Nat) (exponent : Int) (belowQuarters : Nat) (closed : Bool) :
    Nat → Int → Nat × Int
  | 0, k => (0, k)
  | fuel + 1, k =>
    -- one quarter of the last binary place, over one grid step
    let quarter := Nat.pow 10 (-k).toNat <<< (exponent - 2).toNat
    let unit := Nat.pow 10 k.toNat <<< (2 - exponent).toNat
    match nearestOnGrid? (4 * mantissa * quarter) (belowQuarters * quarter) (2 * quarter) unit
        closed with
    | some c => (c, k)
    | none => searchGrids mantissa exponent belowQuarters closed fuel (k - 1)

/-- The decimal `c · 10 ^ k` that stands for a positive number `mantissa · 2 ^ exponent`.  Below a
    power of two the binary numbers lie twice as close, except at the least exponent. -/
def shortest (format : Binary) (mantissa : Nat) (exponent : Int) : Nat × Int :=
  let atPower := mantissa == format.leading && format.leastExponent < exponent
  let top := ((mantissa.log2 : Int) + exponent) * 30103 / 100000 + 1
  searchGrids mantissa exponent (if atPower then 1 else 2) (mantissa % 2 == 0) gridCount top

/-- The digits of a decimal without exponent. -/
def positional (c : Nat) (k : Int) : List Char :=
  let digits := Nat.toDigits 10 c
  let places := (-k).toNat
  if 0 ≤ k then digits ++ List.replicate k.toNat '0'
  else if places < digits.length then
    digits.take (digits.length - places) ++ '.' :: digits.drop (digits.length - places)
  else
    '0' :: '.' :: List.replicate (places - digits.length) '0' ++ digits

/-- The text of a bit pattern.  Zero keeps its sign, a NaN has none. -/
def text (format : Binary) (bits : Nat) : String :=
  match format.number bits with
  | .nan => "NaN"
  | .infinity negative => if negative then "-inf" else "inf"
  | .finite negative mantissa exponent =>
    let magnitude :=
      if mantissa = 0 then ['0']
      else
        let (c, k) := shortest format mantissa exponent
        positional c k
    String.ofList (if negative then '-' :: magnitude else magnitude)

end SegmentHeap.Decimal
