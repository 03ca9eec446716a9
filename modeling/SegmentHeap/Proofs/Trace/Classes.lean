/-
  Which words are operands, and what each of them stands for.

  `Operand.Denoted` says it without an order of tests: `null`, the other identifiers, numbers with
  their sign and a magnitude below `2 ^ 127`, numbers of the signed or the unsigned range of a type
  with that type behind them, and texts of floating-point numbers with theirs.  Reading finds
  exactly these, and refuses every other word (`readOperand?_eq_some_iff`).

  The reader tests the start of a word, then its end, then its sign.  What is left after each test
  is taken apart again here: digits from the last one on, since a digit is worth its own value there
  and multiplies what is in front of it.

  Integers are read in 128 bits.  A product or a sum that leaves them refuses the word; the minus
  sign is not checked, and need not be (`readWideInt?_toInt`).
-/
import Mathlib.Algebra.Group.Int.Defs
import Mathlib.Algebra.Group.Nat.Defs
import Mathlib.Data.List.Induction
import SegmentHeap.Proofs.Trace.Literal
import SegmentHeap.Trace.Statement

namespace SegmentHeap

/-! ## Digits -/

namespace Numeral

variable {base m n d : Nat} {c : Char} {cs : List Char}

theorem digit_of_digit? (value : digit? c = some d) :
    d < 16 ∧ (c = Nat.digitChar d ∨ c = (Nat.digitChar d).toUpper) := by
  have all : ∀ k < 103, ∀ d ∈ digit? (Char.ofNat k),
      d < 16 ∧ (Char.ofNat k = Nat.digitChar d ∨ Char.ofNat k = (Nat.digitChar d).toUpper) := by
    decide
  have low : c.toNat < 103 := by
    unfold digit? at value
    simp only [Char.le_def, UInt32.le_iff_toNat_le] at value
    have upper : '9'.val.toNat = 57 ∧ 'f'.val.toNat = 102 ∧ 'F'.val.toNat = 70 := by decide
    have same : c.toNat = c.val.toNat := rfl
    split at value
    · omega
    split at value
    · omega
    split at value
    · omega
    · cases value
  have here := all c.toNat low d
  rw [Char.ofNat_toNat] at here
  exact here value

theorem digitIn?_eq_some_iff (small : base ≤ 16) : digitIn? base c = some d ↔ Digit base d c := by
  constructor
  · intro value
    obtain ⟨value, below⟩ := Option.filter_eq_some_iff.1 value
    exact ⟨of_decide_eq_true below, (digit_of_digit? value).2⟩
  · intro digit
    exact digit.digitIn? small

theorem digits_of_readOnto (small : base ≤ 16) (full : cs ≠ [])
    (value : readOnto base 0 cs = some n) : Digits base n cs := by
  induction cs using List.reverseRecOn generalizing n with
  | nil => exact absurd rfl full
  | append_singleton cs c ih =>
    rw [readOnto_append, Option.bind_eq_some_iff] at value
    obtain ⟨m, front, value⟩ := value
    obtain ⟨d, last, rfl⟩ := Option.map_eq_some_iff.1 value
    have digit := (digitIn?_eq_some_iff small).1 last
    -- a single digit is read onto zero, which is no digit of the number
    rcases cs with _ | ⟨first, cs⟩
    · obtain rfl : 0 = m := Option.some.inj front
      rw [Nat.mul_zero, Nat.zero_add]
      exact .one digit
    · exact .snoc (ih (List.cons_ne_nil _ _) front) digit

theorem read?_eq_some_iff (small : base ≤ 16) : read? base cs = some n ↔ Digits base n cs := by
  constructor
  · intro value
    rcases cs with _ | ⟨c, cs⟩
    · cases value
    · exact digits_of_readOnto small (List.cons_ne_nil c cs) value
  · intro digits
    exact digits.read? small

end Numeral

namespace Trace

open Numeral (Digits)

variable {base m n : Nat} {i : Int} {cs word body : List Char} {type : Scalar} {operand : Operand}

/-! ## Numbers -/

theorem magnitudeLimit_eq : magnitudeLimit = 2 ^ 127 - 1 := by decide

theorem readMagnitude?_eq_some_iff :
    readMagnitude? cs = some n ↔ Unsigned n cs ∧ n ≤ magnitudeLimit := by
  constructor
  · intro value
    obtain ⟨value, small⟩ := Option.filter_eq_some_iff.1 value
    refine ⟨?_, of_decide_eq_true small⟩
    split at value
    · exact .hexadecimal ((Numeral.read?_eq_some_iff (Nat.le_refl 16)).1 value)
    · exact .decimal ((Numeral.read?_eq_some_iff (by decide)).1 value)
  · rintro ⟨number, small⟩
    exact readMagnitude?_of_unsigned number small

theorem readInt?_minus (cs : List Char) :
    readInt? ('-' :: cs) = (readMagnitude? cs).map fun n : Nat => -(n : Int) := by
  rw [readInt?]
  rcases readMagnitude? cs with _ | n <;> rfl

theorem readInt?_plain (plain : ∀ rest, cs ≠ '-' :: rest) :
    readInt? cs = (readMagnitude? cs).map fun n : Nat => (n : Int) := by
  rw [readInt?]
  · rcases readMagnitude? cs with _ | n <;> rfl
  · exact plain

/-- A word that begins with the minus sign, and one that does not. -/
theorem minus_cases (cs : List Char) : (∃ rest, cs = '-' :: rest) ∨ ∀ rest, cs ≠ '-' :: rest := by
  by_cases minus : ∃ rest, cs = '-' :: rest
  · exact Or.inl minus
  · exact Or.inr fun rest same => minus ⟨rest, same⟩

theorem readInt?_eq_some_iff : readInt? cs = some i ↔ Signed i cs ∧ i.natAbs ≤ magnitudeLimit := by
  constructor
  · intro value
    rcases minus_cases cs with ⟨rest, rfl⟩ | plain
    · rw [readInt?_minus] at value
      obtain ⟨n, magnitude, rfl⟩ := Option.map_eq_some_iff.1 value
      obtain ⟨number, small⟩ := readMagnitude?_eq_some_iff.1 magnitude
      exact ⟨.minus number, by rw [Int.natAbs_neg, Int.natAbs_natCast]; exact small⟩
    · rw [readInt?_plain plain] at value
      obtain ⟨n, magnitude, rfl⟩ := Option.map_eq_some_iff.1 value
      obtain ⟨number, small⟩ := readMagnitude?_eq_some_iff.1 magnitude
      exact ⟨.plain number, by rw [Int.natAbs_natCast]; exact small⟩
  · rintro ⟨number, small⟩
    exact readInt?_of_signed number small

/-! ## Numbers in 128 bits -/

/-- Digits read onto a number in 128 bits with a sign.  A product or a sum that does not fit is
    refused. -/
def readWide? (base : Nat) : BitVec 128 → List Char → Option (BitVec 128)
  | n, [] => some n
  | n, c :: cs =>
    if (BitVec.ofNat 128 base).smulOverflow n then none
    else (Numeral.digitIn? base c).bind fun d =>
      let product := BitVec.ofNat 128 base * n
      if product.saddOverflow (BitVec.ofNat 128 d) then none
      else readWide? base (product + BitVec.ofNat 128 d) cs

/-- The value of a nonempty string of digits in 128 bits. -/
def readWideDigits? (base : Nat) : List Char → Option (BitVec 128)
  | [] => none
  | cs => readWide? base 0 cs

/-- An integer without sign in 128 bits. -/
def readWideMagnitude? : List Char → Option (BitVec 128)
  | '0' :: 'x' :: digits => readWideDigits? 16 digits
  | digits => readWideDigits? 10 digits

/-- An integer with an optional minus sign in 128 bits.  Nothing checks that the negative of the
    magnitude fits. -/
def readWideInt? : List Char → Option (BitVec 128)
  | '-' :: cs => (readWideMagnitude? cs).map fun n => -n
  | cs => readWideMagnitude? cs

theorem toInt_ofNat_of_le (small : n ≤ magnitudeLimit) : (BitVec.ofNat 128 n).toInt = n := by
  have limit := magnitudeLimit_eq
  have value : (BitVec.ofNat 128 n).toNat = n := by
    rw [BitVec.toNat_ofNat, Nat.mod_eq_of_lt (by omega)]
  rw [BitVec.toInt_eq_toNat_of_lt (by omega), value]

/-- A number to which digits are added only grows. -/
theorem le_of_readOnto (positive : 0 < base) (value : Numeral.readOnto base m cs = some n) :
    m ≤ n := by
  induction cs generalizing m with
  | nil => exact Nat.le_of_eq (Option.some.inj value)
  | cons c cs ih =>
    obtain ⟨d, _, value⟩ := Option.bind_eq_some_iff.1 value
    calc m ≤ base * m := Nat.le_mul_of_pos_left m positive
      _ ≤ base * m + d := Nat.le_add_right _ d
      _ ≤ n := ih value

theorem filter_readOnto_eq_none (positive : 0 < base) (past : magnitudeLimit < m)
    (cs : List Char) : (Numeral.readOnto base m cs).filter (· ≤ magnitudeLimit) = none := by
  rw [Option.filter_eq_none_iff]
  intro n value within
  have grown := le_of_readOnto positive value
  have := of_decide_eq_true within
  omega

theorem smulOverflow_ofNat (left : m ≤ magnitudeLimit) (right : n ≤ magnitudeLimit) :
    (BitVec.ofNat 128 m).smulOverflow (BitVec.ofNat 128 n) = decide (magnitudeLimit < m * n) := by
  have limit := magnitudeLimit_eq
  rw [BitVec.smulOverflow, toInt_ofNat_of_le left, toInt_ofNat_of_le right, ← Int.natCast_mul,
    ← Bool.decide_or, decide_eq_decide]
  omega

theorem saddOverflow_ofNat (left : m ≤ magnitudeLimit) (right : n ≤ magnitudeLimit) :
    (BitVec.ofNat 128 m).saddOverflow (BitVec.ofNat 128 n) = decide (magnitudeLimit < m + n) := by
  have limit := magnitudeLimit_eq
  rw [BitVec.saddOverflow, toInt_ofNat_of_le left, toInt_ofNat_of_le right, ← Int.natCast_add,
    ← Bool.decide_or, decide_eq_decide]
  omega

/-- Reading in 128 bits finds the numbers up to the limit. -/
theorem readWide?_ofNat (positive : 0 < base) (small : base ≤ 16) (below : m ≤ magnitudeLimit)
    (cs : List Char) :
    readWide? base (BitVec.ofNat 128 m) cs =
      ((Numeral.readOnto base m cs).filter (· ≤ magnitudeLimit)).map (BitVec.ofNat 128) := by
  have limit := magnitudeLimit_eq
  induction cs generalizing m with
  | nil =>
    rw [readWide?, Numeral.readOnto, Option.filter_some, if_pos (decide_eq_true below)]
    rfl
  | cons c cs ih =>
    rw [readWide?, Numeral.readOnto, smulOverflow_ofNat (by omega) below, ← BitVec.ofNat_mul]
    rcases read : Numeral.digitIn? base c with _ | d
    · simp
    have digit := (Numeral.digitIn?_eq_some_iff small).1 read
    have := digit.1
    rw [Option.bind_some, Option.bind_some]
    by_cases product : magnitudeLimit < base * m
    · -- what follows a number past the limit does not bring it back
      rw [if_pos (decide_eq_true product), filter_readOnto_eq_none positive (by omega)]
      rfl
    · have fits : ¬ decide (magnitudeLimit < base * m) = true := by simpa using product
      simp only [if_neg fits, saddOverflow_ofNat (Nat.le_of_not_lt product)
        (show d ≤ magnitudeLimit by omega)]
      by_cases sum : magnitudeLimit < base * m + d
      · rw [if_pos (decide_eq_true sum), filter_readOnto_eq_none positive sum]
        rfl
      · rw [if_neg (by simpa using sum), ← BitVec.ofNat_add, ih (Nat.le_of_not_lt sum)]

theorem readWideDigits?_eq (positive : 0 < base) (small : base ≤ 16) (cs : List Char) :
    readWideDigits? base cs =
      ((Numeral.read? base cs).filter (· ≤ magnitudeLimit)).map (BitVec.ofNat 128) := by
  rcases cs with _ | ⟨c, cs⟩
  · rfl
  · exact readWide?_ofNat positive small (Nat.zero_le _) (c :: cs)

theorem readWideMagnitude?_eq (cs : List Char) :
    readWideMagnitude? cs = (readMagnitude? cs).map (BitVec.ofNat 128) := by
  unfold readWideMagnitude?
  split
  · exact readWideDigits?_eq (show 0 < 16 by decide) (Nat.le_refl 16) _
  · rename_i decimal
    unfold readMagnitude?
    split
    · exact absurd rfl (decimal _)
    · exact readWideDigits?_eq (show 0 < 10 by decide) (by decide) _

theorem negOverflow_ofNat (small : n ≤ magnitudeLimit) :
    (BitVec.ofNat 128 n).negOverflow = false := by
  rw [BitVec.negOverflow, toInt_ofNat_of_le small, beq_eq_false_iff_ne]
  omega

/-- Reading in 128 bits finds the integers as they are, so that no minus sign overflows. -/
theorem readWideInt?_toInt (cs : List Char) :
    (readWideInt? cs).map BitVec.toInt = readInt? cs := by
  have small {cs : List Char} {n : Nat} (value : readMagnitude? cs = some n) :
      n ≤ magnitudeLimit := (readMagnitude?_eq_some_iff.1 value).2
  rcases minus_cases cs with ⟨rest, rfl⟩ | plain
  · rw [readInt?_minus, readWideInt?, readWideMagnitude?_eq, Option.map_map, Option.map_map]
    refine Option.map_congr fun n value => ?_
    have fits := negOverflow_ofNat (small value)
    calc (-BitVec.ofNat 128 n).toInt = -(BitVec.ofNat 128 n).toInt :=
          BitVec.toInt_neg_of_not_negOverflow (by rw [fits]; exact Bool.false_ne_true)
      _ = -n := by rw [toInt_ofNat_of_le (small value)]
  · rw [readInt?_plain plain, readWideInt?, readWideMagnitude?_eq, Option.map_map]
    · refine Option.map_congr fun n value => ?_
      exact toInt_ofNat_of_le (small value)
    · exact plain

/-! ## Types behind literals -/

theorem splitType?_eq_some_iff :
    splitType? word = some (type, body) ↔
      word = body ++ type.name.toList ∧
        ((type = .i32 ∨ type = .i64) ∨ isHexadecimal word = false) := by
  constructor
  · intro split
    obtain ⟨other, candidate, here⟩ := List.exists_of_findSome?_eq_some split
    obtain ⟨rest, dropped, same⟩ := Option.map_eq_some_iff.1 here
    obtain ⟨rfl, rfl⟩ := Prod.mk.inj same
    refine ⟨dropEnd?_eq_some_iff.1 dropped, ?_⟩
    rcases hexadecimal : isHexadecimal word with _ | _
    · exact Or.inr rfl
    · rw [hexadecimal] at candidate
      simpa [or_comm] using candidate
  · rintro ⟨rfl, allowed⟩
    exact splitType?_append body allowed

theorem toInt32?_eq_some_iff {v : Int32} :
    toInt32? i = some v ↔ (-2 ^ 31 ≤ i ∧ i < 2 ^ 32) ∧ Int32.ofInt i = v := by
  have lowest : Int32.minValue.toInt = -2 ^ 31 := by decide
  have size : ((UInt32.size : Nat) : Int) = 2 ^ 32 := by decide
  rw [toInt32?, Option.ite_none_right_eq_some, Option.some.injEq, lowest, size]

theorem toInt64?_eq_some_iff {v : Int64} :
    toInt64? i = some v ↔ (-2 ^ 63 ≤ i ∧ i < 2 ^ 64) ∧ Int64.ofInt i = v := by
  have lowest : Int64.minValue.toInt = -2 ^ 63 := by decide
  have size : ((UInt64.size : Nat) : Int) = 2 ^ 64 := by decide
  rw [toInt64?, Option.ite_none_right_eq_some, Option.some.injEq, lowest, size]

/-! ## Operands -/

/-- A letter or `_`, and letters, digits and `_` behind it. -/
def Identifier (word : List Char) : Prop :=
  ∃ c cs, word = c :: cs ∧ (c.isAlpha = true ∨ c = '_') ∧
    ∀ d ∈ cs, d.isAlphanum = true ∨ d = '_'

/-- Begins with `0x`, maybe after a minus sign. -/
def Hexadecimal (word : List Char) : Prop :=
  ∃ cs, word = "0x".toList ++ cs ∨ word = "-0x".toList ++ cs

theorem isName_iff : isName word = true ↔ Identifier word ∧ word ≠ "null".toList := by
  rcases word with _ | ⟨c, cs⟩
  · simp [isName, Identifier]
  · simp [isName, Identifier, and_assoc]

theorem isHexadecimal_iff : isHexadecimal word = true ↔ Hexadecimal word := by
  constructor
  · intro hexadecimal
    unfold isHexadecimal at hexadecimal
    split at hexadecimal
    · exact ⟨_, Or.inr rfl⟩
    · exact ⟨_, Or.inl rfl⟩
    · cases hexadecimal
  · rintro ⟨cs, rfl | rfl⟩
    · rfl
    · rfl

/-- The words that are operands, class by class.  The texts of floating-point numbers are taken from
    `Decimal.read?` as they are. -/
inductive Operand.Denoted : Operand → List Char → Prop
  | null : Denoted (.value (.handle .null)) "null".toList
  | var {word : List Char} (identifier : Identifier word) (other : word ≠ "null".toList) :
      Denoted (.var (String.ofList word)) word
  | int {i : Int} {cs : List Char} (number : Signed i cs) (small : i.natAbs ≤ 2 ^ 127 - 1) :
      Denoted (.int i) cs
  | i32 {i : Int} {cs : List Char} (number : Signed i cs) (range : -2 ^ 31 ≤ i ∧ i < 2 ^ 32) :
      Denoted (.value (.i32 (Int32.ofInt i))) (cs ++ "i32".toList)
  | i64 {i : Int} {cs : List Char} (number : Signed i cs) (range : -2 ^ 63 ≤ i ∧ i < 2 ^ 64) :
      Denoted (.value (.i64 (Int64.ofInt i))) (cs ++ "i64".toList)
  | f32 {bits : Nat} {cs : List Char} (text : Decimal.read? .single cs = some bits)
      (unnamed : ¬ Identifier (cs ++ "f32".toList)) (decimal : ¬ Hexadecimal (cs ++ "f32".toList)) :
      Denoted (.value (.f32 (UInt32.ofNat bits))) (cs ++ "f32".toList)
  | f64 {bits : Nat} {cs : List Char} (text : Decimal.read? .double cs = some bits)
      (unnamed : ¬ Identifier (cs ++ "f64".toList)) (decimal : ¬ Hexadecimal (cs ++ "f64".toList)) :
      Denoted (.value (.f64 (UInt64.ofNat bits))) (cs ++ "f64".toList)

theorem isHexadecimal_eq_false_iff : isHexadecimal word = false ↔ ¬ Hexadecimal word := by
  rw [← isHexadecimal_iff, Bool.not_eq_true]

/-- What stands before a float type that is split off. -/
theorem body_of_float (split : splitType? word = some (type, body))
    (float : ¬ (type = .i32 ∨ type = .i64)) :
    word = body ++ type.name.toList ∧ ¬ Hexadecimal word := by
  obtain ⟨whole, integer | decimal⟩ := splitType?_eq_some_iff.1 split
  · exact absurd integer float
  · exact ⟨whole, isHexadecimal_eq_false_iff.1 decimal⟩

theorem denoted_of_readLiteral? (unnamed : ¬ Identifier word)
    (read : readLiteral? word = some operand) : operand.Denoted word := by
  unfold readLiteral? at read
  split at read
  · rename_i body split
    obtain ⟨bits, text, rfl⟩ := Option.map_eq_some_iff.1 read
    obtain ⟨rfl, decimal⟩ := body_of_float split (by decide)
    exact .f32 text unnamed decimal
  · rename_i body split
    obtain ⟨bits, text, rfl⟩ := Option.map_eq_some_iff.1 read
    obtain ⟨rfl, decimal⟩ := body_of_float split (by decide)
    exact .f64 text unnamed decimal
  · rename_i body split
    obtain ⟨v, value, rfl⟩ := Option.map_eq_some_iff.1 read
    obtain ⟨i, number, fits⟩ := Option.bind_eq_some_iff.1 value
    obtain ⟨range, rfl⟩ := toInt64?_eq_some_iff.1 fits
    obtain ⟨rfl, _⟩ := splitType?_eq_some_iff.1 split
    exact .i64 (readInt?_eq_some_iff.1 number).1 range
  · rename_i body split
    obtain ⟨v, value, rfl⟩ := Option.map_eq_some_iff.1 read
    obtain ⟨i, number, fits⟩ := Option.bind_eq_some_iff.1 value
    obtain ⟨range, rfl⟩ := toInt32?_eq_some_iff.1 fits
    obtain ⟨rfl, _⟩ := splitType?_eq_some_iff.1 split
    exact .i32 (readInt?_eq_some_iff.1 number).1 range
  · obtain ⟨i, value, rfl⟩ := Option.map_eq_some_iff.1 read
    obtain ⟨number, small⟩ := readInt?_eq_some_iff.1 value
    exact .int number (magnitudeLimit_eq ▸ small)

theorem identifier_null : Identifier "null".toList := ⟨'n', "ull".toList, rfl, Or.inl rfl, by simp⟩

theorem readOperand?_of_not_identifier (unnamed : ¬ Identifier word) :
    readOperand? word = readLiteral? word := by
  have other : word ≠ "null".toList := by
    rintro rfl
    exact unnamed identifier_null
  rw [readOperand?, if_neg other, if_neg fun named => unnamed (isName_iff.1 named).1]

/-- Reading finds what a word denotes. -/
theorem readOperand?_eq_some_iff : readOperand? word = some operand ↔ operand.Denoted word := by
  constructor
  · intro read
    by_cases null : word = "null".toList
    · rw [readOperand?, if_pos null] at read
      rw [null, ← Option.some.inj read]
      exact .null
    by_cases identifier : Identifier word
    · rw [readOperand?, if_neg null, if_pos (isName_iff.2 ⟨identifier, null⟩)] at read
      rw [← Option.some.inj read]
      exact .var identifier null
    · rw [readOperand?_of_not_identifier identifier] at read
      exact denoted_of_readLiteral? identifier read
  · intro denoted
    have limit : 1 <<< 127 = 2 ^ 127 := by decide
    cases denoted with
    | null => rfl
    | var identifier other =>
      rw [readOperand?, if_neg other, if_pos (isName_iff.2 ⟨identifier, other⟩)]
    | int number small =>
      exact readOperand?_of_written (.int number) (show _ < 1 <<< 127 by omega)
    | i32 number range => exact readOperand?_of_written (.i32 number range.1 range.2) trivial
    | i64 number range => exact readOperand?_of_written (.i64 number range.1 range.2) trivial
    | @f32 bits cs text unnamed decimal =>
      have split : splitType? (cs ++ "f32".toList) = some (.f32, cs) :=
        @splitType?_append cs .f32 (Or.inr (isHexadecimal_eq_false_iff.2 decimal))
      rw [readOperand?_of_not_identifier unnamed, readLiteral?, split]
      exact congrArg (Option.map _) text
    | @f64 bits cs text unnamed decimal =>
      have split : splitType? (cs ++ "f64".toList) = some (.f64, cs) :=
        @splitType?_append cs .f64 (Or.inr (isHexadecimal_eq_false_iff.2 decimal))
      rw [readOperand?_of_not_identifier unnamed, readLiteral?, split]
      exact congrArg (Option.map _) text

/-- No word denotes two operands: the classes do not meet. -/
theorem Operand.Denoted.unique {other : Operand} (first : operand.Denoted word)
    (second : other.Denoted word) : operand = other := by
  have read := readOperand?_eq_some_iff.2 first
  rw [readOperand?_eq_some_iff.2 second] at read
  exact (Option.some.inj read).symm

/-- Reading finds what a word denotes, and refuses a word that denotes nothing.  The integers are
    those that 128 bits give, where the minus sign never overflows. -/
theorem operands_are_classified (word : List Char) :
    (∀ operand, readOperand word = .ok operand ↔ operand.Denoted word) ∧
    (∀ error, readOperand word = .error error ↔
      error = .invalidOperand (String.ofList word) ∧ ∀ operand : Operand, ¬ operand.Denoted word) ∧
    (∀ n, readWideMagnitude? word = some n → n.negOverflow = false) ∧
    (readWideInt? word).map BitVec.toInt = readInt? word := by
  have read : ∀ operand, readOperand word = .ok operand ↔ operand.Denoted word := by
    intro operand
    rw [← readOperand?_eq_some_iff, readOperand]
    rcases readOperand? word with _ | found
    · simp
    · simp
  refine ⟨read, fun error => ?_, fun n value => ?_, readWideInt?_toInt word⟩
  · have none : (∀ operand : Operand, ¬ operand.Denoted word) ↔ readOperand? word = none := by
      rw [Option.eq_none_iff_forall_ne_some]
      exact forall_congr' fun operand => not_congr readOperand?_eq_some_iff.symm
    rw [none, readOperand]
    rcases readOperand? word with _ | found
    · simp [eq_comm]
    · simp
  · rw [readWideMagnitude?_eq] at value
    obtain ⟨m, magnitude, rfl⟩ := Option.map_eq_some_iff.1 value
    exact negOverflow_ofNat (readMagnitude?_eq_some_iff.1 magnitude).2

/-- The digits of a hexadecimal number may look like a float type. -/
example : readOperand "0xff32".toList = .ok (.int 0xff32) := by decide

/-- A name may look like a float. -/
example : readOperand "inff32".toList = .ok (.var "inff32") := by decide

end Trace

end SegmentHeap
