/-
  How operands are written, and that reading finds them again.

  A number is written with its digits in base 10, or in base 16 after `0x`, maybe with zeros in
  front and with a minus sign before it (`Signed`).  An operand is a name, `null`, such a number, or
  one with `i32` or `i64` behind it, which may be any number of the signed or the unsigned range
  that has the bits of the value (`Operand.Written`).

  The forms do not meet.  A number begins with a digit or the sign, so it is no name.  It has no `i`
  in it, and no `f` unless it is hexadecimal, so that it does not end in a type
  (`splitType?_of_signed`).
-/
import SegmentHeap.Proofs.Trace.Layout
import SegmentHeap.Trace.Operand

namespace SegmentHeap

/-! ## Digits -/

namespace Numeral

/-- The digit of `d` in a base, in either case. -/
def Digit (base d : Nat) (c : Char) : Prop :=
  d < base ∧ (c = Nat.digitChar d ∨ c = (Nat.digitChar d).toUpper)

/-- The digits of `n` in a base, the highest first. -/
inductive Digits (base : Nat) : Nat → List Char → Prop
  | one {d : Nat} {c : Char} (digit : Digit base d c) : Digits base d [c]
  | snoc {n d : Nat} {c : Char} {cs : List Char} (digits : Digits base n cs)
      (digit : Digit base d c) : Digits base (base * n + d) (cs ++ [c])

variable {base n d : Nat} {c : Char} {cs : List Char}

/-- The sixteen digits in both cases. -/
theorem digits_read : ∀ d < 16, digit? (Nat.digitChar d) = some d ∧
    digit? (Nat.digitChar d).toUpper = some d := by
  decide

theorem Digit.digitIn? (digit : Digit base d c) (small : base ≤ 16) :
    Numeral.digitIn? base c = some d := by
  obtain ⟨below, written⟩ := digit
  obtain ⟨lower, upper⟩ := digits_read d (Nat.lt_of_lt_of_le below small)
  have value : digit? c = some d := by
    rcases written with rfl | rfl
    · exact lower
    · exact upper
  rw [Numeral.digitIn?, value, Option.filter_some, if_pos (decide_eq_true below)]

theorem readOnto_append (base m : Nat) (cs : List Char) (c : Char) :
    readOnto base m (cs ++ [c]) =
      (readOnto base m cs).bind fun n => (digitIn? base c).map fun d => base * n + d := by
  induction cs generalizing m with
  | nil =>
    rw [List.nil_append, readOnto, readOnto]
    rcases digitIn? base c with _ | d <;> rfl
  | cons first cs ih =>
    rw [List.cons_append, readOnto, readOnto]
    rcases digitIn? base first with _ | d
    · rfl
    · exact ih (base * m + d)

theorem Digits.readOnto (digits : Digits base n cs) (small : base ≤ 16) :
    readOnto base 0 cs = some n := by
  induction digits with
  | @one d c digit =>
    show (Numeral.digitIn? base c).bind (fun d => some (base * 0 + d)) = some d
    rw [digit.digitIn? small, Option.bind_some, Nat.mul_zero, Nat.zero_add]
  | snoc digits digit ih =>
    rw [readOnto_append, ih, digit.digitIn? small]
    rfl

theorem Digits.ne_nil (digits : Digits base n cs) : cs ≠ [] := by
  cases digits with
  | one digit => exact List.cons_ne_nil _ _
  | snoc digits digit => exact List.append_ne_nil_of_right_ne_nil _ (List.cons_ne_nil _ _)

theorem Digits.read? (digits : Digits base n cs) (small : base ≤ 16) :
    Numeral.read? base cs = some n := by
  have value := digits.readOnto small
  rcases cs with _ | ⟨c, cs⟩
  · exact absurd rfl digits.ne_nil
  · exact value

/-- Printing writes digits of the number. -/
theorem digits_toDigits (big : 1 < base) (n : Nat) : Digits base n (Nat.toDigits base n) := by
  induction n using Nat.strongRecOn with
  | ind n ih =>
    rw [Nat.toDigits_eq_if big]
    split
    · rename_i small
      exact .one ⟨small, Or.inl rfl⟩
    · have digits := ih (n / base) (Nat.div_lt_self (by omega) big)
      have digit : Digit base (n % base) (Nat.digitChar (n % base)) :=
        ⟨Nat.mod_lt n (by omega), Or.inl rfl⟩
      have whole := digits.snoc digit
      rwa [Nat.div_add_mod] at whole

/-! ## The characters of digits -/

theorem digits_char : ∀ d < 16,
    ((Nat.digitChar d).isAlphanum = true ∧ Nat.digitChar d ≠ 'i' ∧
      (d < 10 → (Nat.digitChar d).isDigit = true)) ∧
    ((Nat.digitChar d).toUpper.isAlphanum = true ∧ (Nat.digitChar d).toUpper ≠ 'i' ∧
      (d < 10 → (Nat.digitChar d).toUpper.isDigit = true)) := by
  decide

/-- The digits of a base are letters and digits, and none of them is an `i`. -/
theorem Digit.char (digit : Digit base d c) (small : base ≤ 16) :
    c.isAlphanum = true ∧ c ≠ 'i' ∧ (base ≤ 10 → c.isDigit = true) := by
  obtain ⟨below, written⟩ := digit
  obtain ⟨lower, upper⟩ := digits_char d (Nat.lt_of_lt_of_le below small)
  rcases written with rfl | rfl
  · exact ⟨lower.1, lower.2.1, fun ten => lower.2.2 (Nat.lt_of_lt_of_le below ten)⟩
  · exact ⟨upper.1, upper.2.1, fun ten => upper.2.2 (Nat.lt_of_lt_of_le below ten)⟩

theorem Digits.char (digits : Digits base n cs) (small : base ≤ 16) :
    ∀ c ∈ cs, c.isAlphanum = true ∧ c ≠ 'i' ∧ (base ≤ 10 → c.isDigit = true) := by
  induction digits with
  | one digit =>
    intro c listed
    rw [List.mem_singleton.1 listed]
    exact digit.char small
  | snoc digits digit ih =>
    intro c listed
    rcases List.mem_append.1 listed with there | there
    · exact ih c there
    · rw [List.mem_singleton.1 there]
      exact digit.char small

end Numeral

namespace Trace

open Numeral (Digits)

/-! ## Numbers -/

/-- A number without sign, in base 10 or 16. -/
inductive Unsigned : Nat → List Char → Prop
  | decimal {n : Nat} {cs : List Char} (digits : Digits 10 n cs) : Unsigned n cs
  | hexadecimal {n : Nat} {cs : List Char} (digits : Digits 16 n cs) : Unsigned n ('0' :: 'x' :: cs)

/-- A number, with a minus sign if it is negative. -/
inductive Signed : Int → List Char → Prop
  | plain {n : Nat} {cs : List Char} (number : Unsigned n cs) : Signed n cs
  | minus {n : Nat} {cs : List Char} (number : Unsigned n cs) : Signed (-n) ('-' :: cs)

variable {n : Nat} {i : Int} {cs word : List Char}

theorem readMagnitude?_of_unsigned (number : Unsigned n cs) (small : n ≤ magnitudeLimit) :
    readMagnitude? cs = some n := by
  cases number with
  | hexadecimal digits =>
    show (Numeral.read? 16 _).filter _ = some n
    rw [digits.read? (Nat.le_refl 16), Option.filter_some, if_pos (decide_eq_true small)]
  | decimal digits =>
    unfold readMagnitude?
    split
    · -- no digit in base 10 is an `x`
      rename_i rest
      have digit := (digits.char (by decide) 'x' (by simp)).2.2 (Nat.le_refl 10)
      exact absurd digit (by decide)
    · rw [digits.read? (by decide), Option.filter_some, if_pos (decide_eq_true small)]

theorem Unsigned.char (number : Unsigned n cs) : ∀ c ∈ cs, c.isAlphanum = true ∧ c ≠ 'i' := by
  cases number with
  | decimal digits =>
    intro c listed
    obtain ⟨plain, other, _⟩ := digits.char (by decide) c listed
    exact ⟨plain, other⟩
  | hexadecimal digits =>
    intro c listed
    simp only [List.mem_cons] at listed
    rcases listed with rfl | rfl | there
    · decide
    · decide
    · obtain ⟨plain, other, _⟩ := digits.char (Nat.le_refl 16) c there
      exact ⟨plain, other⟩

/-- A number without sign begins with a digit. -/
theorem Unsigned.first (number : Unsigned n cs) : ∃ c rest, cs = c :: rest ∧ c.isDigit = true := by
  cases number with
  | decimal digits =>
    obtain ⟨c, rest, rfl⟩ := List.exists_cons_of_ne_nil digits.ne_nil
    exact ⟨c, rest, rfl, (digits.char (by decide) c List.mem_cons_self).2.2 (Nat.le_refl 10)⟩
  | hexadecimal digits => exact ⟨'0', _, rfl, by decide⟩

theorem readInt?_of_signed (number : Signed i cs) (small : i.natAbs ≤ magnitudeLimit) :
    readInt? cs = some i := by
  cases number with
  | @minus n cs number =>
    rw [Int.natAbs_neg, Int.natAbs_natCast] at small
    rw [readInt?, readMagnitude?_of_unsigned number small]
    rfl
  | plain number =>
    rw [Int.natAbs_natCast] at small
    obtain ⟨c, rest, rfl, digit⟩ := number.first
    unfold readInt?
    split
    · rename_i same
      injection same with same
      subst same
      exact absurd digit (by decide)
    · rw [readMagnitude?_of_unsigned number small]
      rfl

theorem Signed.char (number : Signed i cs) :
    ∀ c ∈ cs, (c = '-' ∨ c.isAlphanum = true) ∧ c ≠ 'i' := by
  cases number with
  | plain number =>
    intro c listed
    obtain ⟨plain, other⟩ := number.char c listed
    exact ⟨Or.inr plain, other⟩
  | minus number =>
    intro c listed
    rcases List.mem_cons.1 listed with rfl | there
    · exact ⟨Or.inl rfl, by decide⟩
    · obtain ⟨plain, other⟩ := number.char c there
      exact ⟨Or.inr plain, other⟩

/-- A number begins with a digit or the minus sign. -/
theorem Signed.first (number : Signed i cs) :
    ∃ c rest, cs = c :: rest ∧ (c = '-' ∨ c.isDigit = true) := by
  cases number with
  | plain number =>
    obtain ⟨c, rest, same, digit⟩ := number.first
    exact ⟨c, rest, same, Or.inr digit⟩
  | minus number => exact ⟨'-', _, rfl, Or.inl rfl⟩

/-- Only a hexadecimal number has an `f` in it. -/
theorem Signed.hexadecimal_of_mem (number : Signed i cs) (listed : 'f' ∈ cs) :
    isHexadecimal cs = true := by
  have none {n : Nat} {cs : List Char} (digits : Digits 10 n cs) : 'f' ∉ cs := by
    intro there
    have digit := (digits.char (by decide) 'f' there).2.2 (Nat.le_refl 10)
    exact absurd digit (by decide)
  rcases number with ⟨⟨digits⟩ | digits⟩ | ⟨⟨digits⟩ | digits⟩
  · exact absurd listed (none digits)
  · rfl
  · refine absurd listed (List.not_mem_cons_of_ne_of_not_mem (by decide) (none digits))
  · rfl

/-! ## Types behind numbers -/

theorem dropEnd?_append {ending tail : List Char} (same : ending.length = tail.length)
    (cs : List Char) :
    dropEnd? ending (cs ++ tail) = if ending = tail then some cs else none := by
  have suffix : ending.isSuffixOf (cs ++ tail) = true ↔ ending = tail := by
    rw [List.isSuffixOf_iff_suffix]
    constructor
    · intro suffix
      exact (List.suffix_of_suffix_length_le suffix (List.suffix_append cs tail)
        (Nat.le_of_eq same)).eq_of_length same
    · rintro rfl
      exact List.suffix_append cs ending
  have front : (cs ++ tail).take ((cs ++ tail).length - ending.length) = cs := by
    rw [same, List.length_append, Nat.add_sub_cancel, List.take_left]
  unfold dropEnd?
  by_cases here : ending = tail
  · rw [if_pos (suffix.2 here), if_pos here, front]
  · rw [if_neg (mt suffix.1 here), if_neg here]

theorem dropEnd?_eq_some_iff {ending body : List Char} :
    dropEnd? ending word = some body ↔ word = body ++ ending := by
  constructor
  · intro dropped
    unfold dropEnd? at dropped
    split at dropped
    · rename_i suffix
      obtain ⟨front, rfl⟩ := List.isSuffixOf_iff_suffix.1 suffix
      rw [List.length_append, Nat.add_sub_cancel, List.take_left] at dropped
      rw [Option.some.inj dropped]
    · cases dropped
  · rintro rfl
    rw [dropEnd?_append rfl, if_pos rfl]

theorem dropEnd?_eq_none {ending : List Char} {c : Char} (listed : c ∈ ending) (absent : c ∉ word) :
    dropEnd? ending word = none := by
  refine if_neg fun suffix => absent ?_
  exact (List.isSuffixOf_iff_suffix.1 suffix).subset listed

/-- A number does not end in a type. -/
theorem splitType?_of_signed (number : Signed i cs) : splitType? cs = none := by
  have no_i : 'i' ∉ cs := fun listed => (number.char 'i' listed).2 rfl
  have no_i64 : dropEnd? Scalar.i64.name.toList cs = none := dropEnd?_eq_none (by decide) no_i
  have no_i32 : dropEnd? Scalar.i32.name.toList cs = none := dropEnd?_eq_none (by decide) no_i
  unfold splitType?
  -- the float types are looked for only if the number is not hexadecimal
  by_cases hexadecimal : isHexadecimal cs = true
  · simp [hexadecimal, no_i64, no_i32]
  · have no_f : 'f' ∉ cs := mt number.hexadecimal_of_mem hexadecimal
    have no_f32 : dropEnd? Scalar.f32.name.toList cs = none := dropEnd?_eq_none (by decide) no_f
    have no_f64 : dropEnd? Scalar.f64.name.toList cs = none := dropEnd?_eq_none (by decide) no_f
    simp [hexadecimal, no_i64, no_i32, no_f32, no_f64]

theorem length_name (type : Scalar) : type.name.toList.length = 3 := by
  cases type <;> rfl

theorem name_inj {type other : Scalar} (same : other.name.toList = type.name.toList) :
    other = type := by
  revert same
  cases other <;> cases type <;> decide

/-- A type is behind a word only if it is the one that stands there. -/
theorem dropEnd?_name (cs : List Char) (type other : Scalar) :
    dropEnd? other.name.toList (cs ++ type.name.toList) =
      if other = type then some cs else none := by
  rw [dropEnd?_append ((length_name other).trans (length_name type).symm)]
  by_cases same : other = type
  · rw [if_pos (congrArg (·.name.toList) same), if_pos same]
  · rw [if_neg (mt name_inj same), if_neg same]

/-- A type behind a word is split off, unless it is a float type and the word is hexadecimal. -/
theorem splitType?_append (cs : List Char) {type : Scalar}
    (allowed : (type = .i32 ∨ type = .i64) ∨ isHexadecimal (cs ++ type.name.toList) = false) :
    splitType? (cs ++ type.name.toList) = some (type, cs) := by
  unfold splitType?
  simp only [dropEnd?_name]
  -- of all types only its own one stands behind it, in whichever order they are looked for
  rcases hexadecimal : isHexadecimal (cs ++ type.name.toList) with _ | _
  · cases type <;> simp
  · rcases allowed with (rfl | rfl) | decimal
    · simp
    · simp
    · rw [decimal] at hexadecimal
      cases hexadecimal

/-! ## Operands -/

theorem isName_of_first {c : Char} (first : c = '-' ∨ c.isDigit = true) (rest : List Char) :
    isName (c :: rest) = false := by
  have start : (c.isAlpha || c == '_') = false := by
    rcases first with rfl | digit
    · decide
    have range := toNat_of_isDigit digit
    rw [Bool.or_eq_false_iff, Bool.eq_false_iff, beq_eq_false_iff_ne]
    refine ⟨fun letter => ?_, ?_⟩
    · have := toNat_of_isAlpha letter
      omega
    · rintro rfl
      exact absurd range (by decide)
  rw [isName, start]
  rfl

/-- How operands are written. -/
inductive Operand.Written : Operand → List Char → Prop
  | var (name : String) : Written (.var name) name.toList
  | null : Written (.value (.handle .null)) "null".toList
  | int {i : Int} {cs : List Char} (number : Signed i cs) : Written (.int i) cs
  | i32 {i : Int} {cs : List Char} (number : Signed i cs) (lower : -0x80000000 ≤ i)
      (upper : i < 0x100000000) :
      Written (.value (.i32 (Int32.ofInt i))) (cs ++ Scalar.i32.name.toList)
  | i64 {i : Int} {cs : List Char} (number : Signed i cs) (lower : -0x8000000000000000 ≤ i)
      (upper : i < 0x10000000000000000) :
      Written (.value (.i64 (Int64.ofInt i))) (cs ++ Scalar.i64.name.toList)

/-- The operands that can be written so: names, null, integers of less than 128 bits with their
    sign, and 32-bit and 64-bit integers. -/
def Operand.Proper : Operand → Prop
  | .var name => isName name.toList = true
  | .int i => i.natAbs < 1 <<< 127
  | .value (.i32 _) | .value (.i64 _) => True
  | .value (.handle handle) => handle = .null
  | .value (.f32 _) | .value (.f64 _) => False

variable {operand : Operand}

theorem readOperand?_of_first {c : Char} (first : c = '-' ∨ c.isDigit = true) (rest : List Char) :
    readOperand? (c :: rest) = readLiteral? (c :: rest) := by
  have other : c :: rest ≠ "null".toList := by
    intro same
    injection same with same
    subst same
    exact absurd first (by decide)
  rw [readOperand?, if_neg other, isName_of_first first]
  rfl

theorem readOperand?_of_signed (number : Signed i cs) (tail : List Char) :
    readOperand? (cs ++ tail) = readLiteral? (cs ++ tail) := by
  obtain ⟨c, rest, rfl, first⟩ := number.first
  exact readOperand?_of_first first _

/-- What is written is read. -/
theorem readOperand?_of_written (written : operand.Written word) (proper : operand.Proper) :
    readOperand? word = some operand := by
  have limit : magnitudeLimit = 0x7FFFFFFFFFFFFFFFFFFFFFFFFFFFFFFF := by decide
  cases written with
  | var name =>
    have named : isName name.toList = true := proper
    have other : name.toList ≠ "null".toList := by
      intro same
      rw [same] at named
      exact absurd named (by decide)
    rw [readOperand?, if_neg other, if_pos named, String.ofList_toList]
  | null => rfl
  | @int i _ number =>
    have value := readInt?_of_signed number (Nat.le_sub_one_of_lt proper)
    obtain ⟨c, rest, rfl, first⟩ := number.first
    rw [readOperand?_of_first first, readLiteral?, splitType?_of_signed number]
    simp only [value, Option.map_some]
  | @i32 i cs number lower upper =>
    have value := readInt?_of_signed number (by omega)
    have typed : toInt32? i = some (Int32.ofInt i) := if_pos ⟨lower, upper⟩
    have split := splitType?_append cs (Or.inl (Or.inl rfl))
    rw [readOperand?_of_signed number, readLiteral?, split]
    simp only [value, Option.bind_some, typed, Option.map_some]
  | @i64 i cs number lower upper =>
    have value := readInt?_of_signed number (by omega)
    have typed : toInt64? i = some (Int64.ofInt i) := if_pos ⟨lower, upper⟩
    have split := splitType?_append cs (Or.inl (Or.inr rfl))
    rw [readOperand?_of_signed number, readLiteral?, split]
    simp only [value, Option.bind_some, typed, Option.map_some]

/-! ## Operands as words -/

theorem word_of_isName (named : isName word = true) : Word word := by
  have nameChar {c : Char} (plain : (c.isAlphanum || c == '_') = true) : WordChar c := by
    rw [Bool.or_eq_true, beq_iff_eq] at plain
    rcases plain with plain | rfl
    · exact wordChar_of_isAlphanum plain
    · decide
  rcases word with _ | ⟨c, cs⟩
  · cases named
  rw [isName, Bool.and_eq_true, Bool.and_eq_true] at named
  obtain ⟨⟨first, rest⟩, _⟩ := named
  refine ⟨List.cons_ne_nil c cs, fun d listed => ?_⟩
  rcases List.mem_cons.1 listed with rfl | there
  · refine nameChar ?_
    rw [Bool.or_eq_true] at first ⊢
    exact first.imp_left fun letter => by rw [Char.isAlphanum, letter, Bool.true_or]
  · exact nameChar (List.all_eq_true.1 rest d there)

theorem Signed.word_append (number : Signed i cs) {tail : List Char} (solid : Solid tail) :
    Word (cs ++ tail) := by
  obtain ⟨first, rest, same, _⟩ := number.first
  refine ⟨?_, fun c listed => ?_⟩
  · rw [same]
    exact List.cons_ne_nil _ _
  · rcases List.mem_append.1 listed with there | there
    · rcases (number.char c there).1 with rfl | plain
      · decide
      · exact wordChar_of_isAlphanum plain
    · exact solid c there

theorem Operand.Written.word_of_proper (written : operand.Written word) (proper : operand.Proper) :
    Word word := by
  cases written with
  | var name => exact word_of_isName proper
  | null => decide
  | int number =>
    have whole : Word (word ++ []) := number.word_append (by decide)
    rw [List.append_nil] at whole
    exact whole
  | i32 number => exact number.word_append (by decide)
  | i64 number => exact number.word_append (by decide)

/-- Every number can be written. -/
theorem exists_signed (i : Int) : ∃ cs, Signed i cs := by
  have digits := Numeral.digits_toDigits (by decide : 1 < 10) i.natAbs
  rcases Int.natAbs_eq i with positive | negative
  · rw [positive]
    exact ⟨_, .plain (.decimal digits)⟩
  · rw [negative]
    exact ⟨_, .minus (.decimal digits)⟩

/-- Every proper operand can be written. -/
theorem Operand.exists_written (proper : operand.Proper) : ∃ word, operand.Written word := by
  rcases operand with name | i | value
  · exact ⟨_, .var name⟩
  · obtain ⟨cs, number⟩ := exists_signed i
    exact ⟨_, .int number⟩
  rcases value with v | v | bits | bits | handle
  · obtain ⟨cs, number⟩ := exists_signed v.toInt
    have := v.le_toInt
    have := v.toInt_lt
    rw [← Int32.ofInt_toInt v]
    exact ⟨_, .i32 number (by omega) (by omega)⟩
  · obtain ⟨cs, number⟩ := exists_signed v.toInt
    have := v.le_toInt
    have := v.toInt_lt
    rw [← Int64.ofInt_toInt v]
    exact ⟨_, .i64 number (by omega) (by omega)⟩
  · exact proper.elim
  · exact proper.elim
  · obtain rfl : handle = .null := proper
    exact ⟨_, .null⟩

end Trace

end SegmentHeap
