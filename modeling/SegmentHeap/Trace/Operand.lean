/-
  Reading operands and the types of loads and stores.

  An operand is `null`, a name, or a literal.  An integer literal is decimal, or hexadecimal after
  `0x`, with an optional minus sign in front; with `i32` or `i64` behind it, it has that type and
  may lie in the signed or the unsigned range.  A floating-point literal is a decimal text with
  `f32` or `f64` behind it.  A hexadecimal literal has no floating-point type, since `f` is a digit
  there.

  A load or a store names its type, and after `_` the bits of a narrow access: `i32`, `i64_16u`,
  `i32_8`.  A load of narrow bits ends in the letter of its extension.  A store has no letter, and
  without bits after the `_` it is the full one: `i32_` stores what `i32` does.
-/
import SegmentHeap.Decimal.Reading
import SegmentHeap.Trace.Command
import SegmentHeap.Trace.Text

namespace SegmentHeap.Trace

/-! ## Integers -/

/-- The largest magnitude of a written integer. -/
def magnitudeLimit : Nat := (1 <<< 127) - 1

/-- An integer without sign. -/
def readMagnitude? (cs : List Char) : Option Nat :=
  (match cs with
    | '0' :: 'x' :: digits => Numeral.read? 16 digits
    | digits => Numeral.read? 10 digits).filter (· ≤ magnitudeLimit)

/-- An integer with an optional minus sign. -/
def readInt? : List Char → Option Int
  | '-' :: cs => (readMagnitude? cs).map fun n => -(n : Int)
  | cs => (readMagnitude? cs).map fun n => (n : Int)

/-! ## Literals -/

/-- A word without the given end. -/
def dropEnd? (ending word : List Char) : Option (List Char) :=
  if ending.isSuffixOf word then some (word.take (word.length - ending.length)) else none

/-- Whether a word is written in base 16. -/
def isHexadecimal : List Char → Bool
  | '-' :: '0' :: 'x' :: _ => true
  | '0' :: 'x' :: _ => true
  | _ => false

/-- The type behind a literal and the literal without it. -/
def splitType? (word : List Char) : Option (Scalar × List Char) :=
  let candidates := if isHexadecimal word then [.i64, .i32] else [.f32, .f64, .i64, .i32]
  candidates.findSome? fun type => (dropEnd? type.name.toList word).map fun body => (type, body)

/-- A literal. -/
def readLiteral? (word : List Char) : Option Operand :=
  match splitType? word with
  | some (.f32, body) =>
    (Decimal.read? .single body).map fun bits => .value (.f32 (UInt32.ofNat bits))
  | some (.f64, body) =>
    (Decimal.read? .double body).map fun bits => .value (.f64 (UInt64.ofNat bits))
  | some (.i64, body) => ((readInt? body).bind toInt64?).map fun v => .value (.i64 v)
  | some (.i32, body) => ((readInt? body).bind toInt32?).map fun v => .value (.i32 v)
  | none => (readInt? word).map .int

/-- An operand.  A name comes before a literal, so `inff32` is a name. -/
def readOperand? (word : List Char) : Option Operand :=
  if word = "null".toList then some (.value (.handle .null))
  else if isName word then some (.var (String.ofList word))
  else readLiteral? word

/-! ## Types of loads and stores -/

def readScalar? (cs : List Char) : Option Scalar :=
  [Scalar.i32, .i64, .f32, .f64].find? (fun type => type.name.toList == cs)

def readNarrow32? (cs : List Char) : Option Narrow32 :=
  [Narrow32.bits8, .bits16].find? (fun narrow => narrow.digits.toList == cs)

def readNarrow64? (cs : List Char) : Option Narrow64 :=
  [Narrow64.bits8, .bits16, .bits32].find? (fun narrow => narrow.digits.toList == cs)

/-- The letter at the end of a narrow load. -/
def readExtension? (c : Char) : Option Extension :=
  if c = 's' then some .signed else if c = 'u' then some .unsigned else none

/-- The load that a trace names by its type. -/
def readLoad? (cs : List Char) : Option LoadOp :=
  let type := cs.takeWhile (· ≠ '_')
  match cs.dropWhile (· ≠ '_') with
  | [] => if type = "handle".toList then some .handle else (readScalar? type).map (.data <| .full ·)
  | _ :: narrow => do
    let extension ← narrow.getLast?.bind readExtension?
    match ← readScalar? type with
    | .i32 => (readNarrow32? narrow.dropLast).map fun bits => .data (.i32 bits extension)
    | .i64 => (readNarrow64? narrow.dropLast).map fun bits => .data (.i64 bits extension)
    | .f32 | .f64 => none

/-- The store that a trace names by its type. -/
def readStore? (cs : List Char) : Option StoreOp :=
  let type := cs.takeWhile (· ≠ '_')
  match cs.dropWhile (· ≠ '_') with
  | [] | [_] =>
    if type = "handle".toList then some .handle else (readScalar? type).map (.data <| .full ·)
  | _ :: narrow => do
    match ← readScalar? type with
    | .i32 => (readNarrow32? narrow).map fun bits => .data (.i32 bits)
    | .i64 => (readNarrow64? narrow).map fun bits => .data (.i64 bits)
    | .f32 | .f64 => none

end SegmentHeap.Trace
