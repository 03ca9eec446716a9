/-
  Reading a trace.

  A line is `command operand …` or `name = command operand …`; a line without words says nothing.
  Reading is line by line and stops at the first line that is wrong.  Of two faults in one line, the
  name comes first, then the command, then the number of operands, then the operands from left to
  right, and last a name given to what is no value.

  Lines are numbered from 1, and numbers have 32 bits.  A line for which there is no number is
  wrong, whatever it says.
-/
import SegmentHeap.Trace.Operand

namespace SegmentHeap.Trace

/-- What is wrong with a line. -/
inductive SyntaxError where
  | invalidName (name : String)
  | missingCommand
  | unknownCommand (mnemonic : String)
  | unknownLoad (mnemonic : String)
  | unknownStore (mnemonic : String)
  | wrongCount (mnemonic : String) (expected actual : Nat)
  | invalidOperand (word : String)
  /-- A name for a command that yields no value. -/
  | nothingToBind (mnemonic : String)
deriving DecidableEq, Repr

def SyntaxError.message : SyntaxError → String
  | invalidName name => s!"`{name}` is not a valid name"
  | missingCommand => "missing command after `=`"
  | unknownCommand mnemonic => s!"unknown command `{mnemonic}`"
  | unknownLoad mnemonic => s!"unknown load `{mnemonic}`"
  | unknownStore mnemonic => s!"unknown store `{mnemonic}`"
  | wrongCount mnemonic expected actual =>
      s!"`{mnemonic}` takes {expected} operand(s), got {actual}"
  | invalidOperand word => s!"invalid operand `{word}`"
  | nothingToBind mnemonic => s!"`{mnemonic}` produces no value to bind"

/-- What is wrong with a trace. -/
inductive ParseError where
  | atLine (line : UInt32) (cause : SyntaxError)
  /-- There are more lines than numbers. -/
  | tooManyLines
deriving DecidableEq, Repr

/-! ## Commands -/

/-- A command without its operands. -/
inductive Form where
  | nullary (build : Command)
  | unary (build : Operand → Command)
  | binary (build : Operand → Operand → Command)
  | ternary (build : Operand → Operand → Operand → Command)

/-- The commands that are single words. -/
def forms : List (String × Form) :=
  [("alloc", .unary .alloc), ("free", .unary .free), ("slice", .ternary .slice),
    ("add", .binary .add), ("sub", .binary .sub), ("dup", .unary .dup),
    ("encode", .unary .encode), ("decode", .unary .decode), ("grow", .unary .grow),
    ("copy", .ternary .copy), ("reset", .nullary .reset), ("print", .unary .print)]

/-- A word without the given start. -/
def dropStart? (start word : List Char) : Option (List Char) :=
  if start.isPrefixOf word then some (word.drop start.length) else none

/-- The form of a command from its first word. -/
def readForm (word : List Char) : Except SyntaxError Form :=
  match dropStart? "load.".toList word, dropStart? "store.".toList word with
  | some type, _ =>
    match readLoad? type with
    | some op => .ok (.unary (.load op))
    | none => .error (.unknownLoad (String.ofList word))
  | none, some type =>
    match readStore? type with
    | some op => .ok (.binary (.store op))
    | none => .error (.unknownStore (String.ofList word))
  | none, none =>
    match forms.lookup (String.ofList word) with
    | some form => .ok form
    | none => .error (.unknownCommand (String.ofList word))

def readOperand (word : List Char) : Except SyntaxError Operand :=
  match readOperand? word with
  | some operand => .ok operand
  | none => .error (.invalidOperand (String.ofList word))

/-- The command that a form makes of its operands. -/
def Form.apply (mnemonic : String) (args : List (List Char)) (form : Form) :
    Except SyntaxError Command :=
  match form, args with
  | nullary build, [] => .ok build
  | unary build, [a] => do
    let a ← readOperand a
    return build a
  | binary build, [a, b] => do
    let a ← readOperand a
    let b ← readOperand b
    return build a b
  | ternary build, [a, b, c] => do
    let a ← readOperand a
    let b ← readOperand b
    let c ← readOperand c
    return build a b c
  | nullary _, _ => .error (.wrongCount mnemonic 0 args.length)
  | unary _, _ => .error (.wrongCount mnemonic 1 args.length)
  | binary _, _ => .error (.wrongCount mnemonic 2 args.length)
  | ternary _, _ => .error (.wrongCount mnemonic 3 args.length)

def readCommand (word : List Char) (args : List (List Char)) : Except SyntaxError Command := do
  let form ← readForm word
  form.apply (String.ofList word) args

/-! ## Statements -/

/-- The statement that the words of a line make, if there are any. -/
def readStatement (line : UInt32) : List (List Char) → Except SyntaxError (Option Statement)
  | [] => .ok none
  | name :: ['='] :: rest =>
    if isName name then
      match rest with
      | [] => .error .missingCommand
      | word :: args => do
        let command ← readCommand word args
        if command.producesValue then
          return some { line, bind := some (String.ofList name), command }
        else
          throw (.nothingToBind (String.ofList word))
    else .error (.invalidName (String.ofList name))
  | word :: args => do
    let command ← readCommand word args
    return some { line, bind := none, command }

/-- The number of a line, if 32 bits are enough for it. -/
def lineNumber? (n : Nat) : Option UInt32 :=
  if n < UInt32.size then some (UInt32.ofNat n) else none

theorem lineNumber?_of_lt {n : Nat} (small : n < UInt32.size) :
    lineNumber? n = some (UInt32.ofNat n) := if_pos small

theorem lineNumber?_of_le {n : Nat} (large : UInt32.size ≤ n) : lineNumber? n = none :=
  if_neg (Nat.not_lt_of_le large)

/-- The statements of consecutive lines, counted from the given number on. -/
def readLines (n : Nat) : List (List Char) → Except ParseError (List Statement)
  | [] => .ok []
  | line :: rest =>
    match lineNumber? n with
    | none => .error .tooManyLines
    | some number =>
      match readStatement number (words (code line)) with
      | .error cause => .error (.atLine number cause)
      | .ok none => readLines (n + 1) rest
      | .ok (some statement) => (readLines (n + 1) rest).map (statement :: ·)

/-- The statements of a trace. -/
def parse (text : String) : Except ParseError (List Statement) := readLines 1 (lines text.toList)

end SegmentHeap.Trace
