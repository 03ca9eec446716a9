/-
  Traces as data: operands, commands and statements.

  A statement is one line of a trace: a command with its operands, optionally bound to a name.
  Nothing is resolved yet: a name may be unbound and an operand of the wrong type.
-/
import SegmentHeap.Value

namespace SegmentHeap.Trace

/-- An operand as it is written. -/
inductive Operand where
  | var (name : String)
  /-- An integer without a type; its use gives it one. -/
  | int (n : Int)
  /-- A literal with a type, or null. -/
  | value (value : Value)
deriving DecidableEq, Repr

inductive Command where
  | alloc (size : Operand)
  | free (handle : Operand)
  | slice (handle lo hi : Operand)
  | add (handle delta : Operand)
  | sub (handle delta : Operand)
  | dup (handle : Operand)
  | load (op : LoadOp) (handle : Operand)
  | store (op : StoreOp) (handle value : Operand)
  | encode (handle : Operand)
  | decode (word : Operand)
  | grow (extra : Operand)
  | copy (target source len : Operand)
  | reset
  | print (value : Operand)
deriving DecidableEq, Repr

namespace Command

/-- Whether the command yields a value that a name can be bound to. -/
def producesValue : Command → Bool
  | alloc .. | slice .. | add .. | sub .. | dup .. | load .. | encode .. | decode .. | grow .. =>
    true
  | free .. | store .. | copy .. | reset | print .. => false

/-- The word that a command starts with. -/
def mnemonic : Command → String
  | alloc .. => "alloc"
  | free .. => "free"
  | slice .. => "slice"
  | add .. => "add"
  | sub .. => "sub"
  | dup .. => "dup"
  | load op _ => "load." ++ op.mnemonic
  | store op _ _ => "store." ++ op.mnemonic
  | encode .. => "encode"
  | decode .. => "decode"
  | grow .. => "grow"
  | copy .. => "copy"
  | reset => "reset"
  | print .. => "print"

/-- The operands in the order in which they are written. -/
def operands : Command → List Operand
  | alloc size => [size]
  | free handle => [handle]
  | slice handle lo hi => [handle, lo, hi]
  | add handle delta => [handle, delta]
  | sub handle delta => [handle, delta]
  | dup handle => [handle]
  | load _ handle => [handle]
  | store _ handle value => [handle, value]
  | encode handle => [handle]
  | decode word => [word]
  | grow extra => [extra]
  | copy target source len => [target, source, len]
  | reset => []
  | print value => [value]

end Command

/-- One line of a trace. -/
structure Statement where
  /-- The number of the line, counted from 1. -/
  line : UInt32
  /-- The name that the value of the command is bound to. -/
  bind : Option String
  command : Command
deriving DecidableEq, Repr

end SegmentHeap.Trace
