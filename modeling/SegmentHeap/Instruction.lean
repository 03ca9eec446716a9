/-
  The load and store instructions of segment memory.

  There are fifteen loads and ten stores.  A narrow load reads fewer bytes than its type has and
  extends them with or without sign; a narrow store writes the low bytes only.  Each instruction has
  a name (`i64.load16_u`, `i32.store8`) and, in traces, a shorter mnemonic (`i64_16u`, `i32_8`).

  The number that an access moves has so many `bits`, which make a `count` of bytes.  The `width` of
  an instruction is what a trap says of it.  These are two tables, and they agree
  (`count_eq_width`).
-/

namespace SegmentHeap

/-! ## Types and widths -/

/-- The number types. -/
inductive Scalar where
  | i32 | i64 | f32 | f64
deriving DecidableEq, Repr

namespace Scalar

def name : Scalar → String
  | i32 => "i32" | i64 => "i64" | f32 => "f32" | f64 => "f64"

def bits : Scalar → Nat
  | i32 => 32 | i64 => 64 | f32 => 32 | f64 => 64

def width : Scalar → Nat
  | i32 => 4 | i64 => 8 | f32 => 4 | f64 => 8

end Scalar

/-- The widths in bits that are narrower than 32. -/
inductive Narrow32 where
  | bits8 | bits16
deriving DecidableEq, Repr

/-- The widths in bits that are narrower than 64. -/
inductive Narrow64 where
  | bits8 | bits16 | bits32
deriving DecidableEq, Repr

namespace Narrow32

def bits : Narrow32 → Nat
  | bits8 => 8 | bits16 => 16

def width : Narrow32 → Nat
  | bits8 => 1 | bits16 => 2

def digits : Narrow32 → String
  | bits8 => "8" | bits16 => "16"

end Narrow32

namespace Narrow64

def bits : Narrow64 → Nat
  | bits8 => 8 | bits16 => 16 | bits32 => 32

def width : Narrow64 → Nat
  | bits8 => 1 | bits16 => 2 | bits32 => 4

def digits : Narrow64 → String
  | bits8 => "8" | bits16 => "16" | bits32 => "32"

end Narrow64

/-- How a narrow load fills the rest of its type. -/
inductive Extension where
  | signed | unsigned
deriving DecidableEq, Repr

def Extension.letter : Extension → String
  | signed => "s" | unsigned => "u"

/-! ## Loads -/

/-- A load of a number. -/
inductive DataLoad where
  | full (type : Scalar)
  | i32 (width : Narrow32) (extension : Extension)
  | i64 (width : Narrow64) (extension : Extension)
deriving DecidableEq, Repr

/-- A load of a number or of a handle. -/
inductive LoadOp where
  | data (op : DataLoad)
  | handle
deriving DecidableEq, Repr

namespace DataLoad

/-- The bits of the number in memory. -/
def bits : DataLoad → Nat
  | full type => type.bits
  | i32 narrow _ => narrow.bits
  | i64 narrow _ => narrow.bits

/-- The bytes that are read. -/
def count (op : DataLoad) : Nat := op.bits / 8

/-- The bytes that a trap tells. -/
def width : DataLoad → Nat
  | full type => type.width
  | i32 narrow _ => narrow.width
  | i64 narrow _ => narrow.width

def name : DataLoad → String
  | full type => type.name ++ ".load"
  | i32 narrow extension => "i32.load" ++ narrow.digits ++ "_" ++ extension.letter
  | i64 narrow extension => "i64.load" ++ narrow.digits ++ "_" ++ extension.letter

def mnemonic : DataLoad → String
  | full type => type.name
  | i32 narrow extension => "i32_" ++ narrow.digits ++ extension.letter
  | i64 narrow extension => "i64_" ++ narrow.digits ++ extension.letter

def all : List DataLoad :=
  [full .i32, full .i64, full .f32, full .f64,
    i32 .bits8 .signed, i32 .bits8 .unsigned, i32 .bits16 .signed, i32 .bits16 .unsigned,
    i64 .bits8 .signed, i64 .bits8 .unsigned, i64 .bits16 .signed, i64 .bits16 .unsigned,
    i64 .bits32 .signed, i64 .bits32 .unsigned]

theorem mem_all (op : DataLoad) : op ∈ all := by
  rcases op with t | ⟨w, e⟩ | ⟨w, e⟩
  · cases t <;> decide
  · cases w <;> cases e <;> decide
  · cases w <;> cases e <;> decide

/-- A load reads the bytes that its trap tells. -/
theorem count_eq_width (op : DataLoad) : op.count = op.width := by
  rcases op with t | ⟨w, e⟩ | ⟨w, e⟩
  · cases t <;> rfl
  · cases w <;> cases e <;> rfl
  · cases w <;> cases e <;> rfl

end DataLoad

namespace LoadOp

/-- The bytes that a trap tells. -/
def width : LoadOp → Nat
  | data op => op.width
  | handle => 8

/-- The instruction name. -/
def name : LoadOp → String
  | data op => op.name
  | handle => "handle.load"

/-- The type of the load as a trace writes it. -/
def mnemonic : LoadOp → String
  | data op => op.mnemonic
  | handle => "handle"

def all : List LoadOp := DataLoad.all.map data ++ [handle]

theorem mem_all (op : LoadOp) : op ∈ all := by
  cases op with
  | data op => simp [all, DataLoad.mem_all op]
  | handle => simp [all]

/-- The load with the given instruction name. -/
def ofName? (name : String) : Option LoadOp := all.find? (fun op => op.name == name)

end LoadOp

/-! ## Stores -/

/-- A store of a number. -/
inductive DataStore where
  | full (type : Scalar)
  | i32 (width : Narrow32)
  | i64 (width : Narrow64)
deriving DecidableEq, Repr

/-- A store of a number or of a handle. -/
inductive StoreOp where
  | data (op : DataStore)
  | handle
deriving DecidableEq, Repr

namespace DataStore

/-- The bits of the number in memory. -/
def bits : DataStore → Nat
  | full type => type.bits
  | i32 narrow => narrow.bits
  | i64 narrow => narrow.bits

/-- The bytes that are written. -/
def count (op : DataStore) : Nat := op.bits / 8

/-- The bytes that a trap tells. -/
def width : DataStore → Nat
  | full type => type.width
  | i32 narrow => narrow.width
  | i64 narrow => narrow.width

/-- The type of the operand. -/
def operand : DataStore → Scalar
  | full type => type
  | i32 _ => .i32
  | i64 _ => .i64

def name : DataStore → String
  | full type => type.name ++ ".store"
  | i32 narrow => "i32.store" ++ narrow.digits
  | i64 narrow => "i64.store" ++ narrow.digits

def mnemonic : DataStore → String
  | full type => type.name
  | i32 narrow => "i32_" ++ narrow.digits
  | i64 narrow => "i64_" ++ narrow.digits

def all : List DataStore :=
  [full .i32, full .i64, full .f32, full .f64, i32 .bits8, i32 .bits16,
    i64 .bits8, i64 .bits16, i64 .bits32]

theorem mem_all (op : DataStore) : op ∈ all := by
  rcases op with t | w | w
  · cases t <;> decide
  · cases w <;> decide
  · cases w <;> decide

/-- A store writes the bytes that its trap tells. -/
theorem count_eq_width (op : DataStore) : op.count = op.width := by
  rcases op with t | w | w
  · cases t <;> rfl
  · cases w <;> rfl
  · cases w <;> rfl

end DataStore

namespace StoreOp

/-- The bytes that a trap tells. -/
def width : StoreOp → Nat
  | data op => op.width
  | handle => 8

/-- The instruction name. -/
def name : StoreOp → String
  | data op => op.name
  | handle => "handle.store"

/-- The type of the store as a trace writes it. -/
def mnemonic : StoreOp → String
  | data op => op.mnemonic
  | handle => "handle"

def all : List StoreOp := DataStore.all.map data ++ [handle]

theorem mem_all (op : StoreOp) : op ∈ all := by
  cases op with
  | data op => simp [all, DataStore.mem_all op]
  | handle => simp [all]

/-- The store with the given instruction name. -/
def ofName? (name : String) : Option StoreOp := all.find? (fun op => op.name == name)

end StoreOp

end SegmentHeap
