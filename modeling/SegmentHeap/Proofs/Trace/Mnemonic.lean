/-
  The mnemonics of loads and stores.

  The mnemonic of a full access is its type; that of a narrow one has `_` and the bits behind it,
  and for a load the letter of its extension.  The type in a command is cut at its first `_`, and is
  the mnemonic of a load exactly if it is read as one (`readLoad?_eq_some_iff`).  Stores are not
  read as strictly: a full one may have a `_` with nothing behind it (`readStore?_eq_some_iff`).

  Why that is so is seen from the instruction names.  The type of a command spells a name
  (`loadName?`, `storeName`), and what is read is the instruction of that name.  The name of a load
  always tells its type.  The name of a store does not tell a `_` that no bits follow.
-/
import SegmentHeap.Proofs.Trace.Rendering

namespace SegmentHeap

open Trace

/-! ## Instructions by name -/

/-- A list in which every element is the first of its name finds the one that is named. -/
theorem find?_eq_some_iff_of_first {α β : Type} [BEq β] [LawfulBEq β] {f : α → β} {all : List α}
    (first : ∀ a, all.find? (fun x => f x == f a) = some a) {a : α} {b : β} :
    all.find? (fun x => f x == b) = some a ↔ b = f a := by
  constructor
  · intro found
    have same := List.find?_some found
    exact (beq_iff_eq.1 same).symm
  · rintro rfl
    exact first a

theorem LoadOp.ofName?_eq_some_iff {name : String} {op : LoadOp} :
    LoadOp.ofName? name = some op ↔ name = op.name := by
  have all : ∀ op ∈ LoadOp.all, LoadOp.ofName? op.name = some op := by decide
  exact find?_eq_some_iff_of_first fun op => all op op.mem_all

theorem StoreOp.ofName?_eq_some_iff {name : String} {op : StoreOp} :
    StoreOp.ofName? name = some op ↔ name = op.name := by
  have all : ∀ op ∈ StoreOp.all, StoreOp.ofName? op.name = some op := by decide
  exact find?_eq_some_iff_of_first fun op => all op op.mem_all

/-- The store takes in all of its type. -/
def StoreOp.isFull : StoreOp → Bool
  | .data (.full _) | .handle => true
  | .data (.i32 _) | .data (.i64 _) => false

namespace Trace

variable {cs narrow word : List Char} {c : Char} {args : List (List Char)}

/-! ## The parts of a type -/

/-- What is cut at the first `_` has one there. -/
theorem eq_underscore_of_dropWhile (rest : cs.dropWhile (· ≠ '_') = c :: narrow) : c = '_' := by
  have first := List.head?_dropWhile_not (· ≠ '_') cs
  rw [rest] at first
  simpa using first

theorem readScalar?_eq_some_iff {scalar : Scalar} :
    readScalar? cs = some scalar ↔ cs = scalar.name.toList := by
  have first : ∀ scalar : Scalar, readScalar? scalar.name.toList = some scalar := by
    intro scalar
    cases scalar <;> decide
  exact find?_eq_some_iff_of_first first

theorem readNarrow32?_eq_some_iff {bits : Narrow32} :
    readNarrow32? cs = some bits ↔ cs = bits.digits.toList := by
  have first : ∀ bits : Narrow32, readNarrow32? bits.digits.toList = some bits := by
    intro bits
    cases bits <;> decide
  exact find?_eq_some_iff_of_first first

theorem readNarrow64?_eq_some_iff {bits : Narrow64} :
    readNarrow64? cs = some bits ↔ cs = bits.digits.toList := by
  have first : ∀ bits : Narrow64, readNarrow64? bits.digits.toList = some bits := by
    intro bits
    cases bits <;> decide
  exact find?_eq_some_iff_of_first first

theorem readExtension?_eq_some_iff {extension : Extension} :
    readExtension? c = some extension ↔ [c] = extension.letter.toList := by
  unfold readExtension?
  cases extension
  · by_cases same : c = 's' <;> simp [same, Extension.letter]
  · by_cases same : c = 's' <;> simp [same, Extension.letter]

/-- The type of a full access is that of handles or a scalar type. -/
theorem full_cases {α : Type} {handle : α} {full : Scalar → α} {op : α}
    (read : (if cs = "handle".toList then some handle else (readScalar? cs).map full) = some op) :
    (cs = "handle".toList ∧ handle = op) ∨
      ∃ scalar, cs = scalar.name.toList ∧ full scalar = op := by
  by_cases type : cs = "handle".toList
  · rw [if_pos type] at read
    exact Or.inl ⟨type, Option.some.inj read⟩
  · rw [if_neg type] at read
    obtain ⟨scalar, found, same⟩ := Option.map_eq_some_iff.1 read
    exact Or.inr ⟨scalar, readScalar?_eq_some_iff.1 found, same⟩

/-- A type is that of a full access, or of a narrow one with what stands behind the first `_`. -/
theorem cut_cases (cs : List Char) :
    (cs.takeWhile (· ≠ '_') = cs ∧ cs.dropWhile (· ≠ '_') = []) ∨
    ∃ narrow, cs = cs.takeWhile (· ≠ '_') ++ '_' :: narrow ∧
      cs.dropWhile (· ≠ '_') = '_' :: narrow := by
  have whole := List.takeWhile_append_dropWhile (p := (· ≠ '_')) (l := cs)
  rcases rest : cs.dropWhile (· ≠ '_') with _ | ⟨c, narrow⟩
  · rw [rest, List.append_nil] at whole
    exact Or.inl ⟨whole, rfl⟩
  · obtain rfl := eq_underscore_of_dropWhile rest
    rw [rest] at whole
    exact Or.inr ⟨narrow, whole.symm, rfl⟩

/-! ## Loads -/

theorem mnemonic_of_readLoad? {op : LoadOp} (read : readLoad? cs = some op) :
    cs = op.mnemonic.toList := by
  unfold readLoad? at read
  rcases cut_cases cs with ⟨whole, rest⟩ | ⟨narrow, whole, rest⟩
  · simp only [rest, whole] at read
    rcases full_cases read with ⟨type, rfl⟩ | ⟨scalar, type, rfl⟩
    · exact type
    · exact type
  · rw [whole]
    simp only [rest, Option.bind_eq_bind, Option.bind_eq_some_iff] at read
    obtain ⟨extension, ⟨c, last, letter⟩, scalar, type, read⟩ := read
    have front : narrow.dropLast ++ [c] = narrow := List.dropLast_append_getLast? c last
    rw [readExtension?_eq_some_iff] at letter
    rw [readScalar?_eq_some_iff] at type
    rw [type, ← front, letter]
    rcases scalar with _ | _ | _ | _
    · obtain ⟨bits, found, rfl⟩ := Option.map_eq_some_iff.1 read
      rw [readNarrow32?_eq_some_iff.1 found]
      cases bits <;> cases extension <;> rfl
    · obtain ⟨bits, found, rfl⟩ := Option.map_eq_some_iff.1 read
      rw [readNarrow64?_eq_some_iff.1 found]
      cases bits <;> cases extension <;> rfl
    · cases read
    · cases read

/-- What is read as a load is its mnemonic. -/
theorem readLoad?_eq_some_iff {op : LoadOp} :
    readLoad? cs = some op ↔ cs = op.mnemonic.toList := by
  constructor
  · exact mnemonic_of_readLoad?
  · rintro rfl
    exact readLoad?_mnemonic op

/-! ## Stores -/

theorem mnemonic_of_readStore? {op : StoreOp} (read : readStore? cs = some op) :
    cs = op.mnemonic.toList ∨ op.isFull = true ∧ cs = op.mnemonic.toList ++ ['_'] := by
  unfold readStore? at read
  rcases cut_cases cs with ⟨whole, rest⟩ | ⟨narrow, whole, rest⟩
  · simp only [rest, whole] at read
    left
    rcases full_cases read with ⟨type, rfl⟩ | ⟨scalar, type, rfl⟩
    · exact type
    · exact type
  rw [whole]
  rcases narrow with _ | ⟨c, narrow⟩
  · simp only [rest] at read
    right
    rcases full_cases read with ⟨type, rfl⟩ | ⟨scalar, type, rfl⟩
    · rw [type]
      exact ⟨rfl, rfl⟩
    · rw [type]
      exact ⟨rfl, rfl⟩
  · simp only [rest, Option.bind_eq_bind, Option.bind_eq_some_iff] at read
    left
    obtain ⟨scalar, type, read⟩ := read
    rw [readScalar?_eq_some_iff.1 type]
    rcases scalar with _ | _ | _ | _
    · obtain ⟨bits, found, rfl⟩ := Option.map_eq_some_iff.1 read
      rw [readNarrow32?_eq_some_iff.1 found]
      cases bits <;> rfl
    · obtain ⟨bits, found, rfl⟩ := Option.map_eq_some_iff.1 read
      rw [readNarrow64?_eq_some_iff.1 found]
      cases bits <;> rfl
    · cases read
    · cases read

/-- What is read as a store is its mnemonic, but a full one may have a `_` behind it. -/
theorem readStore?_eq_some_iff {op : StoreOp} :
    readStore? cs = some op ↔
      cs = op.mnemonic.toList ∨ op.isFull = true ∧ cs = op.mnemonic.toList ++ ['_'] := by
  constructor
  · exact mnemonic_of_readStore?
  · rintro (rfl | ⟨full, rfl⟩)
    · exact readStore?_mnemonic op
    · have all : ∀ op ∈ StoreOp.all, op.isFull = true →
          readStore? (op.mnemonic.toList ++ ['_']) = some op := by
        decide
      exact all op op.mem_all full

/-! ## Spelling names -/

/-- The name of an instruction of a kind. -/
def spell (kind type tail : List Char) : List Char := type ++ '.' :: (kind ++ tail)

/-- The name that the type of a load spells. -/
def loadName? (cs : List Char) : Option (List Char) :=
  let type := cs.takeWhile (· ≠ '_')
  match cs.dropWhile (· ≠ '_') with
  | [] => some (spell "load".toList type [])
  | _ :: narrow =>
    match dropEnd? ['s'] narrow, dropEnd? ['u'] narrow with
    | some bits, _ => some (spell "load".toList type (bits ++ ['_', 's']))
    | none, some bits => some (spell "load".toList type (bits ++ ['_', 'u']))
    | none, none => none

/-- The name that the type of a store spells. -/
def storeName (cs : List Char) : List Char :=
  spell "store".toList (cs.takeWhile (· ≠ '_')) (cs.dropWhile (· ≠ '_')).tail

/-- A name with one point is spelled in one way. -/
theorem spell_inj {kind type type' tail tail' : List Char}
    (once : (spell kind type tail).count '.' = 1)
    (same : spell kind type tail = spell kind type' tail') : type' = type ∧ tail' = tail := by
  unfold spell at once same
  rw [List.count_append, List.count_cons_self] at once
  have front : '.' ∉ type := List.count_eq_zero.1 (by omega)
  have back : '.' ∉ kind ++ tail := List.count_eq_zero.1 (by omega)
  obtain ⟨types, _, tails⟩ := (List.append_cons_inj_of_notMem front back).1 same
  exact ⟨types.symm, (List.append_cancel_left tails).symm⟩

/-- The type and the rest of the name of a load, and its mnemonic made of the same parts. -/
theorem spelled_load (op : LoadOp) :
    ∃ type tail, op.name.toList = spell "load".toList type tail ∧
      (spell "load".toList type tail).count '.' = 1 ∧
      (tail = [] ∧ op.mnemonic.toList = type ∨
        ∃ bits letter, letter.length = 1 ∧ tail = bits ++ '_' :: letter ∧
          op.mnemonic.toList = type ++ '_' :: (bits ++ letter)) := by
  rcases op with (type | ⟨bits, extension⟩ | ⟨bits, extension⟩) | _
  · refine ⟨type.name.toList, [], ?_, ?_, Or.inl ⟨rfl, rfl⟩⟩
    · cases type <;> rfl
    · cases type <;> rfl
  · refine ⟨"i32".toList, _, ?_, ?_,
      Or.inr ⟨bits.digits.toList, extension.letter.toList, ?_, rfl, ?_⟩⟩
    all_goals cases bits <;> cases extension <;> rfl
  · refine ⟨"i64".toList, _, ?_, ?_,
      Or.inr ⟨bits.digits.toList, extension.letter.toList, ?_, rfl, ?_⟩⟩
    all_goals cases bits <;> cases extension <;> rfl
  · exact ⟨"handle".toList, [], rfl, rfl, Or.inl ⟨rfl, rfl⟩⟩

/-- The type and the rest of the name of a store, and its mnemonic made of the same parts. -/
theorem spelled_store (op : StoreOp) :
    ∃ type tail, op.name.toList = spell "store".toList type tail ∧
      (spell "store".toList type tail).count '.' = 1 ∧
      (tail = [] ∧ op.isFull = true ∧ op.mnemonic.toList = type ∨
        tail ≠ [] ∧ op.mnemonic.toList = type ++ '_' :: tail) := by
  rcases op with (type | bits | bits) | _
  · refine ⟨type.name.toList, [], ?_, ?_, Or.inl ⟨rfl, rfl, rfl⟩⟩
    · cases type <;> rfl
    · cases type <;> rfl
  · refine ⟨"i32".toList, bits.digits.toList, ?_, ?_, Or.inr ⟨?_, ?_⟩⟩
    all_goals cases bits <;> decide
  · refine ⟨"i64".toList, bits.digits.toList, ?_, ?_, Or.inr ⟨?_, ?_⟩⟩
    all_goals cases bits <;> decide
  · exact ⟨"handle".toList, [], rfl, rfl, Or.inl ⟨rfl, rfl, rfl⟩⟩

/-- Bits and a letter that spell the rest of a name are those of the mnemonic. -/
theorem mnemonic_of_tail {op : LoadOp} {front bits : List Char} {letter : Char}
    (named : spell "load".toList front (bits ++ ['_', letter]) = op.name.toList) :
    op.mnemonic.toList = front ++ '_' :: (bits ++ [letter]) := by
  obtain ⟨type, tail, name, once, parts⟩ := spelled_load op
  obtain ⟨rfl, rest⟩ := spell_inj once (name.symm.trans named.symm)
  rcases parts with ⟨rfl, _⟩ | ⟨bits', letter', single, rfl, mnemonic⟩
  · exact absurd rest (List.append_ne_nil_of_right_ne_nil _ (List.cons_ne_nil _ _))
  · obtain ⟨rfl, same⟩ := List.append_inj' rest (by simp [single])
    injection same with _ same
    rw [mnemonic, same]

theorem mnemonic_of_loadName? {op : LoadOp} (named : loadName? cs = some op.name.toList) :
    cs = op.mnemonic.toList := by
  unfold loadName? at named
  rcases cut_cases cs with ⟨whole, rest⟩ | ⟨narrow, whole, rest⟩
  · simp only [rest, whole] at named
    obtain ⟨type, tail, name, once, parts⟩ := spelled_load op
    obtain ⟨rfl, none⟩ := spell_inj once (name.symm.trans (Option.some.inj named).symm)
    rcases parts with ⟨_, mnemonic⟩ | ⟨bits, letter, _, some, _⟩
    · exact mnemonic.symm
    · rw [some] at none
      exact absurd none.symm (List.append_ne_nil_of_right_ne_nil _ (List.cons_ne_nil _ _))
  · rw [whole]
    simp only [rest] at named
    rcases signed : dropEnd? ['s'] narrow with _ | bits
    · rcases unsigned : dropEnd? ['u'] narrow with _ | bits
      · simp [signed, unsigned] at named
      · simp only [signed, unsigned] at named
        rw [dropEnd?_eq_some_iff.1 unsigned, mnemonic_of_tail (Option.some.inj named)]
    · simp only [signed] at named
      rw [dropEnd?_eq_some_iff.1 signed, mnemonic_of_tail (Option.some.inj named)]

/-- What is read as a load is the one whose name the type spells. -/
theorem readLoad?_eq_ofName (cs : List Char) :
    readLoad? cs = (loadName? cs).bind fun name => LoadOp.ofName? (String.ofList name) := by
  refine Option.ext fun op => ?_
  rw [readLoad?_eq_some_iff, Option.bind_eq_some_iff]
  constructor
  · rintro rfl
    have all : ∀ op ∈ LoadOp.all, loadName? op.mnemonic.toList = some op.name.toList := by decide
    refine ⟨op.name.toList, all op op.mem_all, ?_⟩
    rw [LoadOp.ofName?_eq_some_iff, String.ofList_toList]
  · rintro ⟨name, named, found⟩
    rw [LoadOp.ofName?_eq_some_iff] at found
    have same : name = op.name.toList := by rw [← found, String.toList_ofList]
    exact mnemonic_of_loadName? (same ▸ named)

/-- The types that spell the name of a store. -/
theorem storeName_eq_iff {op : StoreOp} :
    storeName cs = op.name.toList ↔
      cs = op.mnemonic.toList ∨ op.isFull = true ∧ cs = op.mnemonic.toList ++ ['_'] := by
  constructor
  · intro named
    unfold storeName at named
    obtain ⟨type, tail, name, once, parts⟩ := spelled_store op
    obtain ⟨front, rest⟩ := spell_inj once (name.symm.trans named.symm)
    rcases cut_cases cs with ⟨whole, none⟩ | ⟨narrow, whole, some⟩
    · rw [none] at rest
      rw [whole] at front
      rcases parts with ⟨_, _, mnemonic⟩ | ⟨some, _⟩
      · exact Or.inl (front.trans mnemonic.symm)
      · exact absurd rest.symm some
    · rw [some] at rest
      rw [whole, front, show narrow = tail from rest]
      rcases parts with ⟨rfl, full, mnemonic⟩ | ⟨_, mnemonic⟩
      · -- the `_` with nothing behind it leaves no trace in the name
        exact Or.inr ⟨full, by rw [mnemonic]⟩
      · exact Or.inl mnemonic.symm
  · have all : ∀ op ∈ StoreOp.all, storeName op.mnemonic.toList = op.name.toList ∧
        (op.isFull = true → storeName (op.mnemonic.toList ++ ['_']) = op.name.toList) := by
      decide
    rintro (rfl | ⟨full, rfl⟩)
    · exact (all op op.mem_all).1
    · exact (all op op.mem_all).2 full

/-- What is read as a store is the one whose name the type spells. -/
theorem readStore?_eq_ofName (cs : List Char) :
    readStore? cs = StoreOp.ofName? (String.ofList (storeName cs)) := by
  refine Option.ext fun op => ?_
  rw [readStore?_eq_some_iff, StoreOp.ofName?_eq_some_iff, ← storeName_eq_iff]
  constructor
  · intro same
    rw [same, String.ofList_toList]
  · intro same
    rw [← same, String.toList_ofList]

/-! ## Commands -/

theorem readForm_load_append (cs : List Char) :
    readForm ("load.".toList ++ cs) =
      match readLoad? cs with
      | some op => .ok (.unary (.load op))
      | none => .error (.unknownLoad (String.ofList ("load.".toList ++ cs))) := by
  rewrite [readForm, dropStart?_append]
  rfl

theorem readForm_store_append (cs : List Char) :
    readForm ("store.".toList ++ cs) =
      match readStore? cs with
      | some op => .ok (.binary (.store op))
      | none => .error (.unknownStore (String.ofList ("store.".toList ++ cs))) := by
  have none : dropStart? "load.".toList ("store.".toList ++ cs) = none := rfl
  rewrite [readForm, none, dropStart?_append]
  rfl

variable {command : Command}

theorem readCommand_eq_ok_iff :
    readCommand word args = .ok command ↔
      ∃ form, readForm word = .ok form ∧ form.apply (String.ofList word) args = .ok command := by
  rw [readCommand]
  rcases readForm word with error | form
  · constructor
    · intro applied
      cases applied
    · rintro ⟨form, found, _⟩
      cases found
  · constructor
    · intro applied
      exact ⟨form, rfl, applied⟩
    · rintro ⟨other, found, applied⟩
      rw [Except.ok.inj found]
      exact applied

theorem apply_unary_eq_ok_iff {build : Operand → Command} {mnemonic : String} :
    Form.apply mnemonic args (.unary build) = .ok command ↔
      ∃ a x, args = [a] ∧ readOperand a = .ok x ∧ command = build x := by
  constructor
  · intro applied
    rcases args with _ | ⟨a, _ | ⟨b, rest⟩⟩
    · cases applied
    · rw [Form.apply] at applied
      rcases read : readOperand a with error | x
      · rw [read] at applied
        cases applied
      · rw [read] at applied
        injection applied with same
        exact ⟨a, x, rfl, read, same.symm⟩
    · cases applied
  · rintro ⟨a, x, rfl, read, rfl⟩
    rw [Form.apply, read]
    rfl

theorem apply_binary_eq_ok_iff {build : Operand → Operand → Command} {mnemonic : String} :
    Form.apply mnemonic args (.binary build) = .ok command ↔
      ∃ a b x y, args = [a, b] ∧ readOperand a = .ok x ∧ readOperand b = .ok y ∧
        command = build x y := by
  constructor
  · intro applied
    rcases args with _ | ⟨a, _ | ⟨b, _ | ⟨c, rest⟩⟩⟩
    · cases applied
    · cases applied
    · rw [Form.apply] at applied
      rcases first : readOperand a with error | x
      · rw [first] at applied
        cases applied
      rcases second : readOperand b with error | y
      · rw [first, second] at applied
        cases applied
      · rw [first, second] at applied
        injection applied with same
        exact ⟨a, b, x, y, rfl, first, second, same.symm⟩
    · cases applied
  · rintro ⟨a, b, x, y, rfl, first, second, rfl⟩
    rw [Form.apply, first, second]
    rfl

theorem readCommand_load_eq_ok_iff :
    readCommand ("load.".toList ++ cs) args = .ok command ↔
      ∃ op a x, cs = op.mnemonic.toList ∧ args = [a] ∧ readOperand a = .ok x ∧
        command = .load op x := by
  rw [readCommand_eq_ok_iff, readForm_load_append]
  constructor
  · rintro ⟨form, found, applied⟩
    rcases read : readLoad? cs with _ | op
    · rw [read] at found
      cases found
    · rw [read] at found
      injection found with same
      rw [← same, apply_unary_eq_ok_iff] at applied
      obtain ⟨a, x, one, operand, rfl⟩ := applied
      exact ⟨op, a, x, readLoad?_eq_some_iff.1 read, one, operand, rfl⟩
  · rintro ⟨op, a, x, mnemonic, one, operand, rfl⟩
    rw [readLoad?_eq_some_iff.2 mnemonic]
    exact ⟨_, rfl, apply_unary_eq_ok_iff.2 ⟨a, x, one, operand, rfl⟩⟩

theorem readCommand_store_eq_ok_iff :
    readCommand ("store.".toList ++ cs) args = .ok command ↔
      ∃ op a b x y,
        (cs = op.mnemonic.toList ∨ op.isFull = true ∧ cs = op.mnemonic.toList ++ ['_']) ∧
        args = [a, b] ∧ readOperand a = .ok x ∧ readOperand b = .ok y ∧
        command = .store op x y := by
  rw [readCommand_eq_ok_iff, readForm_store_append]
  constructor
  · rintro ⟨form, found, applied⟩
    rcases read : readStore? cs with _ | op
    · rw [read] at found
      cases found
    · rw [read] at found
      injection found with same
      rw [← same, apply_binary_eq_ok_iff] at applied
      obtain ⟨a, b, x, y, two, first, second, rfl⟩ := applied
      exact ⟨op, a, b, x, y, readStore?_eq_some_iff.1 read, two, first, second, rfl⟩
  · rintro ⟨op, a, b, x, y, mnemonic, two, first, second, rfl⟩
    rw [readStore?_eq_some_iff.2 mnemonic]
    exact ⟨_, rfl, apply_binary_eq_ok_iff.2 ⟨a, b, x, y, two, first, second, rfl⟩⟩

/-- The types of loads and stores, over all texts: what is read is the instruction whose name the
    text spells; for a load it has to be the mnemonic, for a store it may be that of a full one with
    a `_` behind it; and a load or a store is a command just if its type is read so and it has as
    many operands as it takes. -/
theorem mnemonics_name_instructions (cs : List Char) :
    (readLoad? cs = (loadName? cs).bind fun name => LoadOp.ofName? (String.ofList name)) ∧
    (∀ op, readLoad? cs = some op ↔ cs = op.mnemonic.toList) ∧
    (readStore? cs = StoreOp.ofName? (String.ofList (storeName cs))) ∧
    (∀ op, readStore? cs = some op ↔
      cs = op.mnemonic.toList ∨ op.isFull = true ∧ cs = op.mnemonic.toList ++ ['_']) ∧
    (∀ args command, readCommand ("load.".toList ++ cs) args = .ok command ↔
      ∃ op a x, cs = op.mnemonic.toList ∧ args = [a] ∧ readOperand a = .ok x ∧
        command = .load op x) ∧
    (∀ args command, readCommand ("store.".toList ++ cs) args = .ok command ↔
      ∃ op a b x y,
        (cs = op.mnemonic.toList ∨ op.isFull = true ∧ cs = op.mnemonic.toList ++ ['_']) ∧
        args = [a, b] ∧ readOperand a = .ok x ∧ readOperand b = .ok y ∧
        command = .store op x y) :=
  ⟨readLoad?_eq_ofName cs, fun _ => readLoad?_eq_some_iff, readStore?_eq_ofName cs,
    fun _ => readStore?_eq_some_iff, fun _ _ => readCommand_load_eq_ok_iff,
    fun _ _ => readCommand_store_eq_ok_iff⟩

/-- A store is read from a text that is no mnemonic. -/
theorem bare_underscore_is_read :
    readStore? "i32_".toList = some (.data (.full .i32)) ∧
      ∀ op : StoreOp, op.mnemonic.toList ≠ "i32_".toList := by
  have all : ∀ op ∈ StoreOp.all, op.mnemonic.toList ≠ "i32_".toList := by decide
  exact ⟨by decide, fun op => all op op.mem_all⟩

end Trace

end SegmentHeap
