/-
  What a program can see of its heap.

  A program names its handles by register.  It allocates, frees, slices, moves cursors, copies
  registers, loads and stores data and resets the heap; it makes no handle of a word and shows no
  handle as one.  What it does next may depend on all that it has seen: every answer, and whatever
  its registers and the counts of the heap show, apart from the keys (`Outcome.seen`).

  Two heaps with one limit on allocations cannot be told apart by such a program, whatever keys they
  draw and however many slots they have, as long as neither runs out of keys or slots
  (`keys_are_unobservable`).  The machines stay renamed (`Machine.Renamed.step`).  The renaming
  changes when keys are issued, but it keeps the names of all known keys.  So the last renaming of a
  run is good for the whole of it (`Machine.Renamed.run`).
-/
import SegmentHeap.Proofs.Heap.Confinement
import SegmentHeap.Proofs.Heap.Renaming
import SegmentHeap.Proofs.World.Sound

namespace SegmentHeap

/-! ## Programs -/

/-- An instruction that names handles by register. -/
inductive Instr where
  | alloc (target : Nat) (size : UInt32)
  | free (source : Nat)
  | slice (target source : Nat) (lo hi : Int32)
  | add (target source : Nat) (delta : Int32)
  | sub (target source : Nat) (delta : Int32)
  | dup (target source : Nat)
  | load (op : DataLoad) (source : Nat)
  | store (op : DataStore) (source : Nat) (value : Value)
  | reset
deriving DecidableEq, Repr

namespace Instr

/-- The request that an instruction makes. -/
def request (registers : Nat → Handle) : Instr → Request
  | .alloc _ size => .alloc size
  | .free source => .free (registers source)
  | .slice _ source lo hi => .slice (registers source) lo hi
  | .add _ source delta => .add (registers source) delta
  | .sub _ source delta => .sub (registers source) delta
  | .dup _ source => .dup (registers source)
  | .load op source => .load (.data op) (registers source)
  | .store op source value => .store (.data op) (registers source) value
  | .reset => .reset

/-- The register for the handle that an instruction is given. -/
def target? : Instr → Option Nat
  | .alloc target _ | .slice target .. | .add target .. | .sub target .. | .dup target _ =>
    some target
  | .free _ | .load .. | .store .. | .reset => none

/-- The registers after an instruction with its answer. -/
def assign (instr : Instr) (answer : Except Trap Reply) (registers : Nat → Handle)
    (register : Nat) : Handle :=
  match answer with
  | .ok (.handle given) =>
    if instr.target? = some register then given else registers register
  | _ => registers register

end Instr

/-- A heap and the registers of a program. -/
structure Machine where
  heap : Heap
  registers : Nat → Handle

/-- An instruction with its answer, and the machine after it. -/
structure Outcome where
  instr : Instr
  answer : Except Trap Reply
  after : Machine

namespace Machine

/-- All registers are null at first. -/
def start (heap : Heap) : Machine := ⟨heap, fun _ => .null⟩

def step (machine : Machine) (location : Location) (instr : Instr) : Outcome :=
  let done := machine.heap.perform location (instr.request machine.registers)
  { instr
    answer := done.answer
    after :=
      { heap := done.state, registers := instr.assign done.answer machine.registers } }

end Machine

/-! ## What a program sees -/

/-- The handle without its key.  That of null shows. -/
def Handle.veiled (handle : Handle) : Handle :=
  { handle with key := if handle.isNull then 0 else 1 }

/-- The trap without the key of its handle. -/
def Trap.veiled (trap : Trap) : Trap := { trap with handle := trap.handle.veiled }

/-- The reply without the key of a handle that it gives out. -/
def Reply.veiled : Reply → Reply
  | .handle given => .handle given.veiled
  | reply => reply

/-- The answer without keys. -/
def veiledAnswer : Except Trap Reply → Except Trap Reply
  | .ok reply => .ok reply.veiled
  | .error trap => .error trap.veiled

/-- What shows of an outcome: the instruction and its answer, every register, and how many keys are
    in use and retired. -/
structure Observation where
  instr : Instr
  answer : Except Trap Reply
  registers : Nat → Handle
  live : Nat
  retired : Nat

def Outcome.seen (outcome : Outcome) : Observation where
  instr := outcome.instr
  answer := veiledAnswer outcome.answer
  registers register := (outcome.after.registers register).veiled
  live := outcome.after.heap.table.len
  retired := outcome.after.heap.table.retired.size

/-- A program goes on by what it has seen, the latest first, or ends. -/
abbrev Program := List Observation → Option (Location × Instr)

/-- The program that carries out a list of instructions. -/
def Program.straight (instrs : List (Location × Instr)) : Program := fun seen =>
  instrs[seen.length]?

/-- What comes of the first `steps` instructions of a program that has seen something before. -/
def Machine.run (program : Program) : Nat → List Observation → Machine → List Outcome
  | 0, _, _ => []
  | steps + 1, seen, machine =>
    match program seen with
    | none => []
    | some (location, instr) =>
      let outcome := machine.step location instr
      outcome :: run program steps (outcome.seen :: seen) outcome.after

/-- An allocation within the limit was granted: the heap had a key and a slot left. -/
def Outcome.ample (outcome : Outcome) (limit : UInt32) : Bool :=
  match outcome.instr with
  | .alloc _ size => size == 0 || limit < size || outcome.answer.isOk
  | _ => true

variable {σ τ : Equiv.Perm UInt32}

/-! ## Names do not show -/

theorem Handle.renamed_congr {handle : Handle} (same : τ handle.key = σ handle.key) :
    handle.renamed τ = handle.renamed σ := by
  rw [renamed, renamed, same]

theorem KeyTable.Renamed.veiled_eq {one other : KeyTable} (renamed : Renamed one other σ)
    (handle : Handle) : (handle.renamed σ).veiled = handle.veiled := by
  rw [Handle.veiled, Handle.veiled, renamed.isNull_eq]
  rfl

/-- The reply with the handle that it gives out renamed. -/
def Reply.renamed (reply : Reply) (σ : Equiv.Perm UInt32) : Reply :=
  match reply with
  | .handle given => .handle (given.renamed σ)
  | reply => reply

theorem KeyTable.Renamed.veiledAnswer_eq {one other : KeyTable} (renamed : Renamed one other σ)
    (answer : Except Trap Reply) :
    veiledAnswer (renamedAnswer σ (·.renamed σ) answer) = veiledAnswer answer := by
  rcases answer with trap | reply
  · show Except.error (trap.renamed σ).veiled = Except.error trap.veiled
    rw [Trap.veiled, Trap.veiled, Trap.renamed, renamed.veiled_eq]
  · rcases reply with _ | given | word | value
    · rfl
    · show Except.ok (Reply.handle (given.renamed σ).veiled) = _
      rw [renamed.veiled_eq]
      rfl
    · rfl
    · rfl

/-! ## One instruction -/

namespace Heap

variable {one other : Heap} {location : Location}

theorem StepRenamed.mapAnswer {α : Type} {rename : α → α} {reply : α → Reply}
    {step step' : Step Heap (Except Trap α)} (renamed : StepRenamed σ rename step step')
    (reply_rename : ∀ answer, reply (rename answer) = (reply answer).renamed σ) :
    StepRenamed σ (·.renamed σ) (step.mapAnswer (·.map reply)) (step'.mapAnswer (·.map reply)) := by
  refine ⟨?_, renamed.state⟩
  show step'.answer.map reply = renamedAnswer σ (·.renamed σ) (step.answer.map reply)
  rw [renamed.answer_eq]
  rcases step.answer with trap | answer
  · rfl
  · exact congrArg Except.ok (reply_rename answer)

/-- Renamed heaps answer an instruction alike, under names that may have to follow the keys that
    they issue. -/
theorem Renamed.perform (renamed : Renamed one other σ) (valid : one.Valid) (valid' : other.Valid)
    (location : Location) (registers : Nat → Handle) {instr : Instr}
    (granted : ∀ {target size}, instr = .alloc target size → 0 < size →
      size ≤ one.config.maxSegmentSize → ∃ given, (one.alloc location size).answer = .ok given)
    (granted' : ∀ {target size}, instr = .alloc target size → 0 < size →
      size ≤ one.config.maxSegmentSize → ∃ given, (other.alloc location size).answer = .ok given) :
    ∃ τ, (∀ key, one.table.Knows key → τ key = σ key) ∧ Renamed one other τ ∧
      StepRenamed τ (·.renamed τ) (one.perform location (instr.request registers))
        (other.perform location
          (instr.request fun register => (registers register).renamed σ)) := by
  -- only an allocation changes the names
  have keep {step step' : Step Heap (Except Trap Reply)}
      (same : StepRenamed σ (·.renamed σ) step step') :
      ∃ τ, (∀ key, one.table.Knows key → τ key = σ key) ∧ Renamed one other τ ∧
        StepRenamed τ (·.renamed τ) step step' :=
    ⟨σ, fun _ _ => rfl, renamed, same⟩
  cases instr with
  | alloc target size =>
    obtain ⟨τ, agrees, renamed', alloc⟩ := renamed.alloc valid valid' location size
      (granted rfl) (granted' rfl)
    exact ⟨τ, agrees, renamed', alloc.mapAnswer fun _ => rfl⟩
  | free source => exact keep ((renamed.free location _).mapAnswer fun _ => rfl)
  | slice target source lo hi =>
    exact keep ((renamed.slice location _ lo hi).mapAnswer fun _ => rfl)
  | add target source delta => exact keep ⟨rfl, renamed⟩
  | sub target source delta => exact keep ⟨rfl, renamed⟩
  | dup target source => exact keep ⟨rfl, renamed⟩
  | load op source => exact keep ((renamed.load location _ op).mapAnswer fun _ => rfl)
  | store op source value => exact keep ((renamed.store location _ op value).mapAnswer fun _ => rfl)
  | reset => exact keep ⟨rfl, renamed.reset valid valid'⟩

/-- A handle that an instruction is given has a known key: a new one, or that of its source. -/
theorem Valid.knows_given {heap : Heap} (valid : heap.Valid) {registers : Nat → Handle}
    (known : ∀ register, heap.table.Knows (registers register).key) {instr : Instr} {given : Handle}
    (gives : (heap.perform location (instr.request registers)).answer = .ok (.handle given)) :
    (heap.perform location (instr.request registers)).state.table.Knows given.key := by
  have effect := (perform_spec valid location (instr.request registers)).1
  have of_source {source : Nat}
      (moved : (instr.request registers).origin? = some (registers source)) :
      (heap.perform location (instr.request registers)).state.table.Knows given.key := by
    refine effect.later.knows ?_
    rcases perform_of_origin moved gives with ⟨offset, rfl⟩ | ⟨lo, hi, cut⟩
    · exact known source
    · obtain ⟨_, _, _, _, _, rfl⟩ := Handle.slice_eq_ok_iff.1 cut
      exact known source
  cases instr with
  | alloc target size =>
    rw [gives] at effect
    cases effect with
    | allocated usable small puts => exact KeyTable.knows_of_get? puts.get?_self
    | looked looks same => cases looks
  | slice target source lo hi => exact of_source rfl
  | add target source delta => exact of_source rfl
  | sub target source delta => exact of_source rfl
  | dup target source => exact of_source rfl
  | free source => exact absurd gives (map_ne_ok nofun _)
  | load op source => exact absurd gives (map_ne_ok nofun _)
  | store op source value => exact absurd gives (map_ne_ok nofun _)
  | reset => cases gives

end Heap

namespace Machine

variable {one other : Machine} {location : Location} {instr : Instr}

/-- The registers hold renamed handles, with known keys. -/
structure Renamed (one other : Machine) (σ : Equiv.Perm UInt32) : Prop where
  heap : Heap.Renamed one.heap other.heap σ
  registers_eq : ∀ register, other.registers register = (one.registers register).renamed σ
  known : ∀ register, one.heap.table.Knows (one.registers register).key

/-- The names may change, but for those of the known keys. -/
theorem Renamed.congr (renamed : Renamed one other σ) (heap : Heap.Renamed one.heap other.heap τ)
    (agrees : ∀ key, one.heap.table.Knows key → τ key = σ key) : Renamed one other τ := by
  refine ⟨heap, fun register => ?_, renamed.known⟩
  rw [renamed.registers_eq, Handle.renamed_congr (agrees _ (renamed.known register))]

/-- A register that is assigned holds a known key. -/
theorem known_assign {table : KeyTable} {registers : Nat → Handle} {answer : Except Trap Reply}
    (known : ∀ register, table.Knows (registers register).key)
    (given : ∀ {given}, answer = .ok (.handle given) → table.Knows given.key) (instr : Instr)
    (register : Nat) : table.Knows (instr.assign answer registers register).key := by
  unfold Instr.assign
  split
  · split
    · exact given rfl
    · exact known register
  · exact known register

/-- Assigning a renamed answer makes renamed registers. -/
theorem assign_renamed (instr : Instr) (answer : Except Trap Reply) (registers : Nat → Handle)
    (register : Nat) :
    instr.assign (renamedAnswer σ (·.renamed σ) answer)
        (fun register => (registers register).renamed σ) register =
      (instr.assign answer registers register).renamed σ := by
  rcases answer with trap | reply
  · rfl
  rcases reply with _ | given | word | value
  · rfl
  · by_cases here : instr.target? = some register
    · simp only [Instr.assign, renamedAnswer, Reply.renamed, if_pos here]
    · simp only [Instr.assign, renamedAnswer, Reply.renamed, if_neg here]
  · rfl
  · rfl

/-- An outcome that is ample grants the allocation, if it is one within the limit. -/
theorem granted_of_ample {machine : Machine} {limit size : UInt32} {target : Nat}
    (ample : (machine.step location instr).ample limit = true) (asked : instr = .alloc target size)
    (positive : 0 < size) (small : size ≤ limit) :
    ∃ given, (machine.heap.alloc location size).answer = .ok given := by
  subst asked
  rcases answer : (machine.heap.alloc location size).answer with trap | given
  · have refused : (machine.step location (.alloc target size)).answer = .error trap := by
      show (machine.heap.alloc location size).answer.map Reply.handle = _
      rw [answer]
      rfl
    unfold Outcome.ample at ample
    rw [refused] at ample
    change (size == 0 || decide (limit < size) || false) = true at ample
    rw [Bool.or_false, Bool.or_eq_true, beq_iff_eq, decide_eq_true_eq] at ample
    rcases ample with empty | large
    · exact absurd empty (UInt32.pos_iff_ne_zero.1 positive)
    · exact absurd large (UInt32.not_lt.2 small)
  · exact ⟨given, rfl⟩

/-- The outcomes show the same, and leave renamed machines. -/
structure Matches (σ : Equiv.Perm UInt32) (one other : Outcome) : Prop where
  seen_eq : other.seen = one.seen
  after : Renamed one.after other.after σ

/-- An instruction shows the same on renamed machines, and leaves them renamed.  The names of known
    keys stay. -/
theorem Renamed.step (renamed : Renamed one other σ) (valid : one.heap.Valid)
    (valid' : other.heap.Valid) (location : Location) (instr : Instr)
    (ample : (one.step location instr).ample one.heap.config.maxSegmentSize = true)
    (ample' : (other.step location instr).ample one.heap.config.maxSegmentSize = true) :
    ∃ τ, (∀ key, one.heap.table.Knows key → τ key = σ key) ∧
      Heap.Renamed one.heap other.heap τ ∧
      Matches τ (one.step location instr) (other.step location instr) := by
  obtain ⟨τ, agrees, before, done⟩ := renamed.heap.perform valid valid' location one.registers
    (granted_of_ample ample) (granted_of_ample ample')
  have registers : (fun register => (one.registers register).renamed σ) = other.registers :=
    funext fun register => (renamed.registers_eq register).symm
  rw [registers] at done
  have after : Renamed (one.step location instr).after (other.step location instr).after τ := by
    refine ⟨done.state, fun register => ?_, ?_⟩
    · have same : other.registers = fun register => (one.registers register).renamed τ :=
        funext (renamed.congr before agrees).registers_eq
      show instr.assign _ other.registers register = _
      rw [done.answer_eq, same, assign_renamed]
      rfl
    · have later := (Heap.perform_spec valid location (instr.request one.registers)).1.later
      exact known_assign (fun register => later.knows (renamed.known register))
        (valid.knows_given renamed.known) instr
  refine ⟨τ, agrees, before, ?_, after⟩
  have table := after.heap.table
  have afterValid := valid.perform location (instr.request one.registers)
  have afterValid' := valid'.perform location (instr.request other.registers)
  show Outcome.seen _ = Outcome.seen _
  have answer : veiledAnswer (other.step location instr).answer =
      veiledAnswer (one.step location instr).answer :=
    (congrArg veiledAnswer done.answer_eq).trans (table.veiledAnswer_eq _)
  have shown : (fun register => ((other.step location instr).after.registers register).veiled) =
      fun register => ((one.step location instr).after.registers register).veiled := by
    funext register
    rw [after.registers_eq, table.veiled_eq]
  unfold Outcome.seen
  rw [answer, shown, table.len_eq afterValid.table afterValid'.table, table.size_retired_eq]
  rfl

/-- Renamed machines stay renamed along a run, under one renaming that is good for the whole of it
    and agrees with the one at its start on the keys that were known then. -/
theorem Renamed.run (renamed : Renamed one other σ) (valid : one.heap.Valid)
    (valid' : other.heap.Valid) (program : Program) (steps : Nat) (seen : List Observation)
    (ample : ∀ outcome ∈ run program steps seen one,
      outcome.ample one.heap.config.maxSegmentSize = true)
    (ample' : ∀ outcome ∈ run program steps seen other,
      outcome.ample one.heap.config.maxSegmentSize = true) :
    ∃ τ, (∀ key, one.heap.table.Knows key → τ key = σ key) ∧ Renamed one other τ ∧
      List.Forall₂ (Matches τ) (run program steps seen one) (run program steps seen other) := by
  induction steps generalizing one other σ seen with
  | zero => exact ⟨σ, fun _ _ => rfl, renamed, .nil⟩
  | succ steps ih =>
    rw [run] at ample ample' ⊢
    rw [run]
    rcases next : program seen with _ | ⟨location, instr⟩
    · exact ⟨σ, fun _ _ => rfl, renamed, .nil⟩
    simp only [next, List.forall_mem_cons] at ample ample' ⊢
    obtain ⟨ample, ampleRest⟩ := ample
    obtain ⟨ample', ampleRest'⟩ := ample'
    obtain ⟨τ, agrees, before, same⟩ := renamed.step valid valid' location instr ample ample'
    have later := (Heap.perform_spec valid location (instr.request one.registers)).1.later
    have later' := (Heap.perform_spec valid' location (instr.request other.registers)).1.later
    have limit : (one.step location instr).after.heap.config.maxSegmentSize =
        one.heap.config.maxSegmentSize :=
      congrArg Config.maxSegmentSize (Heap.config_perform ..)
    rw [← limit] at ampleRest ampleRest'
    rw [same.seen_eq] at ampleRest' ⊢
    obtain ⟨τ', agrees', whole, rest⟩ := ih same.after (valid.perform ..) (valid'.perform ..)
      ((one.step location instr).seen :: seen) ampleRest ampleRest'
    -- the names at the end of the run are those of now, for the keys that are known now
    have start : Heap.Renamed one.heap other.heap τ' :=
      ⟨before.limit_eq, before.table.earlier whole.heap.table later later' agrees'⟩
    have kept : ∀ key, one.heap.table.Knows key → τ' key = σ key := fun key known =>
      (agrees' key (later.knows known)).trans (agrees key known)
    exact ⟨τ', kept, renamed.congr start kept, .cons ⟨same.seen_eq, whole⟩ rest⟩

/-! ## Whole programs -/

/-- Fresh machines are renamed: they know no key but that of null. -/
theorem renamed_start {config config' : Config} {keys keys' : KeySource} {heap heap' : Heap}
    (made : Heap.ofConfig config keys = .ok heap) (made' : Heap.ofConfig config' keys' = .ok heap')
    (limit : config'.maxSegmentSize = config.maxSegmentSize) :
    Renamed (start heap) (start heap') (Equiv.refl UInt32) := by
  obtain ⟨_, strange⟩ := Heap.fresh_of_ofConfig made
  obtain ⟨_, strange'⟩ := Heap.fresh_of_ofConfig made'
  have table : KeyTable.Renamed heap.table heap'.table (Equiv.refl UInt32) := by
    refine ⟨rfl, fun key => ?_, fun key => ?_⟩
    · rw [Equiv.refl_apply, (strange key).1, (strange' key).1]
      rfl
    · rw [Equiv.refl_apply, (strange key).2, (strange' key).2]
  refine ⟨⟨?_, table⟩, fun register => rfl, fun register => Or.inl rfl⟩
  show heap'.config.maxSegmentSize = heap.config.maxSegmentSize
  rw [(Heap.table_of_ofConfig made).2, (Heap.table_of_ofConfig made').2, limit]

theorem map_seen_eq {outcomes outcomes' : List Outcome}
    (same : List.Forall₂ (Matches σ) outcomes outcomes') :
    outcomes'.map Outcome.seen = outcomes.map Outcome.seen := by
  induction same with
  | nil => rfl
  | cons first rest ih => rw [List.map_cons, List.map_cons, first.seen_eq, ih]

/-- Keys and slots do not show.  Let two heaps have one limit on allocations, but any keys and any
    capacities, and let a program that names handles by register run on both, such that no
    allocation within the limit is refused.  Then it sees the same on both all the way: the same
    answers and traps, the same loaded values, the same windows, cursors and flags in all registers,
    and the same counts.  One renaming of the keys takes every register and every look-up on the one
    to that on the other, after each instruction. -/
theorem keys_are_unobservable {config config' : Config} {keys keys' : KeySource}
    {heap heap' : Heap} (made : Heap.ofConfig config keys = .ok heap)
    (made' : Heap.ofConfig config' keys' = .ok heap')
    (limit : config'.maxSegmentSize = config.maxSegmentSize) (program : Program) (steps : Nat)
    (ample : ∀ outcome ∈ run program steps [] (start heap),
      outcome.ample config.maxSegmentSize = true)
    (ample' : ∀ outcome ∈ run program steps [] (start heap'),
      outcome.ample config.maxSegmentSize = true) :
    (run program steps [] (start heap')).map Outcome.seen =
        (run program steps [] (start heap)).map Outcome.seen ∧
      ∃ σ : Equiv.Perm UInt32,
        List.Forall₂ (fun one other => Renamed one.after other.after σ)
          (run program steps [] (start heap)) (run program steps [] (start heap')) := by
  obtain ⟨valid, _⟩ := Heap.fresh_of_ofConfig made
  obtain ⟨valid', _⟩ := Heap.fresh_of_ofConfig made'
  rw [← (Heap.table_of_ofConfig made).2] at ample ample'
  obtain ⟨σ, _, _, same⟩ :=
    (renamed_start made made' limit).run valid valid' program steps [] ample ample'
  exact ⟨map_seen_eq same, σ, same.imp fun _ _ same => same.after⟩

/-- One heap has room for all keys.  In the other one the second key collides with the first, so
    that it grows.  The program frees a segment twice, tries to free through a slice and to allocate
    nothing, and goes on after a reset. -/
theorem keys_are_unobservable_of_collision :
    let instrs : List Instr :=
      [.alloc 0 16, .alloc 1 8, .store (.i32 .bits8) 0 (.i32 5), .slice 2 0 0 8, .free 2, .free 1,
        .free 1, .load (.i32 .bits8 .unsigned) 2, .alloc 3 0, .reset, .free 0, .alloc 1 4]
    let program := Program.straight (instrs.map fun instr => (.unknown, instr))
    let roomy : Heap := ⟨{}, .ofDraws (1 <<< 22) [7, 9, 20]⟩
    let tight : Heap :=
      { config := { initialCapacity := 2, maxCapacity := 64 }
        table := { capacity := 2, slots := ∅, len := 0, retired := ∅, maxCapacity := 64,
                   slotLimit := 1 <<< 40, keys := .fixed [1, 1, 3, 3, 12] } }
    (run program 12 [] (start tight)).map Outcome.seen =
        (run program 12 [] (start roomy)).map Outcome.seen ∧
      (run program 12 [] (start roomy)).map (·.answer.isOk) =
        [true, true, true, true, false, true, false, true, false, true, false, true] ∧
      (run program 12 [] (start roomy)).map (·.after.heap.table.capacity) =
        List.replicate 12 11 ∧
      (run program 12 [] (start tight)).map (·.after.heap.table.capacity) =
        2 :: List.replicate 11 5 := by
  intro instrs program roomy tight
  have made : Heap.ofConfig {} (.fixed [7, 9, 20]) = .ok roomy := rfl
  have made' : Heap.ofConfig { initialCapacity := 2, maxCapacity := 64 }
      (.fixed [1, 1, 3, 3, 12]) = .ok tight := rfl
  obtain ⟨seen, _⟩ := keys_are_unobservable made made' rfl program 12 (by decide +kernel)
    (by decide +kernel)
  exact ⟨seen, by decide +kernel, by decide +kernel, by decide +kernel⟩

end Machine

end SegmentHeap
