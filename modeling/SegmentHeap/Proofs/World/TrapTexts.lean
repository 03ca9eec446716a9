/-
  Traps that engines raise can be told apart by their texts.

  A trap shows the operand that it is about, or null.  The text of an undamaged null handle leaves
  out the window, so the texts could be the same for null handles with different windows.  But
  engines give out no such handles: a null handle is never narrowed, and a null word never gets a
  window back.  So all handles that can be had are `Regular` (`History.Closed.regular`), whichever
  engines they come from and go to.  One request keeps that (`Heap.regular_of_perform`), on any
  heap.

  With `Trap.text_eq_iff` this gives `trap_texts_tell`.
-/
import SegmentHeap.Proofs.KeyTable.Rehousing
import SegmentHeap.Proofs.Trap
import SegmentHeap.Proofs.World.Sharing
import SegmentHeap.Proofs.World.Sound

namespace SegmentHeap

/-! ## Null handles -/

/-- The handle has the empty window if it is null. -/
def Handle.Regular (handle : Handle) : Prop := handle.key = 0 → handle.window = .empty

namespace Handle

variable {table : KeyTable} {handle : Handle}

theorem Regular.of_same {other : Handle} (regular : handle.Regular) (key : other.key = handle.key)
    (window : other.window = handle.window) : other.Regular := by
  intro null
  rw [window]
  exact regular (key ▸ null)

theorem regular_ofWord (table : KeyTable) (word : UInt64) : (ofWord table word).1.Regular := by
  intro null
  change wordKey word = 0 at null
  show (table.status (wordKey word)).window = .empty
  rw [KeyTable.status, if_pos null]
  rfl

/-- A tag gives its window back only to a word that is not null. -/
theorem regular_ofLoaded (table : KeyTable) (location : Location) (word : UInt64)
    (window? : Option Window) : (ofLoaded table location word window?).1.Regular := by
  have decoded := regular_ofWord table word
  rcases window? with _ | window
  · simp only [ofLoaded]
    split
    · exact decoded
    · exact decoded.of_same rfl rfl
  · simp only [ofLoaded]
    split
    · exact decoded
    · rename_i proper
      exact fun null => absurd (beq_iff_eq.2 null) proper

end Handle

/-- No key that is drawn is null. -/
theorem KeyTable.ne_zero_of_insert {table : KeyTable} {segment : Segment} {key : UInt32}
    (granted : (table.insert segment).answer = .ok key) : key ≠ 0 := by
  rcases insert_cases table segment with ⟨_, _, refused, _⟩ | ⟨_, _, _, _, refused, _⟩ |
    ⟨issued, drawn, answer, _⟩
  · rw [refused] at granted
    cases granted
  · rw [refused] at granted
    cases granted
  · rw [answer] at granted
    injection granted with same
    subst same
    unfold freshKey at drawn
    rcases draws : table.keys.firstUsable table.usable drawLimit with ⟨_ | _ | _, keys⟩
    · rw [draws] at drawn
      injection drawn with same
      subst same
      exact (usable_iff.1 (KeySource.usable_of_firstUsable draws).1).1
    · rw [draws] at drawn
      cases drawn
    · rw [draws] at drawn
      cases drawn

theorem KeyTable.ne_zero_of_allocate {table : KeyTable} {limit size key : UInt32}
    (granted : (table.allocate limit size).answer = .ok key) : key ≠ 0 := by
  rcases table.allocate_cases limit size with ⟨fault, refused⟩ | puts
  · rw [refused] at granted
    cases granted
  · rw [puts] at granted
    exact ne_zero_of_insert granted

namespace Heap

variable {heap : Heap} {location : Location} {handle given : Handle} {request : Request}
  {trap : Trap}

/-! ## The handles that a request gives out -/

theorem regular_of_alloc {size : UInt32}
    (granted : (heap.alloc location size).answer = .ok given) : given.Regular := by
  rcases drawn : (heap.table.allocate heap.config.maxSegmentSize size).answer with fault | key
  · simp only [alloc, run, Step.mapAnswer, drawn] at granted
    cases granted
  · simp only [alloc, run, Step.mapAnswer, drawn] at granted
    injection granted with same
    subst same
    exact fun null => absurd null (KeyTable.ne_zero_of_allocate drawn)

/-- A null handle cannot be sliced. -/
theorem regular_of_slice {lo hi : Int32}
    (granted : (heap.slice location handle lo hi).answer = .ok given) : given.Regular := by
  rcases cut : handle.slice heap.table lo hi with fault | part
  · rw [slice_of_fault cut] at granted
    cases granted
  · rw [slice_of_ok cut] at granted
    injection granted with same
    subst same
    obtain ⟨_, proper, _, window, _, rfl⟩ := Handle.slice_eq_ok_iff.1 cut
    exact fun null => absurd null proper

theorem regular_of_load {op : LoadOp}
    (granted : (heap.load location handle op).answer = .ok (.handle given)) : given.Regular := by
  obtain ⟨segment, _, value⟩ := value_of_load granted
  rcases op with op | _
  · exact absurd value.symm (op.ofBytes_ne_handle _ given)
  · injection value with same
    subst same
    exact Handle.regular_ofLoaded _ _ _ _

/-- A request whose operands are regular gives out only regular handles. -/
theorem regular_of_perform (operands : ∀ handle ∈ request.handles, handle.Regular)
    (gives : Record.handle? ⟨request, (heap.perform location request).answer⟩ = some given) :
    given.Regular := by
  cases makes_of_perform gives with
  | alloc granted => exact regular_of_alloc granted
  | slice granted => exact regular_of_slice granted
  | load granted => exact regular_of_load granted
  | decode word => exact Handle.regular_ofWord heap.table word
  | same operand key window _ => exact (operands _ operand).of_same key window

/-! ## The handle of a trap -/

theorem trap_of_run {α : Type} {raise : Fault → Trap} {report : α → List Event}
    {step : Step KeyTable (Except Fault α)}
    (trapped : (heap.run raise report step).answer = .error trap) :
    ∃ fault, trap = raise fault := by
  rcases done : step.answer with fault | answer
  · simp only [run, done] at trapped
    injection trapped with same
    exact ⟨fault, same.symm⟩
  · simp only [run, done] at trapped
    cases trapped

theorem trap_of_look {α : Type} {raise : Fault → Trap} {result : Except Fault (α × List Event)}
    (trapped : (heap.look raise result).answer = .error trap) : ∃ fault, trap = raise fault := by
  rcases result with fault | answer
  · injection trapped with same
    exact ⟨fault, same.symm⟩
  · cases trapped

/-- What becomes of an answer does not matter to a trap. -/
theorem error_of_map {α β : Type} {answer : Except Trap α} {f : α → β}
    (trapped : answer.map f = .error trap) : answer = .error trap := by
  rcases answer with raised | answer
  · injection trapped with same
    rw [same]
  · cases trapped

/-- A trap shows the operand that the request was to use, or null. -/
theorem handle_of_trapped (trapped : (heap.perform location request).answer = .error trap) :
    trap.handle = .null ∨ trap.handle ∈ request.handles := by
  cases request with
  | alloc size =>
    obtain ⟨fault, rfl⟩ := trap_of_run (error_of_map (error_of_map trapped))
    exact Or.inl rfl
  | free handle =>
    obtain ⟨fault, rfl⟩ := trap_of_run (error_of_map trapped)
    exact Or.inr (List.mem_singleton_self _)
  | slice handle lo hi =>
    obtain ⟨fault, rfl⟩ := trap_of_look (error_of_map trapped)
    exact Or.inr (List.mem_singleton_self _)
  | load op handle =>
    rcases op with op | _
    all_goals
      obtain ⟨fault, rfl⟩ := trap_of_look (error_of_map trapped)
      exact Or.inr (List.mem_singleton_self _)
  | store op handle value =>
    have named : handle ∈ Request.handles (.store op handle value) := by
      rcases value with v | v | v | v | v <;> exact List.mem_cons_self
    rcases typed : op.bytes? value with _ | bytes
    · have refused := error_of_map trapped
      rw [store_of_untyped typed] at refused
      injection refused with same
      exact Or.inr (same ▸ named)
    · obtain ⟨_, _, _, run⟩ := store_eq_run typed heap location handle
      have refused := error_of_map trapped
      rw [run] at refused
      obtain ⟨fault, rfl⟩ := trap_of_run refused
      exact Or.inr named
  | grow extra | flatten =>
    injection trapped with same
    exact Or.inl (same ▸ rfl)
  | copy target source len =>
    injection trapped with same
    exact Or.inr (same ▸ List.mem_cons_self)
  | add handle delta | sub handle delta | dup handle | mark handle | encode handle | decode word
  | reset => cases trapped

end Heap

/-! ## The traps of all engines -/

namespace World

variable {made : Array Heap} {log : List Asking} {world : World} {handle : Handle}

/-- What engines were asked and have answered, the latest first. -/
def history (log : List Asking) : History := (log.map Asking.record).reverse

theorem history_append (log : List Asking) (asking : Asking) :
    history (log ++ [asking]) = asking.record :: history log := by
  rw [history, List.map_append, List.reverse_append]
  rfl

/-- The trap that a request ended in, if it did. -/
def trapOf? (asking : Asking) : Option Trap :=
  match asking.record.answer with
  | .error trap => some trap
  | .ok _ => none

theorem trapOf?_eq_some_iff {asking : Asking} {trap : Trap} :
    trapOf? asking = some trap ↔ asking.record.answer = .error trap := by
  unfold trapOf?
  rcases asking.record.answer with raised | reply
  · show some raised = some trap ↔ Except.error raised = Except.error trap
    rw [Option.some.injEq, Except.error.injEq]
  · exact iff_of_false nofun nofun

/-- Whichever engines are asked, over whichever heaps, as long as they are asked with handles that
    engines gave out: all these are regular, and every trap shows one of them or null. -/
theorem Grown.regular (grown : Grown made log world) (closed : (history log).Closed) :
    (∀ {handle}, (history log).Issued handle → handle.Regular) ∧
    ∀ trap ∈ log.filterMap trapOf?, trap.handle.Regular := by
  have null : Handle.null.Regular := fun _ => rfl
  induction grown with
  | empty =>
    refine ⟨?_, fun trap listed => absurd listed List.not_mem_nil⟩
    rintro handle (rfl | ⟨record, listed, _⟩)
    · exact null
    · cases listed
  | add earlier heap ih => exact ih closed
  | duplicate earlier engine ih => exact ih closed
  | @perform made log world step engine location request earlier performed ih =>
    rw [history_append] at closed ⊢
    obtain ⟨operands, closed⟩ := closed
    obtain ⟨issued, traps⟩ := ih closed
    obtain ⟨_, heap, _, _, answer, _⟩ := perform_cases performed
    -- the operands were given out earlier, by this engine or another one
    have regular : ∀ handle ∈ request.handles, handle.Regular :=
      fun handle named => issued (operands handle named)
    refine ⟨?_, ?_⟩
    · intro handle given
      rcases History.issued_cons.1 given with new | old
      · rw [answer] at new
        exact Heap.regular_of_perform regular new
      · exact issued old
    · intro trap listed
      obtain ⟨asking, listed, ended⟩ := List.mem_filterMap.1 listed
      rcases List.mem_append.1 listed with old | new
      · exact traps trap (List.mem_filterMap.2 ⟨asking, old, ended⟩)
      · have trapped : step.answer = .error trap :=
          trapOf?_eq_some_iff.1 (List.mem_singleton.1 new ▸ ended)
        rw [answer] at trapped
        rcases Heap.handle_of_trapped trapped with none | named
        · exact none ▸ null
        · exact regular trap.handle named

/-- An engine can raise the trap, when engines over any heaps are asked with handles that they gave
    out. -/
def Raises (trap : Trap) : Prop :=
  ∃ made log world, Grown made log world ∧ (history log).Closed ∧ trap ∈ log.filterMap trapOf?

theorem Raises.regular {trap : Trap} (raises : Raises trap) : trap.handle.Regular := by
  obtain ⟨_, _, _, grown, closed, listed⟩ := raises
  exact (grown.regular closed).2 trap listed

/-- The text of a trap tells all of the trap: the fault, the operation, the place, the size, and the
    key, the window, the cursor and the flags of the handle, but for the slice flag of an undamaged
    null handle, which makes no difference to the text. -/
theorem trap_texts_tell {one other : Trap} (raises : Raises one) (raises' : Raises other) :
    one.text = other.text ↔
      one.fault = other.fault ∧ one.operation = other.operation ∧ one.location = other.location ∧
      one.size = other.size ∧ one.handle.key = other.handle.key ∧
      one.handle.window = other.handle.window ∧ one.handle.offset = other.handle.offset ∧
      one.handle.corrupted = other.handle.corrupted ∧
      (one.handle.sliced = other.handle.sliced ∨
        one.handle.key = 0 ∧ one.handle.corrupted = false) := by
  rw [Trap.text_eq_iff]
  constructor
  · rintro ⟨fault, operation, location, ⟨key, offset, corrupted, plain | ⟨window, sliced⟩⟩, size⟩
    · have window : one.handle.window = other.handle.window :=
        (raises.regular plain.1).trans (raises'.regular (key ▸ plain.1)).symm
      exact ⟨fault, operation, location, size, key, window, offset, corrupted, Or.inr plain⟩
    · exact ⟨fault, operation, location, size, key, window, offset, corrupted, Or.inl sliced⟩
  · rintro ⟨fault, operation, location, size, key, window, offset, corrupted, sliced | plain⟩
    · exact ⟨fault, operation, location,
        ⟨key, offset, corrupted, Or.inr ⟨window, sliced⟩⟩, size⟩
    · exact ⟨fault, operation, location, ⟨key, offset, corrupted, Or.inl plain⟩, size⟩

/-- Loads through null handles, of which one has the slice flag, since it was decoded from a word
    that has it.  The traps differ in nothing that is shown.  Once the handles are damaged they
    do. -/
theorem trap_texts_tell_of_nullSlices :
    let place : Location := ⟨1, 16⟩
    let raised (fault : Fault) (handle : Handle) : Trap :=
      ⟨fault, .load (.data (.full .i32)), place, handle, 4⟩
    let slice : Handle := { Handle.null with sliced := true }
    let one := raised .nullHandle .null
    let other := raised .nullHandle slice
    let one' := raised .corruptedHandle Handle.null.markCorrupted
    let other' := raised .corruptedHandle slice.markCorrupted
    Raises one ∧ Raises other ∧ Raises one' ∧ Raises other' ∧ one ≠ other ∧
      one.text =
        "null handle in i32.load at func[1]+0x10: handle(null, offset 0), access of 4 bytes" ∧
      one.text = other.text ∧ one'.text ≠ other'.text := by
  intro place raised slice one other one' other'
  let fresh : Heap := ⟨{}, .ofDraws 23 []⟩
  let asked : List Request :=
    [.decode 0x4000000000000000, .mark .null, .mark slice, .load (.data (.full .i32)) .null,
      .load (.data (.full .i32)) slice, .load (.data (.full .i32)) Handle.null.markCorrupted,
      .load (.data (.full .i32)) slice.markCorrupted]
  let outcome :=
    ((⟨#[], #[]⟩ : World).add fresh).serve (asked.map fun request => (0, place, request))
  have grown : Grown #[fresh] ([] ++ outcome.1) outcome.2 := (Grown.empty.add fresh).serve _
  have raises (trap : Trap)
      (listed : trap ∈ outcome.1.filterMap trapOf?) : Raises trap :=
    ⟨_, _, _, grown, (by decide +kernel : (history outcome.1).Closed), listed⟩
  have first : Raises one := raises one (by decide +kernel)
  have second : Raises other := raises other (by decide +kernel)
  have third : Raises one' := raises one' (by decide +kernel)
  have fourth : Raises other' := raises other' (by decide +kernel)
  refine ⟨first, second, third, fourth, by decide +kernel, by decide +kernel, ?_, ?_⟩
  · exact (trap_texts_tell first second).2
      ⟨rfl, rfl, rfl, rfl, rfl, rfl, rfl, rfl, Or.inr ⟨rfl, rfl⟩⟩
  · intro same
    obtain ⟨_, _, _, _, _, _, _, _, flag | plain⟩ := (trap_texts_tell third fourth).1 same
    · cases flag
    · cases plain.2

end World

end SegmentHeap
