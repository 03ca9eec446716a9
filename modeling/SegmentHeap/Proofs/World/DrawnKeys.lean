/-
  The keys of allocations, as they are drawn.

  What a request does to the key table of a heap is one call, or nothing (`Heap.called_perform`).
  So whatever engines are asked, their key table is one that calls have made on the stream of its
  source (`Run.supplied`), and it issues its keys as all such tables do.
  `keys_are_first_usable_draws` says how a single key is chosen from the draws ahead, and that along
  a run, of calls or of requests, the keys follow one another as the draws do.
-/
import Mathlib.Data.Bool.AllAny
import SegmentHeap.Proofs.KeyTable.Drawing
import SegmentHeap.Proofs.KeyTable.Freeing
import SegmentHeap.Proofs.World.IssuedKeys

namespace SegmentHeap

/-! ## Steps of a table as calls -/

namespace KeyTable

/-- `after` comes of `before` by one call, which has issued the key if there is one, or by none. -/
def Called (before after : KeyTable) (issued? : Option UInt32) : Prop :=
  after = before ∧ issued? = none ∨
    ∃ call, after = (before.carryOut call).state ∧ (before.carryOut call).answer.issued? = issued?

theorem called_none (table : KeyTable) : table.Called table none := Or.inl ⟨rfl, rfl⟩

theorem called_allocate (table : KeyTable) (limit size : UInt32) :
    table.Called (table.allocate limit size).state (table.allocate limit size).answer.toOption := by
  rcases table.allocate_cases limit size with ⟨fault, refused⟩ | puts
  · rw [refused]
    exact called_none table
  · rw [puts]
    exact Or.inr ⟨.insert (.blank 0 size), rfl, rfl⟩

theorem called_free (table : KeyTable) (handle : Handle) :
    table.Called (handle.free table).state none := by
  by_cases may : handle.MayFree
  · exact Or.inr ⟨.remove handle.key, Handle.state_free_of_mayFree may table, rfl⟩
  · rw [Handle.free_of_not_mayFree may]
    exact called_none _

/-- A write through a handle is an edit of its segment. -/
theorem called_writeWith (table : KeyTable) (handle : Handle) (size : Nat) (edit : Nat → Edit) :
    table.Called
      (handle.writeWith table size fun segment addr => (edit addr).apply segment).state none := by
  unfold Handle.writeWith
  rcases resolves : handle.resolve table size with fault | ⟨segment, addr⟩
  · exact called_none _
  rcases wrote : (edit addr).apply segment with fault | written
  · simp only [wrote]
    exact called_none _
  · simp only [wrote]
    refine Or.inr ⟨.edit handle.key (edit addr), ?_, rfl⟩
    show _ = (table.edit handle.key (edit addr)).state
    rw [edit_of_ok (Handle.get?_of_resolve resolves) wrote]

end KeyTable

/-! ## Requests as calls -/

namespace Heap

theorem table_run {α : Type} (heap : Heap) (trap : Fault → Trap) (report : α → List Event)
    (step : Step KeyTable (Except Fault α)) :
    (heap.run trap report step).state.table = step.state := by
  unfold run
  split <;> rfl

/-- The key that an allocation gives out is the one that the table has put the segment under. -/
theorem issued?_alloc (heap : Heap) (location : Location) (size : UInt32) :
    Record.issued? ⟨.alloc size, (heap.perform location (.alloc size)).answer⟩ =
      (heap.table.allocate heap.config.maxSegmentSize size).answer.toOption := by
  simp only [perform, alloc, Step.mapAnswer, run]
  rcases (heap.table.allocate heap.config.maxSegmentSize size).answer with fault | key <;> rfl

theorem called_store (heap : Heap) (location : Location) (handle : Handle) (op : StoreOp)
    (value : Value) :
    heap.table.Called (heap.store location handle op value).state.table none := by
  rcases op with op | _
  · simp only [store]
    split
    · rename_i bytes _
      rw [table_run]
      exact heap.table.called_writeWith handle bytes.length fun addr => .write addr bytes
    · exact heap.table.called_none
  · rcases value with v | v | v | v | value
    iterate 4 exact heap.table.called_none
    rw [store, table_run]
    exact heap.table.called_writeWith handle wordBytes fun addr =>
      .writeWord addr value.word value.window

/-- A request makes at most one call on the key table, and gives out the key that the call
    issues. -/
theorem called_perform (heap : Heap) (location : Location) (request : Request) :
    heap.table.Called (heap.perform location request).state.table
      (Record.issued? ⟨request, (heap.perform location request).answer⟩) := by
  cases request with
  | alloc size =>
    rw [issued?_alloc]
    show heap.table.Called (heap.alloc location size).state.table _
    rw [alloc, Step.mapAnswer, table_run]
    exact heap.table.called_allocate _ size
  | free handle =>
    show heap.table.Called (heap.free location handle).state.table none
    rw [free, table_run]
    exact heap.table.called_free handle
  | store op handle value => exact heap.called_store location handle op value
  | reset => exact Or.inr ⟨.clear, rfl, rfl⟩
  | slice handle lo hi =>
    show heap.table.Called (heap.slice location handle lo hi).state.table none
    rw [state_slice]
    exact heap.table.called_none
  | load op handle =>
    show heap.table.Called (heap.load location handle op).state.table none
    rw [state_load]
    exact heap.table.called_none
  | _ => exact heap.table.called_none

end Heap

/-! ## After every run -/

namespace World

variable {config : Config} {keys : KeySource} {history : History} {world : World} {engine : Nat}
  {fresh heap : Heap}

/-- The key table that engines share is one that calls have made, and the calls have issued the keys
    that allocations answered. -/
theorem Run.supplied (made : Heap.ofConfig config keys = .ok fresh)
    (run : Run (.ofHeap fresh) history world) (here : world.heap? engine = some heap) :
    ∃ log : CallLog, KeyTable.Supplied config keys log heap.table ∧
      log.issuedKeys = history.issuedKeys := by
  -- a request that makes no call issues no key, so log and history stay in step
  obtain ⟨final, one, holds⟩ := run.invariant
    (fun history heap => ∃ log : CallLog, KeyTable.Supplied config keys log heap.table ∧
      log.issuedKeys = history.issuedKeys)
    (fun {history heap} location request ⟨log, supplied, issued⟩ => by
      rcases heap.called_perform location request with ⟨same, silent⟩ | ⟨call, after, answer⟩
      · exact ⟨log, same ▸ supplied, issued.trans (History.issuedKeys_cons_of_none _ silent).symm⟩
      · refine ⟨_, after ▸ supplied.call call, ?_⟩
        rw [CallLog.issuedKeys, History.issuedKeys] at issued ⊢
        rw [List.filterMap_cons, List.filterMap_cons, answer, issued])
    (oneHeap_ofHeap fresh) ⟨[], .fresh (Heap.table_of_ofConfig made).1, rfl⟩
  exact one.heap?_eq here ▸ holds

/-- Keys are drawn first fit.  A table that calls can make, with any source, looks at the next 64
    draws, or at those that are left if the stream ends first.  The first of them that it can use
    gives the key, and it and those before it are spent; if the table can use none, all of them are
    spent for nothing.  Nothing else of the table changes.  Along all calls that were made on one
    stream, and along all requests to engines that share a table, the keys that were issued are a
    part of the masked draws, in the order of the draws. -/
theorem keys_are_first_usable_draws :
    (∀ {config log table}, KeyTable.Reached config log table →
      let draws := table.keys.ahead 64
      (∀ i < draws.length, draws[i]? = table.keys.stream (table.keys.drawn + i)) ∧
      (draws.length = 64 ∨ draws.length < 64 ∧
        table.keys.stream (table.keys.drawn + draws.length) = none) ∧
      (∀ passed draw later, draws = passed ++ draw :: later →
        (∀ other ∈ passed, ¬ table.UsableDraw other) → table.UsableDraw draw →
        table.freshKey.answer = .ok (masked draw) ∧
        table.freshKey.state = { table with keys := table.keys.skip (passed.length + 1) }) ∧
      ((∀ draw ∈ draws, ¬ table.UsableDraw draw) →
        table.freshKey.answer = .error .allocationFailed ∧
        table.freshKey.state = { table with keys := table.keys.skip draws.length })) ∧
    (∀ {config keys log table}, KeyTable.Supplied config keys log table →
      keys.Issues table.keys log.issuedKeys.reverse) ∧
    ∀ {config keys fresh history world engine heap}, Heap.ofConfig config keys = .ok fresh →
      Run (.ofHeap fresh) history world → world.heap? engine = some heap →
      keys.Issues heap.table.keys history.issuedKeys.reverse := by
  refine ⟨fun {config log table} reached => ?_, KeyTable.Supplied.issues, ?_⟩
  · obtain ⟨le, same, ends⟩ := table.keys.ahead_spec 64
    refine ⟨same, ?_, ?_, KeyTable.freshKey_of_unfit reached.valid⟩
    · rcases Nat.eq_or_lt_of_le le with all | fewer
      · exact Or.inl all
      · exact Or.inr ⟨fewer, ends fewer⟩
    · intro passed draw later split unfit fits
      rw [KeyTable.freshKey_of_passed reached.valid split unfit fits]
      exact ⟨rfl, rfl⟩
  · intro config keys fresh history world engine heap made run here
    obtain ⟨log, supplied, issued⟩ := run.supplied made here
    exact issued ▸ supplied.issues

/-- A table that has issued the key 5 and retired it.  Its source then gives zeros, 5 once more with
    a higher bit, and 7. -/
def nearlySpent (zeros : Nat) : CallLog × KeyTable :=
  (KeyTable.ofDraws 100 (5 :: (List.replicate zeros 0 ++ [0x40000005, 7, 9]))).calls
    [.remove 5, .insert KeyTable.oneByte]

/-- With 62 zeros the draw that can be used is the 64th, and is taken.  With one more it is out of
    reach, and 64 draws are spent for nothing.  The second allocation of an engine that has been
    reset passes over its first key, also with a higher bit. -/
theorem keys_are_first_usable_draws_of_nearlySpent :
    let outcome := trial [5, 5, 0x40000005, 16] [(0, some (.alloc 8)), (0, some .reset),
      (0, some (.alloc 8))]
    (nearlySpent 62).2.freshKey.answer = .ok 7 ∧
    (nearlySpent 62).2.freshKey.state.keys.drawn = 65 ∧
    (nearlySpent 63).2.freshKey.answer = .error .allocationFailed ∧
    (nearlySpent 63).2.freshKey.state.keys.drawn = 65 ∧
    ∃ heap, outcome.2.heap? 0 = some heap ∧
      (KeySource.fixed [5, 5, 0x40000005, 16]).Issues heap.table.keys [5, 16] := by
  intro outcome
  obtain ⟨draws, _, requests⟩ := keys_are_first_usable_draws
  have reached (zeros : Nat) : KeyTable.Reached { maxCapacity := 100 } (nearlySpent zeros).1
      (nearlySpent zeros).2 := KeyTable.reached_calls rfl _
  obtain ⟨_, _, taken, _⟩ := draws (reached 62)
  obtain ⟨_, _, _, spent⟩ := draws (reached 63)
  -- each draw of the list is tried, and not each number of 32 bits
  obtain ⟨granted, behind⟩ := taken (List.replicate 62 0 ++ [0x40000005]) 7 [] (by decide +kernel)
    (List.all_iff_forall_prop.1 (by decide +kernel)) (by decide +kernel)
  obtain ⟨refused, behind'⟩ := spent (List.all_iff_forall_prop.1 (by decide +kernel))
  refine ⟨granted, ?_, refused, ?_, ?_⟩
  · rw [behind]
    decide +kernel
  · rw [behind']
    decide +kernel
  · obtain ⟨heap, here⟩ : ∃ heap, outcome.2.heap? 0 = some heap := ⟨_, rfl⟩
    obtain ⟨fresh, made, run⟩ := reached_trial [5, 5, 0x40000005, 16] [(0, some (.alloc 8)),
      (0, some .reset), (0, some (.alloc 8))]
    have issued : outcome.1.issuedKeys = [16, 5] := by decide +kernel
    have issues := requests made run here
    rw [issued] at issues
    exact ⟨heap, here, issues⟩

end World

end SegmentHeap
