/-
  A trap leaves no trace.

  A request that traps has made all its checks before its first change, with one exception: an
  allocation may have grown the table before it was refused.  So a trapped request leaves the heap
  as it was (`Heap.state_of_trapped`), and a trapped allocation leaves it rehoused
  (`Heap.rehoused_of_trapped`), with the same segments, the same retired keys and the same count.

  From there on the two heaps, with the trapped request and without it, give the same answers to all
  that is asked, as long as nothing is allocated (`Heap.Rehoused.serve`).
-/
import SegmentHeap.Proofs.Heap.Alike
import SegmentHeap.Proofs.World.Sound

namespace SegmentHeap

namespace Heap

variable {heap : Heap} {location : Location} {request : Request} {trap : Trap}

/-! ## Trapped requests -/

/-- A trapped request other than an allocation leaves the whole heap as it was. -/
theorem state_of_trapped (valid : heap.Valid)
    (trapped : (heap.perform location request).answer = .error trap)
    (frugal : ∀ size, request ≠ .alloc size) : (heap.perform location request).state = heap := by
  obtain ⟨effect, _⟩ := perform_spec valid location request
  rw [trapped] at effect
  have table : (heap.perform location request).state.table = heap.table := by
    cases effect with
    | looked looks same => exact same
    | trapped alike same =>
      rcases same with ⟨size, asked⟩ | same
      · exact absurd asked (frugal size)
      · exact same
  calc (heap.perform location request).state
      = ⟨(heap.perform location request).state.config,
          (heap.perform location request).state.table⟩ := rfl
    _ = heap := by rw [config_perform, table]

theorem rehoused_of_trapped_alloc (valid : heap.Valid) {size : UInt32}
    (trapped : (heap.alloc location size).answer = .error trap) :
    KeyTable.Rehoused heap.table (heap.alloc location size).state.table := by
  unfold alloc at trapped ⊢
  rcases heap.table.allocate_cases heap.config.maxSegmentSize size with ⟨fault, refused⟩ | puts
  · rw [refused]
    exact .refl heap.table
  rw [puts] at trapped ⊢
  rcases answer : (heap.table.insert (.blank 0 size)).answer with fault | key
  · simp only [run, answer]
    exact KeyTable.rehoused_of_refused_insert valid.table answer
  · simp only [run, answer] at trapped
    cases trapped

/-- A trapped request leaves the heap rehoused at most. -/
theorem rehoused_of_trapped (valid : heap.Valid)
    (trapped : (heap.perform location request).answer = .error trap) :
    heap.Rehoused (heap.perform location request).state := by
  cases request with
  | alloc size =>
    refine ⟨config_perform heap location (.alloc size), ?_⟩
    have refused : (heap.alloc location size).answer = .error trap := by
      simp only [perform, Step.mapAnswer] at trapped
      rcases answer : (heap.alloc location size).answer with fault | handle
      · rw [answer] at trapped
        injection trapped with same
        rw [same]
      · rw [answer] at trapped
        cases trapped
    exact rehoused_of_trapped_alloc valid refused
  | _ =>
    rw [state_of_trapped valid trapped fun _ => Request.noConfusion]
    exact .refl heap

end Heap

/-! ## After every run -/

namespace World

variable {config : Config} {keys : KeySource} {history : History} {world : World}
  {engine other : Nat} {heap after : Heap} {location : Location} {request : Request} {trap : Trap}
  {step : Step World (Except Trap Reply)}

/-- A request that traps leaves the live keys, their segments with all bytes and tags, and the
    retired keys as they were, for every engine; and it leaves all of the heap as it was, unless it
    was to allocate.  Whatever is asked afterwards, as long as nothing is allocated, is answered as
    if the request had not been made. -/
theorem traps_are_atomic (reached : Reached config keys history world)
    (here : world.heap? engine = some heap)
    (performed : world.perform engine location request = some step)
    (trapped : step.answer = .error trap) (there : step.state.heap? other = some after) :
    (∀ key, key ∈ after.table.liveKeys ↔ key ∈ heap.table.liveKeys) ∧
    (∀ key, after.table.get? key = heap.table.get? key) ∧
    after.table.retired = heap.table.retired ∧
    ((∀ size, request ≠ .alloc size) → after = heap) ∧
    (∀ asked : List (Location × Request), (∀ ask ∈ asked, ∀ size, ask.2 ≠ .alloc size) →
      (after.serve asked).1 = (heap.serve asked).1 ∧
        Heap.Rehoused (heap.serve asked).2 (after.serve asked).2) := by
  obtain ⟨only, one, sound⟩ := reached.oneHeap
  obtain rfl := one.heap?_eq here
  obtain ⟨answer, one'⟩ := one.perform performed
  obtain rfl := one'.heap?_eq there
  rw [answer] at trapped
  have valid := sound.valid.perform location request
  have rehoused := Heap.rehoused_of_trapped sound.valid trapped
  have alike := rehoused.table.alike
  refine ⟨?_, alike.get?_eq, rehoused.table.retired_eq, ?_, ?_⟩
  · intro key
    rw [KeyTable.mem_liveKeys_iff valid.table, KeyTable.mem_liveKeys_iff sound.valid.table,
      KeyTable.contains, KeyTable.contains, alike.get?_eq]
  · exact Heap.state_of_trapped sound.valid trapped
  · exact rehoused.serve sound.valid valid

/-- An allocation that is refused leaves a larger table behind, which loads and frees do not
    notice. -/
theorem traps_are_atomic_of_growth :
    let start : Heap := ⟨{ maxCapacity := 23 }, .ofDraws 23 [5, 258]⟩
    let outcome := (ofHeap start).drive [(0, some (.alloc 16))]
    let asked : List (Location × Request) :=
      [(.unknown, .free (.whole 5 16)), (.unknown, .load (.data (.full .i32)) (.whole 5 16))]
    ∃ heap step trap after, outcome.2.heap? 0 = some heap ∧
      outcome.2.perform 0 .unknown (.alloc 8) = some step ∧ step.answer = .error trap ∧
      step.state.heap? 0 = some after ∧
      heap.table.capacity = 11 ∧ after.table.capacity = 23 ∧
      (∀ key, after.table.get? key = heap.table.get? key) ∧
      (after.serve asked).1 = (heap.serve asked).1 := by
  intro start outcome asked
  have reached : Reached { maxCapacity := 23 } (.fixed [5, 258]) outcome.1 outcome.2 :=
    ⟨start, rfl, run_drive _ _⟩
  obtain ⟨heap, here⟩ : ∃ heap, outcome.2.heap? 0 = some heap := ⟨_, rfl⟩
  obtain ⟨step, performed⟩ : ∃ step, outcome.2.perform 0 .unknown (.alloc 8) = some step := ⟨_, rfl⟩
  have capacity : (outcome.2.heap? 0).map (·.table.capacity) = some 11 := by decide +kernel
  have grown : (outcome.2.perform 0 .unknown (.alloc 8)).map (fun step =>
      (step.answer.toOption, (step.state.heap? 0).map (·.table.capacity))) =
        some (none, some 23) := by
    decide +kernel
  rw [here] at capacity
  injection capacity with capacity
  rw [performed] at grown
  injection grown with grown
  injection grown with refused grown
  obtain ⟨after, there, grown⟩ := Option.map_eq_some_iff.1 grown
  obtain ⟨trap, trapped⟩ : ∃ trap, step.answer = .error trap := by
    rcases answer : step.answer with trap | reply
    · exact ⟨trap, rfl⟩
    · rw [answer] at refused
      cases refused
  obtain ⟨_, segments, _, _, serves⟩ := traps_are_atomic reached here performed trapped there
  have frugal : ∀ ask ∈ asked, ∀ size, ask.2 ≠ .alloc size := by
    intro ask listed size
    rcases List.mem_cons.1 listed with rfl | listed
    · exact Request.noConfusion
    · rw [List.mem_singleton.1 listed]
      exact Request.noConfusion
  exact ⟨heap, step, trap, after, here, performed, trapped, there, capacity, grown, segments,
    (serves asked frugal).1⟩

end World

end SegmentHeap
