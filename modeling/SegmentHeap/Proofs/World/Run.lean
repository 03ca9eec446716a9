/-
  Runs: engines that share one heap and are asked in any order.

  A `History` is what was asked and answered so far, the latest first.  It is `Closed` if every
  request names only handles that could be had by then: null, or one that an earlier answer gave
  out.  Programs can make no handles of their own, so all their histories are closed.

  `World.Run` has a world go on by one request or one duplicated engine at a time, and
  `World.Reached` has it begin with one engine over a fresh heap, with any limits and any keys.  All
  engines of such a world reach the one heap (`OneHeap`).  What holds of a heap and its history at
  first and is kept by every request holds after every run (`Run.invariant`): every invariant of
  runs uses this induction.  What holds whatever the keys are holds also when the source of the keys
  changes on the way (`OpenRun.invariant`).

  `World.drive` carries out a list of requests, and `trial` does so on a fresh heap with the default
  limits; both make runs.
-/
import SegmentHeap.Proofs.Heap.Effect
import SegmentHeap.World

namespace SegmentHeap

/-! ## Histories -/

/-- The handles that a request names. -/
def Request.handles : Request → List Handle
  | .free handle | .slice handle .. | .add handle _ | .sub handle _ | .dup handle | .mark handle
  | .encode handle | .load _ handle => [handle]
  | .store _ handle (.handle value) => [handle, value]
  | .store _ handle _ => [handle]
  | .copy target source _ => [target, source]
  | .alloc _ | .decode _ | .grow _ | .flatten | .reset => []

/-- The handle that a reply gives out. -/
def Reply.handle? : Reply → Option Handle
  | .handle given | .value (.handle given) => some given
  | .value _ | .done | .word _ => none

/-- A request with the answer that it got. -/
structure Record where
  request : Request
  answer : Except Trap Reply

/-- The handle that a request gave out. -/
def Record.handle? (record : Record) : Option Handle :=
  match record.answer with
  | .ok reply => reply.handle?
  | .error _ => none

/-- What was asked and answered so far, the latest first. -/
abbrev History := List Record

/-- A handle that can be had: null, or one that was given out. -/
def History.Issued (history : History) (handle : Handle) : Prop :=
  handle = .null ∨ ∃ record ∈ history, record.handle? = some handle

/-- Every request names only handles that could be had when it was made. -/
def History.Closed : History → Prop
  | [] => True
  | record :: earlier =>
    (∀ handle ∈ record.request.handles, History.Issued earlier handle) ∧ History.Closed earlier

/-- A handle that can be had was given out last or could be had before. -/
theorem History.issued_cons {record : Record} {earlier : History} {handle : Handle} :
    History.Issued (record :: earlier) handle ↔
      record.handle? = some handle ∨ History.Issued earlier handle := by
  simp only [Issued, List.mem_cons, exists_eq_or_imp]
  constructor
  · rintro (null | new | old)
    · exact Or.inr (Or.inl null)
    · exact Or.inl new
    · exact Or.inr (Or.inr old)
  · rintro (new | null | old)
    · exact Or.inr (Or.inl new)
    · exact Or.inl null
    · exact Or.inr (Or.inr old)

instance (history : History) (handle : Handle) : Decidable (history.Issued handle) :=
  inferInstanceAs (Decidable (_ ∨ ∃ record ∈ history, record.handle? = some handle))

instance History.decidableClosed : (history : History) → Decidable history.Closed
  | [] => isTrue trivial
  | record :: earlier =>
    have := decidableClosed earlier
    inferInstanceAs (Decidable
      ((∀ handle ∈ record.request.handles, History.Issued earlier handle) ∧
        History.Closed earlier))

/-! ## Runs -/

namespace World

/-- The worlds that come of a world when its engines are duplicated and asked, in any order. -/
inductive Run (start : World) : History → World → Prop
  | start : Run start [] start
  | duplicate {history : History} {world : World} (earlier : Run start history world)
      (engine : Nat) : Run start history (world.duplicate engine)
  | perform {history : History} {world : World} {step : Step World (Except Trap Reply)}
      {engine : Nat} {location : Location} {request : Request} (earlier : Run start history world)
      (performed : world.perform engine location request = some step) :
      Run start (⟨request, step.answer⟩ :: history) step.state

/-- A world of engines that share one heap, and how it came about from a fresh one. -/
def Reached (config : Config) (keys : KeySource) (history : History) (world : World) : Prop :=
  ∃ heap, Heap.ofConfig config keys = .ok heap ∧ Run (.ofHeap heap) history world

/-- All engines of the world reach the one heap. -/
structure OneHeap (world : World) (heap : Heap) : Prop where
  heaps : world.heaps = #[heap]
  engines : ∀ {engine index : Nat}, world.engines[engine]? = some index → index = 0

variable {world start : World} {heap : Heap}

/-! ## One heap for all engines -/

theorem oneHeap_ofHeap (heap : Heap) : (World.ofHeap heap).OneHeap heap := by
  refine ⟨rfl, ?_⟩
  intro engine index there
  rw [ofHeap] at there
  rcases engine with _ | engine <;> simp at there
  exact there.symm

theorem OneHeap.duplicate (one : world.OneHeap heap) (engine : Nat) :
    (world.duplicate engine).OneHeap heap := by
  unfold World.duplicate
  split
  · exact one
  · rename_i index found
    refine ⟨one.heaps, ?_⟩
    intro other index' there
    rw [Array.getElem?_push] at there
    split at there
    · injection there with same
      exact same ▸ one.engines found
    · exact one.engines there

theorem OneHeap.heap?_eq {engine : Nat} {other : Heap} (one : world.OneHeap heap)
    (here : world.heap? engine = some other) : other = heap := by
  unfold heap? at here
  obtain ⟨index, there, held⟩ := Option.bind_eq_some_iff.1 here
  rw [one.engines there, one.heaps] at held
  simpa using held.symm

/-- Changing the heap of any engine changes the one heap. -/
theorem OneHeap.setHeap {engine : Nat} {other : Heap} (one : world.OneHeap heap)
    (here : world.heap? engine = some other) (next : Heap) :
    (world.setHeap engine next).OneHeap next := by
  obtain ⟨index, there, _⟩ := Option.bind_eq_some_iff.1 here
  simp only [World.setHeap, there]
  refine ⟨?_, one.engines⟩
  rw [one.engines there, one.heaps]
  rfl

/-- A request through any engine is a request to the one heap. -/
theorem OneHeap.perform {engine : Nat} {location : Location} {request : Request}
    {step : Step World (Except Trap Reply)} (one : world.OneHeap heap)
    (performed : world.perform engine location request = some step) :
    step.answer = (heap.perform location request).answer ∧
      step.state.OneHeap (heap.perform location request).state := by
  unfold World.perform at performed
  obtain ⟨other, here, done⟩ := Option.map_eq_some_iff.1 performed
  rw [one.heap?_eq here] at done
  subst done
  exact ⟨rfl, one.setHeap here _⟩

/-! ## Invariants -/

/-- What holds of a heap at first and is kept by every request holds after every run. -/
theorem Run.invariant (Holds : History → Heap → Prop) {history : History}
    (kept : ∀ {history heap} location request, Holds history heap →
      Holds (⟨request, (heap.perform location request).answer⟩ :: history)
        (heap.perform location request).state)
    (run : Run start history world) (one : start.OneHeap heap) (initial : Holds [] heap) :
    ∃ final, world.OneHeap final ∧ Holds history final := by
  -- along the run, with the one heap of each world on the way
  induction run with
  | start => exact ⟨heap, one, initial⟩
  | duplicate earlier engine ih =>
    obtain ⟨final, one', holds⟩ := ih
    exact ⟨final, one'.duplicate engine, holds⟩
  | perform earlier performed ih =>
    obtain ⟨final, one', holds⟩ := ih
    obtain ⟨answer, one''⟩ := one'.perform performed
    exact ⟨_, one'', answer ▸ kept _ _ holds⟩

/-! ## Any source of keys -/

/-- The worlds that come of a world as in a run, while a source of keys may become any other one at
    any time: it may run dry and recover, start over, or give what another party likes. -/
inductive OpenRun (start : World) : History → World → Prop
  | start : OpenRun start [] start
  | rekey {history : History} {world : World} {engine : Nat} {heap : Heap}
      (earlier : OpenRun start history world) (here : world.heap? engine = some heap)
      (keys : KeySource) :
      OpenRun start history
        (world.setHeap engine { heap with table := { heap.table with keys } })
  | duplicate {history : History} {world : World} (earlier : OpenRun start history world)
      (engine : Nat) : OpenRun start history (world.duplicate engine)
  | perform {history : History} {world : World} {step : Step World (Except Trap Reply)}
      {engine : Nat} {location : Location} {request : Request}
      (earlier : OpenRun start history world)
      (performed : world.perform engine location request = some step) :
      OpenRun start (⟨request, step.answer⟩ :: history) step.state

/-- A run is one that keeps its source. -/
theorem Run.toOpen {history : History} (run : Run start history world) :
    OpenRun start history world := by
  induction run with
  | start => exact .start
  | duplicate earlier engine ih => exact ih.duplicate engine
  | perform earlier performed ih => exact ih.perform performed

/-- What holds of a heap at first, whatever its keys are, and is kept by every request holds after
    every run, also if the source of the keys changes on the way. -/
theorem OpenRun.invariant (Holds : History → Heap → Prop) {history : History}
    (rekeyed : ∀ {history heap} keys, Holds history heap →
      Holds history { heap with table := { heap.table with keys } })
    (kept : ∀ {history heap} location request, Holds history heap →
      Holds (⟨request, (heap.perform location request).answer⟩ :: history)
        (heap.perform location request).state)
    (run : OpenRun start history world) (one : start.OneHeap heap) (initial : Holds [] heap) :
    ∃ final, world.OneHeap final ∧ Holds history final := by
  induction run with
  | start => exact ⟨heap, one, initial⟩
  | rekey earlier here keys ih =>
    obtain ⟨final, one', holds⟩ := ih
    obtain rfl := one'.heap?_eq here
    exact ⟨_, one'.setHeap here _, rekeyed keys holds⟩
  | duplicate earlier engine ih =>
    obtain ⟨final, one', holds⟩ := ih
    exact ⟨final, one'.duplicate engine, holds⟩
  | perform earlier performed ih =>
    obtain ⟨final, one', holds⟩ := ih
    obtain ⟨answer, one''⟩ := one'.perform performed
    exact ⟨_, one'', answer ▸ kept _ _ holds⟩

/-! ## Running a program -/

/-- The history and the world after engines were asked in turn, the latest first.  An engine that is
    asked nothing is duplicated; asking an engine that does not exist does nothing. -/
def drive (start : World) : List (Nat × Option Request) → History × World
  | [] => ([], start)
  | (engine, none) :: earlier =>
    let before := start.drive earlier
    (before.1, before.2.duplicate engine)
  | (engine, some request) :: earlier =>
    let before := start.drive earlier
    match before.2.perform engine .unknown request with
    | some step => (⟨request, step.answer⟩ :: before.1, step.state)
    | none => before

/-- A list of requests makes a run. -/
theorem run_drive (start : World) (asked : List (Nat × Option Request)) :
    Run start (start.drive asked).1 (start.drive asked).2 := by
  induction asked with
  | nil => exact .start
  | cons ask earlier ih =>
    obtain ⟨engine, _ | request⟩ := ask
    · exact ih.duplicate engine
    · rw [drive]
      split
      · rename_i step performed
        exact ih.perform performed
      · exact ih

/-- What comes of asking the engine of a fresh heap with the default limits and the given keys. -/
def trial (keys : List UInt32) (asked : List (Nat × Option Request)) : History × World :=
  match Heap.ofConfig {} (.fixed keys) with
  | .ok heap => (ofHeap heap).drive asked
  | .error _ => ([], ⟨#[], #[]⟩)

theorem reached_trial (keys : List UInt32) (asked : List (Nat × Option Request)) :
    Reached {} (.fixed keys) (trial keys asked).1 (trial keys asked).2 :=
  ⟨_, rfl, run_drive _ asked⟩

end World

end SegmentHeap
