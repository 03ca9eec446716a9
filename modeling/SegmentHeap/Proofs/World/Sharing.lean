/-
  Engines share exactly what their heap holds.

  A world comes about by adding engines with a heap of their own, by duplicating engines and by
  asking them, in any order (`World.Grown`).  The engines that reach one heap are a group.  What a
  group has answered, and what its heap holds, is what one engine answers and holds that is asked
  the same alone, in the same order: requests to other groups play no part, whichever handles they
  name.

  This is an invariant of growing (`World.Separate`), with one case for each of the three ways: a
  new engine is asked nothing yet, a duplicated one joins a group without changing what it was
  asked, and a request changes the heap of its own group only.
-/
import SegmentHeap.Proofs.World.Run

namespace SegmentHeap

/-- A request with its answer, and the engine and the place that it came through. -/
structure Asking where
  engine : Nat
  location : Location
  record : Record

/-- The same request and answer through another engine. -/
def Asking.through (asking : Asking) (engine : Nat) : Asking := { asking with engine }

namespace World

/-! ## Asking engines in turn -/

/-- What comes of asking engines in turn, the first request first.  Asking an engine that does not
    exist does nothing. -/
def serve (world : World) : List (Nat × Location × Request) → List Asking × World
  | [] => ([], world)
  | (engine, location, request) :: later =>
    match world.perform engine location request with
    | some step =>
      let rest := step.state.serve later
      (⟨engine, location, request, step.answer⟩ :: rest.1, rest.2)
    | none => world.serve later

/-- The requests of a log, all through one engine. -/
def requests (log : List Asking) (engine : Nat) : List (Nat × Location × Request) :=
  log.map fun asking => (engine, asking.location, asking.record.request)

variable {world : World} {heap other : Heap} {engine index : Nat} {location : Location}
  {request : Request} {step : Step World (Except Trap Reply)} {log : List Asking}

theorem serve_append (world : World) (first later : List (Nat × Location × Request)) :
    world.serve (first ++ later) =
      ((world.serve first).1 ++ ((world.serve first).2.serve later).1,
        ((world.serve first).2.serve later).2) := by
  induction first generalizing world with
  | nil => rfl
  | cons ask first ih =>
    obtain ⟨engine, location, request⟩ := ask
    rw [List.cons_append, serve, serve]
    rcases world.perform engine location request with _ | step
    · exact ih world
    · simp only [ih step.state, List.cons_append]

/-! ## One request to one of many engines -/

theorem heap?_eq_some_iff :
    world.heap? engine = some heap ↔
      ∃ index, world.engines[engine]? = some index ∧ world.heaps[index]? = some heap := by
  rw [heap?, Option.bind_eq_some_iff]

theorem shares_iff_of_engine (there : world.engines[engine]? = some index) (other : Nat) :
    world.shares engine other = true ↔ world.engines[other]? = some index := by
  rw [shares, there]
  rcases world.engines[other]? with _ | index'
  · exact iff_of_false Bool.false_ne_true nofun
  · show (index == index') = true ↔ some index' = some index
    rw [beq_iff_eq, Option.some.injEq]
    exact eq_comm

/-- A request through an engine is a request to its heap, and changes no other. -/
theorem perform_cases (performed : world.perform engine location request = some step) :
    ∃ index heap, world.engines[engine]? = some index ∧ world.heaps[index]? = some heap ∧
      step.answer = (heap.perform location request).answer ∧
      step.state =
        { world with
          heaps := world.heaps.setIfInBounds index (heap.perform location request).state } := by
  unfold perform at performed
  obtain ⟨heap, here, rfl⟩ := Option.map_eq_some_iff.1 performed
  obtain ⟨index, there, held⟩ := heap?_eq_some_iff.1 here
  refine ⟨index, heap, there, held, rfl, ?_⟩
  simp only [Step.mapState, setHeap, there]

/-! ## Growing -/

/-- The worlds that come about by adding engines, duplicating them and asking them, in any order:
    with the heaps that were added, as they were then, and all that was asked, the first request
    first. -/
inductive Grown : Array Heap → List Asking → World → Prop
  | empty : Grown #[] [] ⟨#[], #[]⟩
  | add {made : Array Heap} {log : List Asking} {world : World} (earlier : Grown made log world)
      (heap : Heap) : Grown (made.push heap) log (world.add heap)
  | duplicate {made : Array Heap} {log : List Asking} {world : World}
      (earlier : Grown made log world) (engine : Nat) : Grown made log (world.duplicate engine)
  | perform {made : Array Heap} {log : List Asking} {world : World}
      {step : Step World (Except Trap Reply)} {engine : Nat} {location : Location}
      {request : Request} (earlier : Grown made log world)
      (performed : world.perform engine location request = some step) :
      Grown made (log ++ [⟨engine, location, request, step.answer⟩]) step.state

/-- The part of a log that went to one heap. -/
def part (engines : Array Nat) (log : List Asking) (index : Nat) : List Asking :=
  log.filter fun asking => engines[asking.engine]? == some index

/-- Every heap is what it was made as, after the requests of its own part of the log. -/
structure Separate (made : Array Heap) (log : List Asking) (world : World) : Prop where
  size_eq : made.size = world.heaps.size
  engine_lt : ∀ {engine index : Nat}, world.engines[engine]? = some index → index < world.heaps.size
  asked_lt : ∀ asking ∈ log, asking.engine < world.engines.size
  served : ∀ {index : Nat} {fresh heap}, made[index]? = some fresh →
    world.heaps[index]? = some heap →
    (ofHeap fresh).serve (requests (part world.engines log index) 0) =
      ((part world.engines log index).map (·.through 0), ofHeap heap)

variable {made : Array Heap}

/-- One more engine changes no part of the log. -/
theorem part_push (separate : Separate made log world) (target index : Nat) :
    part (world.engines.push target) log index = part world.engines log index := by
  refine List.filter_congr fun asking listed => ?_
  rw [Array.getElem?_push, if_neg (Nat.ne_of_lt (separate.asked_lt asking listed))]

/-- A request is the last one of the part of its own group, and of no other part. -/
theorem part_append {engines : Array Nat} {asking : Asking} {target : Nat}
    (there : engines[asking.engine]? = some target) (log : List Asking) (index : Nat) :
    part engines (log ++ [asking]) index =
      part engines log index ++ if target = index then [asking] else [] := by
  rw [part, List.filter_append, ← part, List.filter_cons, there, List.filter_nil]
  simp only [beq_iff_eq, Option.some.injEq]

theorem separate_empty : Separate #[] [] ⟨#[], #[]⟩ := by
  refine ⟨rfl, ?_, ?_, ?_⟩
  · intro engine index there
    simp at there
  · exact fun asking listed => absurd listed List.not_mem_nil
  · intro index fresh heap there
    simp at there

theorem Separate.add (separate : Separate made log world) (heap : Heap) :
    Separate (made.push heap) log (world.add heap) := by
  have size := separate.size_eq
  have nothing : part world.engines log world.heaps.size = [] := by
    refine List.filter_eq_nil_iff.2 fun asking listed here => ?_
    exact Nat.lt_irrefl _ (separate.engine_lt (beq_iff_eq.1 here))
  refine ⟨?_, ?_, ?_, ?_⟩
  · simp [World.add, size]
  · intro engine index there
    simp only [World.add, Array.getElem?_push, Array.size_push] at there ⊢
    split at there
    · injection there with same
      omega
    · have := separate.engine_lt there
      omega
  · intro asking listed
    have := separate.asked_lt asking listed
    simp only [World.add, Array.size_push]
    omega
  · intro index fresh held began holds
    rw [World.add, part_push separate]
    simp only [World.add, Array.getElem?_push, size] at began holds
    split at began
    · rename_i last
      rw [if_pos last] at holds
      injection began with began
      injection holds with holds
      rw [last, nothing, ← began, ← holds]
      rfl
    · rename_i older
      rw [if_neg older] at holds
      exact separate.served began holds

theorem Separate.duplicate (separate : Separate made log world) (engine : Nat) :
    Separate made log (world.duplicate engine) := by
  unfold World.duplicate
  split
  · exact separate
  rename_i target found
  refine ⟨separate.size_eq, ?_, ?_, ?_⟩
  · intro other index there
    simp only [Array.getElem?_push] at there
    split at there
    · injection there with same
      exact same ▸ separate.engine_lt found
    · exact separate.engine_lt there
  · intro asking listed
    have := separate.asked_lt asking listed
    simp only [Array.size_push]
    omega
  · intro index fresh heap began holds
    rw [part_push separate]
    exact separate.served began holds

theorem Separate.perform (separate : Separate made log world)
    (performed : world.perform engine location request = some step) :
    Separate made (log ++ [⟨engine, location, request, step.answer⟩]) step.state := by
  obtain ⟨target, heap, there, held, answer, state⟩ := perform_cases performed
  rw [state, answer]
  refine ⟨?_, ?_, ?_, ?_⟩
  · simpa using separate.size_eq
  · intro other index found
    simpa using separate.engine_lt found
  · intro asking listed
    rcases List.mem_append.1 listed with older | new
    · exact separate.asked_lt asking older
    · rw [List.mem_singleton.1 new]
      exact (Array.getElem?_eq_some_iff.1 there).1
  · intro index fresh after began holds
    rw [Array.getElem?_setIfInBounds] at holds
    by_cases own : target = index
    · -- the group of the engine: its heap goes on by this request
      have inside := (Array.getElem?_eq_some_iff.1 held).1
      rw [if_pos own, if_pos inside] at holds
      injection holds with holds
      subst own holds
      rw [part_append there, if_pos rfl, requests, List.map_append, List.map_append, serve_append,
        ← requests, separate.served began held]
      rfl
    · rw [if_neg own] at holds
      rw [part_append there, if_neg own, List.append_nil]
      exact separate.served began holds

theorem Grown.separate (grown : Grown made log world) : Separate made log world := by
  induction grown with
  | empty => exact separate_empty
  | add earlier heap ih => exact ih.add heap
  | duplicate earlier engine ih => exact ih.duplicate engine
  | perform earlier performed ih => exact ih.perform performed

/-- Asking engines in turn is a way to grow. -/
theorem Grown.serve (grown : Grown made log world) (asked : List (Nat × Location × Request)) :
    Grown made (log ++ (world.serve asked).1) (world.serve asked).2 := by
  induction asked generalizing log world with
  | nil => simpa [World.serve] using grown
  | cons ask later ih =>
    obtain ⟨engine, location, request⟩ := ask
    rw [World.serve]
    rcases performed : world.perform engine location request with _ | step
    · exact ih grown
    · simpa using ih (grown.perform performed)

/-! ## Groups -/

theorem heap?_of_shares {one other : Nat} (shared : world.shares one other = true)
    (here : world.heap? one = some heap) : world.heap? other = some heap := by
  obtain ⟨index, there, held⟩ := heap?_eq_some_iff.1 here
  exact heap?_eq_some_iff.2 ⟨index, (shares_iff_of_engine there other).1 shared, held⟩

/-- It makes no difference which engine of a group is asked. -/
theorem perform_of_shares {one other : Nat} (shared : world.shares one other = true)
    (here : world.heap? one = some heap) (location : Location) (request : Request) :
    world.perform other location request = world.perform one location request := by
  obtain ⟨index, there, _⟩ := heap?_eq_some_iff.1 here
  have there' := (shares_iff_of_engine there other).1 shared
  rw [perform, perform, heap?_of_shares shared here, here]
  simp only [Option.map_some, Step.mapState, setHeap, there, there']

/-- A request to one group leaves the heaps of the others alone. -/
theorem heap?_of_perform_apart {one other : Nat} (apart : world.shares one other = false)
    (here : world.heap? one = some heap)
    (performed : world.perform other location request = some step) :
    step.state.heap? one = some heap := by
  obtain ⟨index, there, held⟩ := heap?_eq_some_iff.1 here
  obtain ⟨target, _, there', _, _, state⟩ := perform_cases performed
  have different : ¬ target = index := by
    rintro rfl
    rw [(shares_iff_of_engine there other).2 there'] at apart
    cases apart
  refine heap?_eq_some_iff.2 ⟨index, ?_, ?_⟩
  · rw [state]
    exact there
  · rw [state, Array.getElem?_setIfInBounds, if_neg different]
    exact held

/-- What the engines of a group have answered, and what their heap holds, is what a single engine
    answers and holds that begins with the heap of the group and is asked only what the group was
    asked, in order.  At any time all engines of the group see the same heap and are as good as each
    other, and a request to another group leaves that heap as it is, whatever handles it names. -/
theorem sharing_is_by_heap (grown : Grown made log world) (here : world.heap? engine = some heap) :
    (∃ (index : Nat) (fresh : Heap),
      world.engines[engine]? = some index ∧ made[index]? = some fresh ∧
      (ofHeap fresh).serve
          (requests (log.filter fun asking => world.shares engine asking.engine) 0) =
        ((log.filter fun asking => world.shares engine asking.engine).map (·.through 0),
          ofHeap heap)) ∧
    (∀ other, world.shares engine other = true → world.heap? other = some heap ∧
      ∀ location request,
        world.perform other location request = world.perform engine location request) ∧
    (∀ other, world.shares engine other = false → ∀ location request step,
      world.perform other location request = some step → step.state.heap? engine = some heap) := by
  obtain ⟨index, there, held⟩ := heap?_eq_some_iff.1 here
  have separate := grown.separate
  refine ⟨?_, ?_, ?_⟩
  · have inside : index < made.size := by
      rw [separate.size_eq]
      exact separate.engine_lt there
    have group : log.filter (fun asking => world.shares engine asking.engine) =
        part world.engines log index := by
      refine List.filter_congr fun asking _ => ?_
      rw [Bool.eq_iff_iff, shares_iff_of_engine there, beq_iff_eq]
    refine ⟨index, made[index], there, Array.getElem?_eq_getElem inside, ?_⟩
    rw [group]
    exact separate.served (Array.getElem?_eq_getElem inside) held
  · intro other shared
    exact ⟨heap?_of_shares shared here, perform_of_shares shared here⟩
  · intro other apart location request step performed
    exact heap?_of_perform_apart apart here performed

/-- Two engines share a heap, and a third one has a heap of its own in which the same key is issued.
    The third one frees that key through a handle of the others, and is reset: the others go on. -/
theorem sharing_is_by_heap_of_same_key :
    let fresh (keys : List UInt32) : Heap :=
      { config := {}
        table := { capacity := 11, slots := ∅, len := 0, retired := ∅, maxCapacity := 23,
                   slotLimit := 1 <<< 40, keys := .fixed keys } }
    let asked : List (Nat × Location × Request) :=
      [(0, .unknown, .alloc 16), (2, .unknown, .alloc 8), (2, .unknown, .free (.whole 7 16)),
        (1, .unknown, .store (.data (.i32 .bits8)) (.whole 7 16) (.i32 5)), (2, .unknown, .reset),
        (0, .unknown, .load (.data (.i32 .bits8 .unsigned)) (.whole 7 16))]
    let outcome :=
      ((((⟨#[], #[]⟩ : World).add (fresh [7, 9])).duplicate 0).add (fresh [7])).serve asked
    let group := outcome.1.filter fun asking => outcome.2.shares 0 asking.engine
    ∃ heap, outcome.2.heap? 0 = some heap ∧
      (ofHeap (fresh [7, 9])).serve (requests group 0) = (group.map (·.through 0), ofHeap heap) ∧
      group.map (·.record.answer.toOption) =
        [some (.handle (.whole 7 16)), some .done, some (.value (.i32 5))] := by
  intro fresh asked outcome group
  have grown : Grown #[fresh [7, 9], fresh [7]] ([] ++ outcome.1) outcome.2 :=
    (((Grown.empty.add (fresh [7, 9])).duplicate 0).add (fresh [7])).serve asked
  obtain ⟨heap, here⟩ : ∃ heap, outcome.2.heap? 0 = some heap :=
    Option.isSome_iff_exists.1 (by decide +kernel)
  obtain ⟨⟨index, began, there, held, served⟩, _, _⟩ := sharing_is_by_heap grown here
  have first : outcome.2.engines[0]? = some 0 := by decide +kernel
  obtain rfl : 0 = index := Option.some.inj (first.symm.trans there)
  obtain rfl : fresh [7, 9] = began := Option.some.inj held
  exact ⟨heap, here, served, by decide +kernel⟩

end World

end SegmentHeap
