/-
  Several engines over several heaps.

  An engine is a way to reach a heap.  Engines made by duplicating one another reach the same heap
  and see each other's changes; a new engine has a heap of its own.  Handles are plain values and
  belong to no engine.
-/
import SegmentHeap.Heap

namespace SegmentHeap

/-- Heaps, and for each engine the index of the heap it reaches. -/
structure World where
  heaps : Array Heap
  engines : Array Nat

namespace World

/-- One engine with its heap. -/
def ofHeap (heap : Heap) : World := ⟨#[heap], #[0]⟩

/-- The heap that an engine reaches. -/
def heap? (world : World) (engine : Nat) : Option Heap :=
  world.engines[engine]?.bind fun index => world.heaps[index]?

/-- Changes the heap that an engine reaches. -/
def setHeap (world : World) (engine : Nat) (heap : Heap) : World :=
  match world.engines[engine]? with
  | none => world
  | some index => { world with heaps := world.heaps.setIfInBounds index heap }

/-- Adds an engine with a heap of its own; it is the last one. -/
def add (world : World) (heap : Heap) : World :=
  ⟨world.heaps.push heap, world.engines.push world.heaps.size⟩

/-- Adds an engine that shares the heap of another; it is the last one. -/
def duplicate (world : World) (engine : Nat) : World :=
  match world.engines[engine]? with
  | none => world
  | some index => { world with engines := world.engines.push index }

/-- Whether two engines reach the same heap. -/
def shares (world : World) (one other : Nat) : Bool :=
  match world.engines[one]?, world.engines[other]? with
  | some i, some j => i == j
  | _, _ => false

/-- Carries out a request through an engine; `none` if there is no such engine. -/
def perform (world : World) (engine : Nat) (location : Location) (request : Request) :
    Option (Step World (Except Trap Reply)) :=
  (world.heap? engine).map fun heap =>
    (heap.perform location request).mapState (world.setHeap engine)

end World

end SegmentHeap
