/-
  What a slice can do.

  Slicing, moving and duplicating never lead out of the window of a handle: all that is derived from
  it is a part of it (`Handle.Derived.partOf`).  So a request that accesses memory through derived
  handles only is `Confined` to the window, also if it frees: a slice frees nothing.

  Such a request asks the table for one segment and no more.  Whether an access is carried out, and
  where, the handle alone decides (`Handle.target`), since its window lies in the segment.  So what
  the request makes of the segment is a function of the segment (`Request.written`), and the heap is
  as it was but for that (`Reaches.perform`).  With this the frame is a matter of one segment: bytes
  and tags apart from the window stay (`Segment.KeptOutside`).
-/
import SegmentHeap.Proofs.Heap.Alike
import SegmentHeap.Proofs.Handle.Proper

namespace SegmentHeap

/-! ## What is derived from a handle -/

/-- The handle that a request makes another one of. -/
def Request.origin? : Request → Option Handle
  | .slice handle .. | .add handle _ | .sub handle _ | .dup handle => some handle
  | _ => none

/-- A handle, and all that slicing, moving and duplicating make of it, on any heaps. -/
inductive Handle.Derived (source : Handle) : Handle → Prop
  | self : Derived source source
  | made {handle given : Handle} {request : Request} (earlier : Derived source handle)
      (moved : request.origin? = some handle) (heap : Heap) (location : Location)
      (answer : (heap.perform location request).answer = .ok (.handle given)) :
      Derived source given

/-- A request that loads, stores, slices and frees only through handles derived from the source. -/
def Request.Confined (source : Handle) : Request → Prop
  | .load _ handle | .store _ handle _ | .slice handle .. | .free handle => source.Derived handle
  | .add .. | .sub .. | .dup .. => True
  | _ => False

/-- The handle reaches a part of what the other one reaches, and is a slice if that is one. -/
structure Handle.PartOf (part source : Handle) : Prop where
  key_eq : part.key = source.key
  base_le : source.window.base ≤ part.window.base
  bound_le : part.window.bound ≤ source.window.bound
  ordered : source.window.base ≤ source.window.bound → part.window.base ≤ part.window.bound
  sliced : source.sliced = true → part.sliced = true

/-- A handle that is made of another is that one with its cursor moved, or a slice of it. -/
theorem Heap.perform_of_origin {heap : Heap} {location : Location} {request : Request}
    {origin given : Handle} (moved : request.origin? = some origin)
    (answer : (heap.perform location request).answer = .ok (.handle given)) :
    (∃ offset, given = { origin with offset }) ∨
      ∃ lo hi, origin.slice heap.table lo hi = .ok given := by
  cases request with
  | slice handle lo hi =>
    injection moved with same
    subst same
    refine Or.inr ⟨lo, hi, ?_⟩
    rcases cut : handle.slice heap.table lo hi with fault | part
    · simp only [perform, Step.mapAnswer, slice_of_fault cut] at answer
      cases answer
    · simp only [perform, Step.mapAnswer, slice_of_ok cut] at answer
      injection answer with same
      injection same with same
      rw [same]
  | add handle delta | sub handle delta | dup handle =>
    injection moved with same
    injection answer with made
    injection made with made
    subst same made
    exact Or.inl ⟨_, rfl⟩
  | _ => cases moved

/-- Every derived handle is a part of its source. -/
theorem Handle.Derived.partOf {source handle : Handle} (derived : source.Derived handle) :
    handle.PartOf source := by
  induction derived with
  | self => exact ⟨rfl, UInt32.le_refl _, UInt32.le_refl _, id, id⟩
  | made earlier moved heap location answer part =>
    rcases Heap.perform_of_origin moved answer with ⟨offset, rfl⟩ | ⟨lo, hi, cut⟩
    · exact ⟨part.key_eq, part.base_le, part.bound_le, part.ordered, part.sliced⟩
    · obtain ⟨_, _, _, window, narrowed, rfl⟩ := Handle.slice_eq_ok_iff.1 cut
      obtain ⟨base, _, ordered, bound⟩ := Window.toNat_of_narrow narrowed
      refine ⟨part.key_eq, UInt32.le_trans part.base_le (UInt32.le_iff_toNat_le.2 ?_),
        UInt32.le_trans (UInt32.le_iff_toNat_le.2 bound) part.bound_le,
        fun _ => UInt32.le_iff_toNat_le.2 ordered, fun _ => rfl⟩
      show _ ≤ window.base.toNat
      omega

namespace Handle

variable {handle source : Handle} {table : KeyTable} {segment : Segment} {size addr : Nat}

/-! ## What a handle decides by itself -/

/-- The address of an access, as far as the handle by itself decides. -/
def target (handle : Handle) (size : Nat) : Except Fault Nat := do
  handle.checkIdentity
  handle.window.address handle.offset size

theorem resolve_of_live (live : handle.liveSegment table = .ok segment) (size : Nat) :
    handle.resolve table size = (handle.target size).map fun addr => (segment, addr) := by
  rw [resolve, target, live]
  rcases handle.checkIdentity with fault | ⟨⟩
  · rfl
  rcases handle.window.address handle.offset size with fault | addr <;> rfl

/-- An access through a part of a handle lies in the window of that. -/
theorem PartOf.within_of_target (part : handle.PartOf source)
    (allowed : handle.target size = .ok addr) :
    source.window.base.toNat ≤ addr ∧ addr + size ≤ source.window.bound.toNat := by
  rw [target] at allowed
  rcases checked : handle.checkIdentity with fault | ⟨⟩
  · rw [checked] at allowed
    cases allowed
  · rw [checked] at allowed
    obtain ⟨base, bound⟩ := Window.le_bound_of_address allowed
    have base_le := UInt32.le_iff_toNat_le.1 part.base_le
    have bound_le := UInt32.le_iff_toNat_le.1 part.bound_le
    omega

/-- A slice frees nothing, whether it is damaged, null or neither. -/
theorem free_of_sliced (sliced : handle.sliced = true) (table : KeyTable) :
    handle.free table =
      ⟨if handle.corrupted = true then .error .corruptedHandle
        else if handle.isNull = true then .ok () else .error .invalidFree, table, []⟩ := by
  unfold free
  rw [if_pos sliced]
  split
  · rfl
  · split <;> rfl

end Handle

/-- Freeing a slice leaves the heap as it is. -/
theorem Heap.state_free_of_sliced {handle : Handle} (sliced : handle.sliced = true) (heap : Heap)
    (location : Location) : (heap.free location handle).state = heap := by
  unfold free run
  rw [Handle.free_of_sliced sliced]
  split <;> rfl

/-! ## What a request makes of the segment -/

/-- The segment after a request that is confined to it. -/
def Request.written (request : Request) (segment : Segment) : Segment :=
  match request with
  | .store op handle value =>
    match op.bytes? value, handle.target op.width with
    | some bytes, .ok addr => segment.stored addr bytes (op.tag? value addr)
    | _, _ => segment
  | _ => segment

/-- The segment after requests in turn that are confined to it. -/
def Segment.afterAll (segment : Segment) : List (Location × Request) → Segment
  | [] => segment
  | ask :: later => (ask.2.written segment).afterAll later

/-- The request leaves every segment as it is, or has every segment stored to alike. -/
theorem Request.written_cases (request : Request) :
    (∀ segment, request.written segment = segment) ∨
    ∃ op handle value bytes addr, request = .store op handle value ∧
      op.bytes? value = some bytes ∧ handle.target op.width = .ok addr ∧
      ∀ segment, request.written segment = segment.stored addr bytes (op.tag? value addr) := by
  cases request with
  | store op handle value =>
    rcases typed : op.bytes? value with _ | bytes
    · exact Or.inl fun segment => by simp only [written, typed]
    rcases allowed : handle.target op.width with fault | addr
    · exact Or.inl fun segment => by simp only [written, typed, allowed]
    · refine Or.inr ⟨op, handle, value, bytes, addr, rfl, typed, allowed, fun segment => ?_⟩
      simp only [written, typed, allowed]
  | _ => exact Or.inl fun segment => rfl

theorem Request.size_written (request : Request) (segment : Segment) :
    (request.written segment).size = segment.size := by
  rcases request.written_cases with same | ⟨_, _, _, _, _, _, _, _, stored⟩
  · rw [same]
  · rw [stored, Segment.size_stored]

/-- `after` has the segment under the key and is `before` otherwise. -/
structure Heap.Leaves (before after : Heap) (key : UInt32) (segment : Segment) : Prop where
  puts : KeyTable.Puts before.table after.table key segment
  capacity_eq : after.table.capacity = before.table.capacity
  len_eq : after.table.len = before.table.len
  retired_eq : after.table.retired = before.table.retired

/-- A valid heap, and the segment of a handle, in which the window of the handle lies. -/
structure Heap.Reaches (heap : Heap) (handle : Handle) (segment : Segment) : Prop where
  valid : heap.Valid
  found : heap.table.get? handle.key = some segment
  inside : handle.window.bound ≤ segment.size

theorem Handle.Proper.reaches {heap : Heap} {handle : Handle} {segment : Segment}
    (proper : handle.Proper heap.table) (valid : heap.Valid)
    (found : heap.table.get? handle.key = some segment) : heap.Reaches handle segment :=
  ⟨valid, found, proper.admits.inside found⟩

namespace Heap

variable {heap before middle after : Heap} {handle source : Handle} {segment written : Segment}
  {key : UInt32} {location : Location} {op : StoreOp} {value : Value} {bytes : List UInt8}

theorem Leaves.refl (found : heap.table.get? key = some segment) :
    heap.Leaves heap key segment := by
  refine ⟨⟨?_, fun _ => rfl⟩, rfl, rfl, rfl⟩
  intro other
  by_cases same : other = key
  · rw [if_pos same, same, found]
  · rw [if_neg same]

theorem Leaves.trans (earlier : before.Leaves middle key segment)
    (later : middle.Leaves after key written) : before.Leaves after key written := by
  refine ⟨⟨?_, ?_⟩, later.capacity_eq.trans earlier.capacity_eq, later.len_eq.trans earlier.len_eq,
    later.retired_eq.trans earlier.retired_eq⟩
  · intro other
    rw [later.puts.get?_eq, earlier.puts.get?_eq]
    split <;> rfl
  · intro other
    rw [later.puts.isRetired_eq, earlier.puts.isRetired_eq]

/-- The same keys name segments. -/
theorem Leaves.contains_iff (leaves : before.Leaves after key written)
    (found : before.table.get? key = some segment) (other : UInt32) :
    after.table.contains other = true ↔ before.table.contains other = true := by
  rw [KeyTable.contains, KeyTable.contains, leaves.puts.get?_eq]
  split
  · rename_i same
    rw [same, found]
    rfl
  · rfl

/-- Writing to a segment leaves it written. -/
theorem leaves_stored (found : heap.table.get? key = some segment) (addr : Nat)
    (bytes : List UInt8) (tag? : Option Tag) :
    heap.Leaves
      { heap with table := heap.table.modify key fun _ => segment.stored addr bytes tag? } key
      (segment.stored addr bytes tag?) := by
  have fills := KeyTable.fills_stored found addr bytes tag?
  refine ⟨fills.puts, fills.capacity_eq, ?_, fills.retired_eq⟩
  show (heap.table.modify key fun _ => segment.stored addr bytes tag?).len = heap.table.len
  rw [KeyTable.modify_of_some found]

namespace Reaches

/-- The parts of a handle lie in the segment as well. -/
theorem part (reaches : heap.Reaches source segment) (part : handle.PartOf source) :
    heap.Reaches handle segment :=
  ⟨reaches.valid, part.key_eq ▸ reaches.found, UInt32.le_trans part.bound_le reaches.inside⟩

theorem liveSegment_eq (reaches : heap.Reaches handle segment) :
    handle.liveSegment heap.table = .ok segment :=
  Handle.liveSegment_of_get? reaches.found (reaches.valid.standing reaches.found)

/-- An access that its handle allows is inside the segment. -/
theorem inside_of_target (reaches : heap.Reaches handle segment) {size addr : Nat}
    (allowed : handle.target size = .ok addr) : addr + size ≤ segment.size.toNat := by
  have whole : handle.PartOf handle := Handle.Derived.self.partOf
  have inside := (whole.within_of_target allowed).2
  have bound := UInt32.le_iff_toNat_le.1 reaches.inside
  omega

/-- What a load answers, from the target of its handle. -/
theorem answer_load (reaches : heap.Reaches handle segment) (location : Location) (op : LoadOp) :
    (heap.load location handle op).answer =
      match handle.target op.width with
      | .error fault =>
        .error { fault, operation := .load op, location, handle, size := UInt32.ofNat op.width }
      | .ok addr => .ok (op.valueAt heap.table location segment addr) := by
  have resolves := Handle.resolve_of_live reaches.liveSegment_eq op.width
  rcases allowed : handle.target op.width with fault | addr
  · rw [allowed] at resolves
    exact load_of_fault resolves
  · rw [allowed] at resolves
    exact load_of_resolve resolves (reaches.valid.standing reaches.found)
      (reaches.inside_of_target allowed)

/-- What a store of the right type does, from the target of its handle. -/
theorem store_eq (reaches : heap.Reaches handle segment) (location : Location)
    (typed : op.bytes? value = some bytes) :
    heap.store location handle op value =
      match handle.target op.width with
      | .error fault =>
        heap.refuse { fault, operation := .store op, location, handle,
                      size := UInt32.ofNat op.width }
      | .ok addr =>
        { answer := .ok ()
          state := { heap with
            table := heap.table.modify handle.key fun _ =>
              segment.stored addr bytes (op.tag? value addr) } } := by
  have resolves := Handle.resolve_of_live reaches.liveSegment_eq op.width
  rcases allowed : handle.target op.width with fault | addr
  · rw [allowed] at resolves
    exact store_of_fault typed resolves
  · rw [allowed] at resolves
    exact store_of_resolve typed resolves (reaches.valid.standing reaches.found)
      (reaches.inside_of_target allowed)

/-- A confined request changes nothing but the segment. -/
theorem leaves (reaches : heap.Reaches source segment) (sliced : source.sliced = true)
    {request : Request} (confined : request.Confined source) (location : Location) :
    heap.Leaves (heap.perform location request).state source.key (request.written segment) := by
  cases request with
  | load op handle =>
    simp only [perform, Step.mapAnswer, state_load]
    exact .refl reaches.found
  | slice handle lo hi =>
    simp only [perform, Step.mapAnswer, state_slice]
    exact .refl reaches.found
  | add handle delta | sub handle delta | dup handle => exact .refl reaches.found
  | free handle =>
    have cut := confined.partOf.sliced sliced
    simp only [perform, Step.mapAnswer, state_free_of_sliced cut]
    exact .refl reaches.found
  | store op handle value =>
    have part := confined.partOf
    rcases typed : op.bytes? value with _ | bytes
    · simp only [perform, Step.mapAnswer, store_of_untyped typed, Request.written, typed]
      exact .refl reaches.found
    · simp only [perform, Step.mapAnswer, (reaches.part part).store_eq location typed,
        Request.written, typed]
      rcases handle.target op.width with fault | addr
      · exact .refl reaches.found
      · rw [part.key_eq]
        exact leaves_stored reaches.found addr bytes _
  | _ => cases confined

theorem perform (reaches : heap.Reaches source segment) (sliced : source.sliced = true)
    {request : Request} (confined : request.Confined source) (location : Location) :
    (heap.perform location request).state.Reaches source (request.written segment) := by
  have leaves := reaches.leaves sliced confined location
  refine ⟨reaches.valid.perform location request, leaves.puts.get?_self, ?_⟩
  rw [Request.size_written]
  exact reaches.inside

/-- Any number of confined requests change nothing but the segment. -/
theorem serve (reaches : heap.Reaches source segment) (sliced : source.sliced = true)
    {asked : List (Location × Request)} (confined : ∀ ask ∈ asked, ask.2.Confined source) :
    heap.Leaves (heap.serve asked).2 source.key (segment.afterAll asked) ∧
      (heap.serve asked).2.Valid := by
  induction asked generalizing heap segment with
  | nil => exact ⟨.refl reaches.found, reaches.valid⟩
  | cons ask later ih =>
    obtain ⟨location, request⟩ := ask
    obtain ⟨first, rest⟩ := List.forall_mem_cons.1 confined
    obtain ⟨leaves, valid⟩ := ih (reaches.perform sliced first location) rest
    exact ⟨(reaches.leaves sliced first location).trans leaves, valid⟩

end Reaches

end Heap

/-! ## The frame -/

namespace Segment

variable {before middle after segment : Segment} {window : Window} {source : Handle}

/-- The segment is as before outside of the window: it has the same size and the same bytes, and the
    same tags where none of the eight bytes is in the window. -/
structure KeptOutside (before after : Segment) (window : Window) : Prop where
  size_eq : after.size = before.size
  byte_eq : ∀ addr, ¬ (window.base.toNat ≤ addr ∧ addr < window.bound.toNat) →
    after.contents.byte addr = before.contents.byte addr
  mem_tags_iff : ∀ tag : Tag,
    tag.meets window.base.toNat (window.bound.toNat - window.base.toNat) = false →
      (tag ∈ after.tags ↔ tag ∈ before.tags)

theorem KeptOutside.refl (segment : Segment) (window : Window) :
    segment.KeptOutside segment window :=
  ⟨rfl, fun _ _ => rfl, fun _ _ => Iff.rfl⟩

theorem KeptOutside.trans (earlier : before.KeptOutside middle window)
    (later : middle.KeptOutside after window) : before.KeptOutside after window := by
  refine ⟨later.size_eq.trans earlier.size_eq, ?_, ?_⟩
  · intro addr apart
    rw [later.byte_eq addr apart, earlier.byte_eq addr apart]
  · intro tag apart
    rw [later.mem_tags_iff tag apart, earlier.mem_tags_iff tag apart]

/-- A store inside the window keeps what is outside. -/
theorem keptOutside_stored {op : StoreOp} {value : Value} {bytes : List UInt8} {addr : Nat}
    (typed : op.bytes? value = some bytes) (base : window.base.toNat ≤ addr)
    (bound : addr + op.width ≤ window.bound.toNat) :
    segment.KeptOutside (segment.stored addr bytes (op.tag? value addr)) window := by
  have length := StoreOp.length_bytes typed
  refine ⟨rfl, ?_, ?_⟩
  · intro at_ apart
    rw [contents_stored, Memory.byte_write, length, if_neg (by omega)]
  · intro tag apart
    rw [← Bool.not_eq_true, Tag.meets_iff] at apart
    rw [mem_tags_stored, length]
    constructor
    · rintro (own | ⟨older, _⟩)
      · -- the tag that is left lies where the bytes do
        obtain ⟨rfl, stored, _, rfl⟩ := StoreOp.tag?_eq_some_iff.1 own
        have width : StoreOp.width .handle = wordBytes := rfl
        have positive : 0 < wordBytes := by decide
        exact absurd ⟨by omega, by show _ < addr + wordBytes; omega, by show addr < _; omega⟩ apart
      · exact older
    · intro older
      refine Or.inr ⟨older, Bool.eq_false_iff.2 fun meets => apart ?_⟩
      obtain ⟨positive, left, right⟩ := Tag.meets_iff.1 meets
      exact ⟨by omega, by omega, by omega⟩

theorem keptOutside_written {request : Request} (confined : request.Confined source) :
    segment.KeptOutside (request.written segment) source.window := by
  rcases request.written_cases with same |
    ⟨op, handle, value, bytes, addr, rfl, typed, allowed, stored⟩
  · rw [same]
    exact .refl segment _
  · rw [stored]
    obtain ⟨base, bound⟩ := confined.partOf.within_of_target allowed
    exact keptOutside_stored typed base bound

theorem keptOutside_afterAll {asked : List (Location × Request)}
    (confined : ∀ ask ∈ asked, ask.2.Confined source) :
    segment.KeptOutside (segment.afterAll asked) source.window := by
  induction asked generalizing segment with
  | nil => exact .refl segment _
  | cons ask later ih =>
    obtain ⟨first, rest⟩ := List.forall_mem_cons.1 confined
    exact (keptOutside_written first).trans (ih rest)

end Segment

end SegmentHeap
