/-
  Slices of slices, and what is reached through them.

  A slice counts its addresses from its own start, so it is its parent moved by the lower offset.
  All of this section is that one fact, for the two things that a window decides: `narrow_part` says
  that a part of a part is a part of the whole, and `address_part` that an access through a part is
  the access through the whole at a cursor that is moved by the same offset.  The offsets are 32-bit
  words with a sign and the addresses 32-bit words without one, but wherever a slice or an access is
  allowed every sum is one over the integers (`toInt_add_of_le`).

  `slices_translate` lifts both to the heap: to slicing, to asking in advance, and to every load and
  store.  That such a load or store also goes through takes a window that lies in the segment, as it
  does for all handles that were given out (`bound_le_of_gives`).
-/
import SegmentHeap.Proofs.Heap.Access
import SegmentHeap.Proofs.Heap.Confinement
import SegmentHeap.Proofs.World.Sound

namespace SegmentHeap

/-! ## Offsets -/

/-- The bounds of a slice are in order and lie among `length` bytes. -/
def Cuts (lo hi : Int32) (length : Int) : Prop :=
  0 ≤ lo.toInt ∧ lo.toInt ≤ hi.toInt ∧ hi.toInt ≤ length

/-- The `size` bytes at a cursor lie among `length` bytes. -/
def Fits (cursor : Int32) (size : Nat) (length : Int) : Prop :=
  0 ≤ cursor.toInt ∧ cursor.toInt + size ≤ length

instance (lo hi : Int32) (length : Int) : Decidable (Cuts lo hi length) :=
  inferInstanceAs (Decidable (_ ∧ _))

instance (cursor : Int32) (size : Nat) (length : Int) : Decidable (Fits cursor size length) :=
  inferInstanceAs (Decidable (_ ∧ _))

/-- A sum of offsets does not wrap below an offset that there is. -/
theorem toInt_add_of_le {a b : Int32} (top : Int32) (left : 0 ≤ a.toInt) (right : 0 ≤ b.toInt)
    (below : a.toInt + b.toInt ≤ top.toInt) : (a + b).toInt = a.toInt + b.toInt := by
  have limit := top.toInt_lt
  rw [Int32.toInt_add]
  exact Int.bmod_eq_of_le (by omega) (by omega)

/-! ## Parts of a window -/

namespace Window

variable {window part : Window} {lo hi : Int32}

/-- The part of a window from `lo` to `hi`.  Its bounds are sums over the integers. -/
structure IsPart (part window : Window) (lo hi : Int32) : Prop where
  base_eq : (part.base.toNat : Int) = window.base.toNat + lo.toInt
  bound_eq : (part.bound.toNat : Int) = window.base.toNat + hi.toInt

theorem IsPart.length_eq (isPart : part.IsPart window lo hi) :
    part.length = hi.toInt - lo.toInt := by
  unfold length
  rw [isPart.base_eq, isPart.bound_eq]
  omega

theorem IsPart.unique {other : Window} (isPart : part.IsPart window lo hi)
    (isPart' : other.IsPart window lo hi) : part = other := by
  have base : part.base = other.base := by
    rw [← UInt32.toNat_inj, ← Int.natCast_inj, isPart.base_eq, isPart'.base_eq]
  have bound : part.bound = other.bound := by
    rw [← UInt32.toNat_inj, ← Int.natCast_inj, isPart.bound_eq, isPart'.bound_eq]
  calc part = ⟨part.base, part.bound⟩ := rfl
    _ = other := by rw [base, bound]

/-- Bounds that are in order give a part. -/
theorem narrow_of_cuts (cuts : Cuts lo hi window.length) :
    ∃ part, window.narrow lo hi = .ok part ∧ part.IsPart window lo hi := by
  obtain ⟨part, narrowed⟩ : ∃ part, window.narrow lo hi = .ok part := ⟨_, if_pos cuts⟩
  obtain ⟨base, bound, _, _⟩ := toNat_of_narrow narrowed
  obtain ⟨_, _, _⟩ := cuts
  exact ⟨part, narrowed, by omega, by omega⟩

theorem narrow_of_not_cuts (cuts : ¬ Cuts lo hi window.length) :
    window.narrow lo hi = .error .invalidSlice := if_neg cuts

/-- A part of a part is a part of the whole, both offsets moved by the start of the part. -/
theorem narrow_part {lo' hi' : Int32} (isPart : part.IsPart window lo hi)
    (cuts : Cuts lo hi window.length) (inner : Cuts lo' hi' part.length) :
    (lo + lo').toInt = lo.toInt + lo'.toInt ∧ (lo + hi').toInt = lo.toInt + hi'.toInt ∧
      part.narrow lo' hi' = window.narrow (lo + lo') (lo + hi') := by
  have length := isPart.length_eq
  obtain ⟨_, _, _⟩ := cuts
  obtain ⟨_, _, _⟩ := id inner
  have lower : (lo + lo').toInt = lo.toInt + lo'.toInt :=
    toInt_add_of_le hi (by omega) (by omega) (by omega)
  have upper : (lo + hi').toInt = lo.toInt + hi'.toInt :=
    toInt_add_of_le hi (by omega) (by omega) (by omega)
  have outer : Cuts (lo + lo') (lo + hi') window.length := ⟨by omega, by omega, by omega⟩
  refine ⟨lower, upper, ?_⟩
  obtain ⟨one, narrowed, one_isPart⟩ := narrow_of_cuts inner
  obtain ⟨other, narrowed', other_isPart⟩ := narrow_of_cuts outer
  -- both are the same stretch of addresses
  have same : one.IsPart window (lo + lo') (lo + hi') := by
    refine ⟨?_, ?_⟩
    · rw [one_isPart.base_eq, isPart.base_eq, lower, Int.add_assoc]
    · rw [one_isPart.bound_eq, isPart.base_eq, upper, Int.add_assoc]
  rw [narrowed, narrowed', same.unique other_isPart]

theorem address_of_not_fits {cursor : Int32} {size : Nat}
    (fits : ¬ Fits cursor size window.length) :
    window.address cursor size = .error .outOfBounds := if_neg fits

/-- An access through a part is one through the whole, its cursor moved by the start of the part. -/
theorem address_part {cursor : Int32} {size : Nat} (isPart : part.IsPart window lo hi)
    (cuts : Cuts lo hi window.length) (fits : Fits cursor size part.length) :
    (lo + cursor).toInt = lo.toInt + cursor.toInt ∧
      ∃ addr, part.address cursor size = .ok addr ∧
        window.address (lo + cursor) size = .ok addr := by
  have length := isPart.length_eq
  have base := isPart.base_eq
  obtain ⟨_, _, _⟩ := cuts
  obtain ⟨_, _⟩ := id fits
  have moved : (lo + cursor).toInt = lo.toInt + cursor.toInt :=
    toInt_add_of_le hi (by omega) (by omega) (by omega)
  have outer : Fits (lo + cursor) size window.length := ⟨by omega, by omega⟩
  have same : part.base.toNat + cursor.toInt.toNat =
      window.base.toNat + (lo + cursor).toInt.toNat := by
    omega
  refine ⟨moved, _, if_pos fits, ?_⟩
  rw [same]
  exact if_pos outer

end Window

/-! ## Live handles -/

namespace Handle

/-- The handle with its cursor elsewhere. -/
def seek (handle : Handle) (cursor : Int32) : Handle := { handle with offset := cursor }

variable {handle : Handle} {table : KeyTable} {segment : Segment}

theorem checkIdentity_of_live (clean : handle.corrupted = false)
    (live : handle.liveSegment table = .ok segment) : handle.checkIdentity = .ok () := by
  have proper := (KeyTable.slot_of_get? (get?_of_liveSegment live)).2.2
  rw [checkIdentity_eq, clean, if_neg Bool.false_ne_true, if_neg proper]

/-- A live handle is sliced as its window is narrowed. -/
theorem slice_of_live (clean : handle.corrupted = false)
    (live : handle.liveSegment table = .ok segment) (lo hi : Int32) :
    handle.slice table lo hi =
      (handle.window.narrow lo hi).map fun window =>
        { key := handle.key, window, offset := 0, corrupted := false, sliced := true } := by
  rw [slice, checkIdentity_of_live clean live, live]
  rcases handle.window.narrow lo hi with fault | window <;> rfl

/-- A live handle leads to its segment, at the address that its window gives for the cursor. -/
theorem resolve_seek (clean : handle.corrupted = false)
    (live : handle.liveSegment table = .ok segment) (cursor : Int32) (size : Nat) :
    (handle.seek cursor).resolve table size =
      (handle.window.address cursor size).map fun addr => (segment, addr) := by
  have checked : (handle.seek cursor).checkIdentity = .ok () := checkIdentity_of_live clean live
  have same : (handle.seek cursor).liveSegment table = .ok segment := live
  rw [resolve_of_live same, target, checked]
  rfl

end Handle

/-! ## Accesses that resolve alike -/

namespace Heap

variable {heap : Heap} {location : Location} {one other : Handle}

theorem run_congr {α : Type} (heap : Heap) (trap trap' : Fault → Trap) (report : α → List Event)
    (step : Step KeyTable (Except Fault α)) :
    (heap.run trap report step).state = (heap.run trap' report step).state ∧
      (heap.run trap report step).answer.toOption =
        (heap.run trap' report step).answer.toOption := by
  unfold run
  split <;> exact ⟨rfl, rfl⟩

/-- Loads that resolve alike load the same. -/
theorem load_congr {op : LoadOp}
    (same : one.resolve heap.table op.width = other.resolve heap.table op.width) :
    (heap.load location one op).answer.toOption =
      (heap.load location other op).answer.toOption := by
  rcases op with op | _
  · have bytes : one.readBytes heap.table op.count = other.readBytes heap.table op.count := by
      rw [op.count_eq_width, Handle.readBytes, Handle.readBytes]
      exact congrArg (· >>= _) same
    simp only [load, look, bytes]
    rcases other.readBytes heap.table op.count with fault | bytes <;> rfl
  · have word : one.readWord heap.table = other.readWord heap.table := by
      rw [Handle.readWord, Handle.readWord]
      exact congrArg (· >>= _) same
    simp only [load, look, word]
    rcases other.readWord heap.table with fault | ⟨word, window?⟩ <;> rfl

/-- Stores with one key that resolve alike store the same. -/
theorem store_congr {op : StoreOp} {value : Value} (key : one.key = other.key)
    (same : one.resolve heap.table op.width = other.resolve heap.table op.width) :
    (heap.store location one op value).state = (heap.store location other op value).state ∧
      (heap.store location one op value).answer.toOption =
        (heap.store location other op value).answer.toOption := by
  have write (write : Segment → Nat → Except Fault Segment) :
      one.writeWith heap.table op.width write = other.writeWith heap.table op.width write := by
    rw [Handle.writeWith, Handle.writeWith, same, key]
  rcases typed : op.bytes? value with _ | bytes
  · rw [store_of_untyped typed, store_of_untyped typed]
    exact ⟨rfl, rfl⟩
  have length := StoreOp.length_bytes typed
  rcases op with op | _
  · simp only [StoreOp.bytes?] at typed
    simp only [store, typed, Handle.writeBytes]
    rw [show bytes.length = (StoreOp.data op).width from length, write]
    exact run_congr heap _ _ _ _
  · rcases value with v | v | v | v | stored
    iterate 4 cases typed
    simp only [store, Handle.writeHandle]
    rw [show wordBytes = StoreOp.handle.width from rfl, write]
    exact run_congr heap _ _ _ _

/-! ## Slices stand for parts of their handle -/

/-- What is asked through a slice is asked through its handle, moved by the lower bound of the
    slice, as long as it stays among the bytes of the slice; what does not is refused. -/
structure Translates (heap : Heap) (location : Location) (handle part : Handle) (lo hi : Int32) :
    Prop where
  /-- A slice of the slice is one of the handle, and the sums do not wrap. -/
  cut : ∀ lo' hi', Cuts lo' hi' (hi.toInt - lo.toInt) →
    (lo + lo').toInt = lo.toInt + lo'.toInt ∧ (lo + hi').toInt = lo.toInt + hi'.toInt ∧
      ∃ inner, (heap.slice location part lo' hi').answer = .ok inner ∧
        (heap.slice location handle (lo + lo') (lo + hi')).answer = .ok inner
  uncut : ∀ lo' hi', ¬ Cuts lo' hi' (hi.toInt - lo.toInt) →
    (heap.slice location part lo' hi').answer =
      .error { fault := .invalidSlice, operation := .slice, location, handle := part,
               size := UInt32.ofNat (hi'.toInt - lo'.toInt).toNat }
  validate_eq : ∀ cursor size, (part.seek cursor).validate heap.table size =
    if Fits cursor size (hi.toInt - lo.toInt) then .ok () else .error .outOfBounds
  /-- A load answers what it answers through the handle, and the sum does not wrap. -/
  load : ∀ cursor (op : LoadOp), Fits cursor op.width (hi.toInt - lo.toInt) →
    (lo + cursor).toInt = lo.toInt + cursor.toInt ∧
      (heap.load location (part.seek cursor) op).answer.toOption =
        (heap.load location (handle.seek (lo + cursor)) op).answer.toOption
  /-- A store does what it does through the handle, and the sum does not wrap. -/
  store : ∀ cursor (op : StoreOp) value, Fits cursor op.width (hi.toInt - lo.toInt) →
    (lo + cursor).toInt = lo.toInt + cursor.toInt ∧
      (heap.store location (part.seek cursor) op value).state =
        (heap.store location (handle.seek (lo + cursor)) op value).state ∧
      (heap.store location (part.seek cursor) op value).answer.toOption =
        (heap.store location (handle.seek (lo + cursor)) op value).answer.toOption

/-- Every access through a slice succeeds that stays among its bytes, and no other one. -/
structure Serves (heap : Heap) (location : Location) (part : Handle) (length : Int) : Prop where
  load : ∀ cursor (op : LoadOp),
    (heap.load location (part.seek cursor) op).answer.isOk = true ↔ Fits cursor op.width length
  store : ∀ cursor (op : StoreOp) value, value.scalar? = op.scalar? →
    ((heap.store location (part.seek cursor) op value).answer.isOk = true ↔
      Fits cursor op.width length)

variable {handle part : Handle} {segment : Segment} {lo hi : Int32}

theorem answer_slice_of_live (clean : handle.corrupted = false)
    (live : handle.liveSegment heap.table = .ok segment) (location : Location) (lo hi : Int32) :
    (heap.slice location handle lo hi).answer =
      match handle.window.narrow lo hi with
      | .ok window =>
        .ok { key := handle.key, window, offset := 0, corrupted := false, sliced := true }
      | .error fault =>
        .error { fault, operation := .slice, location, handle,
                 size := UInt32.ofNat (hi.toInt - lo.toInt).toNat } := by
  have cut := Handle.slice_of_live clean live lo hi
  rcases narrowed : handle.window.narrow lo hi with fault | window
  · rw [narrowed] at cut
    exact slice_of_fault cut
  · rw [narrowed] at cut
    exact slice_of_ok cut

/-- A live handle whose window is a part of another one's with its key stands for that one. -/
theorem translates_of_isPart (clean : handle.corrupted = false)
    (live : handle.liveSegment heap.table = .ok segment) (location : Location)
    (cuts : Cuts lo hi handle.window.length) (part_clean : part.corrupted = false)
    (key : part.key = handle.key) (isPart : part.window.IsPart handle.window lo hi) :
    heap.Translates location handle part lo hi := by
  have part_live : part.liveSegment heap.table = .ok segment := by
    rw [Handle.liveSegment, key]
    exact live
  have length := isPart.length_eq
  -- the two handles resolve alike, the one at a cursor and the other at that moved by `lo`
  have resolves : ∀ cursor size, Fits cursor size (hi.toInt - lo.toInt) →
      (lo + cursor).toInt = lo.toInt + cursor.toInt ∧
        (part.seek cursor).resolve heap.table size =
          (handle.seek (lo + cursor)).resolve heap.table size := by
    intro cursor size fits
    obtain ⟨moved, addr, inner, outer⟩ := Window.address_part isPart cuts (length ▸ fits)
    rw [Handle.resolve_seek part_clean part_live, Handle.resolve_seek clean live, inner, outer]
    exact ⟨moved, rfl⟩
  refine ⟨?_, ?_, ?_, ?_, ?_⟩
  · intro lo' hi' inner
    obtain ⟨lower, upper, same⟩ := Window.narrow_part isPart cuts (length ▸ inner)
    obtain ⟨window, narrowed, _⟩ : ∃ window, part.window.narrow lo' hi' = .ok window ∧ _ :=
      Window.narrow_of_cuts (length ▸ inner)
    refine ⟨lower, upper,
      { key := part.key, window, offset := 0, corrupted := false, sliced := true }, ?_, ?_⟩
    · rw [answer_slice_of_live part_clean part_live, narrowed]
    · rw [answer_slice_of_live clean live, ← same, narrowed, key]
  · intro lo' hi' outer
    have refused : part.window.narrow lo' hi' = .error .invalidSlice :=
      Window.narrow_of_not_cuts (length ▸ outer)
    rw [answer_slice_of_live part_clean part_live, refused]
  · intro cursor size
    rw [Handle.validate, Handle.resolve_seek part_clean part_live]
    by_cases fits : Fits cursor size (hi.toInt - lo.toInt)
    · obtain ⟨_, addr, inner, _⟩ := Window.address_part isPart cuts (length ▸ fits)
      rw [inner, if_pos fits]
      rfl
    · rw [Window.address_of_not_fits (length ▸ fits), if_neg fits]
      rfl
  · intro cursor op fits
    obtain ⟨moved, same⟩ := resolves cursor op.width fits
    exact ⟨moved, load_congr same⟩
  · intro cursor op value fits
    obtain ⟨moved, same⟩ := resolves cursor op.width fits
    exact ⟨moved, store_congr key same⟩

/-- A live handle whose window lies in the segment serves every access within its window. -/
theorem serves_of_inside (clean : part.corrupted = false)
    (live : part.liveSegment heap.table = .ok segment)
    (inside : part.window.bound ≤ segment.size) (location : Location) :
    heap.Serves location part part.window.length := by
  have resolves_iff : ∀ cursor size,
      (∃ held addr, (part.seek cursor).resolve heap.table size = .ok (held, addr)) ↔
        Fits cursor size part.window.length := by
    intro cursor size
    rw [Handle.resolve_seek clean live]
    by_cases fits : Fits cursor size part.window.length
    · exact iff_of_true ⟨segment, _, congrArg _ (if_pos fits)⟩ fits
    · rw [Window.address_of_not_fits fits]
      exact iff_of_false (fun ⟨_, _, resolves⟩ => by cases resolves) fits
  have within : ∀ cursor size {held addr},
      (part.seek cursor).resolve heap.table size = .ok (held, addr) →
        addr + size ≤ held.size.toNat := by
    intro cursor size held addr resolves
    obtain ⟨_, _, found, placed⟩ := Handle.resolve_eq_ok_iff.1 resolves
    have same : held = segment := Except.ok.inj (found.symm.trans live)
    have below := (Window.le_bound_of_address placed).2
    have top := UInt32.le_iff_toNat_le.1 inside
    change addr + size ≤ part.window.bound.toNat at below
    rw [same]
    omega
  refine ⟨?_, ?_⟩
  · intro cursor op
    rw [isOk_load_iff (within cursor op.width), resolves_iff]
  · intro cursor op value typed
    rw [isOk_store_iff typed (within cursor op.width), resolves_iff]

/-! ## Slices and what they reach -/

/-- The handle was given out in a run that has come to this heap. -/
def Gives (heap : Heap) (handle : Handle) : Prop :=
  ∃ config keys history world engine, World.Reached config keys history world ∧ history.Closed ∧
    world.heap? engine = some heap ∧ history.Issued handle

theorem bound_le_of_gives (gives : heap.Gives handle)
    (live : handle.liveSegment heap.table = .ok segment) :
    handle.window.bound ≤ segment.size := by
  obtain ⟨_, _, _, _, _, reached, closed, here, issued⟩ := gives
  have proper := (reached.sound here).proper closed issued
  exact proper.admits.inside (Handle.get?_of_liveSegment live)

/-- A live handle can be sliced just where the bounds are in order and within its window, wherever
    its cursor is, and is refused an invalid slice else.  The slice stands for its part of the
    window: what is sliced or accessed through it is what is sliced or accessed through the handle
    at offsets moved by `lo`, and no sum on the way wraps.  It serves just the accesses among its
    own bytes if the window of the handle lies in the segment, and so it does for every handle that
    was given out. -/
theorem slices_translate (clean : handle.corrupted = false)
    (live : handle.liveSegment heap.table = .ok segment) (location : Location) (lo hi : Int32) :
    (Cuts lo hi (handle.window.bound.toNat - handle.window.base.toNat) →
      ∃ part : Handle,
        (∀ cursor, (heap.slice location (handle.seek cursor) lo hi).answer = .ok part) ∧
        part.window.IsPart handle.window lo hi ∧
        heap.Translates location handle part lo hi ∧
        (handle.window.bound ≤ segment.size →
          heap.Serves location part (hi.toInt - lo.toInt))) ∧
    (¬ Cuts lo hi (handle.window.bound.toNat - handle.window.base.toNat) →
      ∀ cursor, (heap.slice location (handle.seek cursor) lo hi).answer =
        .error { fault := .invalidSlice, operation := .slice, location,
                 handle := handle.seek cursor,
                 size := UInt32.ofNat (hi.toInt - lo.toInt).toNat }) ∧
    (heap.Gives handle → handle.window.bound ≤ segment.size) := by
  -- the cursor has no part in whether a handle is live, nor in its window
  have clean_seek : ∀ cursor, (handle.seek cursor).corrupted = false := fun _ => clean
  have live_seek : ∀ cursor, (handle.seek cursor).liveSegment heap.table = .ok segment :=
    fun _ => live
  have window_seek : ∀ cursor, (handle.seek cursor).window = handle.window := fun _ => rfl
  refine ⟨?_, ?_, fun gives => bound_le_of_gives gives live⟩
  · intro cuts
    change Cuts lo hi handle.window.length at cuts
    obtain ⟨window, narrowed, isPart⟩ := Window.narrow_of_cuts cuts
    let part : Handle :=
      { key := handle.key, window, offset := 0, corrupted := false, sliced := true }
    have part_live : part.liveSegment heap.table = .ok segment := live
    refine ⟨part, ?_, isPart, translates_of_isPart clean live location cuts rfl rfl isPart, ?_⟩
    · intro cursor
      rw [answer_slice_of_live (clean_seek cursor) (live_seek cursor), window_seek, narrowed]
      rfl
    · intro inside
      have below : part.window.bound ≤ handle.window.bound :=
        UInt32.le_iff_toNat_le.2 (Window.toNat_of_narrow narrowed).2.2.2
      rw [← isPart.length_eq]
      exact serves_of_inside rfl part_live (UInt32.le_trans below inside) location
  · intro cuts cursor
    change ¬ Cuts lo hi handle.window.length at cuts
    rw [answer_slice_of_live (clean_seek cursor) (live_seek cursor), window_seek,
      Window.narrow_of_not_cuts cuts]

/-- The upper half of the largest segment there can be, whose addresses are beyond all offsets.  Its
    last bytes can be sliced off, and the slice reaches them at small cursors. -/
theorem slices_translate_of_vast :
    let segment : Segment := ⟨5, 0xFFFFFFFF, some ∅, []⟩
    let table : KeyTable :=
      ⟨11, (∅ : Std.ExtTreeMap Nat Segment).insert 5 segment, 1, ∅, 11, 1 <<< 40, .fixed []⟩
    let heap : Heap := ⟨{}, table⟩
    let handle : Handle := ⟨5, ⟨0x80000000, 0xFFFFFFFF⟩, -3, false, true⟩
    handle.corrupted = false ∧ handle.liveSegment heap.table = .ok segment ∧
      ∃ part : Handle,
        (∀ cursor, (heap.slice .unknown (handle.seek cursor) 0x7FFFFFF0 0x7FFFFFFF).answer =
          .ok part) ∧
        part.window = ⟨0xFFFFFFF0, 0xFFFFFFFF⟩ ∧
        heap.Translates .unknown handle part 0x7FFFFFF0 0x7FFFFFFF ∧
        heap.Serves .unknown part 15 := by
  intro segment table heap handle
  have clean : handle.corrupted = false := rfl
  have live : handle.liveSegment heap.table = .ok segment :=
    Handle.liveSegment_of_get? (by rfl) rfl
  refine ⟨clean, live, ?_⟩
  obtain ⟨part, answers, isPart, translates, serves⟩ :=
    (slices_translate clean live .unknown 0x7FFFFFF0 0x7FFFFFFF).1 (by decide)
  have window : part.window = ⟨0xFFFFFFF0, 0xFFFFFFFF⟩ :=
    isPart.unique ⟨by decide, by decide⟩
  exact ⟨part, answers, window, translates, serves (by decide)⟩

end Heap

end SegmentHeap
