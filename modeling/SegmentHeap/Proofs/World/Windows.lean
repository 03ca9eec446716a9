/-
  Windows keep to their segments.

  A handle carries its window wherever it goes: through slices, through memory, where a tag beside
  the word keeps the window, and through words, which have no room for it.  `windows_stay_inside`
  says that none of these routes leads out of the segment, for the handles that were given out and
  for the tags alike.  So the bounds check of the segment itself never fails after the check of the
  handle has been passed.
-/
import SegmentHeap.Proofs.World.Sound

namespace SegmentHeap

/-- What a window keeps with its key, in a handle or in a tag: the bounds are in order, the key fits
    a word, there are no bytes under the key of null, and the window lies in the segment of the key
    while that stands. -/
structure Window.Within (window : Window) (table : KeyTable) (key : UInt32) : Prop where
  ordered : window.base ≤ window.bound
  key_lt : key < keyLimit
  null : key = 0 → window = .empty
  inside : ∀ {segment}, table.get? key = some segment → window.bound ≤ segment.size

/-- A window that goes with its key keeps to the segment; the key of null was never issued. -/
theorem KeyTable.Admits.within {table : KeyTable} {key : UInt32} {window : Window}
    (admits : table.Admits key window) (valid : table.Valid) : window.Within table key := by
  refine ⟨admits.ordered, admits.key_lt, ?_, admits.inside⟩
  rintro rfl
  exact admits.strange valid.strange_zero

/-- The segment can be read and written at an address, `size` bytes at a time: none of the accesses
    fails its own check of the bounds. -/
structure Segment.Grants (segment : Segment) (addr size : Nat) : Prop where
  read : (segment.read addr size).isOk = true
  write : ∀ bytes : List UInt8, bytes.length = size → (segment.write addr bytes).isOk = true
  readWord : size = wordBytes → (segment.readWord addr).isOk = true
  writeWord : size = wordBytes → ∀ word window, (segment.writeWord addr word window).isOk = true

theorem Segment.grants_of_inside {segment : Segment} {addr size : Nat}
    (standing : segment.isFree = false) (inside : addr + size ≤ segment.size.toNat) :
    segment.Grants addr size := by
  refine ⟨?_, ?_, ?_, ?_⟩
  · rw [read_eq standing inside]
    rfl
  · intro bytes length
    rw [write_eq standing (length ▸ inside)]
    rfl
  · rintro rfl
    rw [readWord_eq standing inside]
    rfl
  · rintro rfl word window
    rw [writeWord_eq standing inside]
    rfl

namespace World

variable {config : Config} {keys : KeySource} {history : History} {world : World} {engine : Nat}
  {heap : Heap}

/-- Every handle that was ever given out and every tag in memory keeps to its segment, after every
    run.  So a segment never refuses an access that its handle has resolved. -/
theorem windows_stay_inside (reached : Reached config keys history world) (closed : history.Closed)
    (here : world.heap? engine = some heap) :
    (∀ handle : Handle, history.Issued handle → handle.window.Within heap.table handle.key) ∧
    (∀ segment ∈ heap.table.entries, ∀ tag ∈ segment.tags,
      tag.window.Within heap.table (wordKey tag.word)) ∧
    (∀ (handle : Handle) (size : Nat) (segment : Segment) (addr : Nat), history.Issued handle →
      handle.resolve heap.table size = .ok (segment, addr) → segment.Grants addr size) := by
  have sound := reached.sound here
  have table := sound.valid.table
  refine ⟨?_, ?_, ?_⟩
  · intro handle issued
    exact (sound.proper closed issued).admits.within table
  · intro segment listed tag tagged
    have found := (KeyTable.get?_eq_some_iff table).2 ⟨listed, rfl⟩
    exact (sound.admits_of_tag closed found tagged).within table
  · intro handle size segment addr issued resolves
    have standing := sound.valid.standing (Handle.get?_of_resolve resolves)
    exact Segment.grants_of_inside standing
      ((sound.proper closed issued).inside_of_resolve resolves)

/-- A slice that was cut and stored through a second engine keeps to its segment, and so does the
    tag that it left. -/
theorem windows_stay_inside_of_stored_slice :
    let part : Handle := ⟨7, ⟨4, 12⟩, 0, false, true⟩
    let outcome := trial [7]
      [(1, some (.store .handle (.whole 7 16) (.handle part))),
        (1, some (.slice (.whole 7 16) 4 12)), (0, none), (0, some (.alloc 16))]
    outcome.1.Closed ∧ outcome.1.Issued part ∧
      ∃ heap segment, outcome.2.heap? 1 = some heap ∧
        part.resolve heap.table 8 = .ok (segment, 4) ∧ part.window.Within heap.table 7 ∧
        segment.Grants 4 8 := by
  intro part outcome
  have closed : outcome.1.Closed := by decide +kernel
  have issued : outcome.1.Issued part := by decide +kernel
  obtain ⟨heap, here⟩ : ∃ heap, outcome.2.heap? 1 = some heap := ⟨_, rfl⟩
  have allowed : (outcome.2.heap? 1).map (fun heap => part.verdict heap.table 8) = some none := by
    decide +kernel
  rw [here] at allowed
  injection allowed with allowed
  have sound := (reached_trial _ _).sound here
  obtain ⟨segment, _, resolves⟩ := Handle.resolve_of_verdict_none sound.valid.standing allowed
  obtain ⟨handles, _, grants⟩ := windows_stay_inside (reached_trial _ _) closed here
  exact ⟨closed, issued, heap, segment, here, resolves, handles part issued,
    grants part 8 segment 4 issued resolves⟩

end World

end SegmentHeap
