/-
  Handles go through memory unchanged, and nothing else comes out of it as a handle.

  Where the last write to any of eight bytes was a handle store at their address, three things come
  together: the bytes are the word of that handle (`read_of_stored`), the tag there has its window
  (`taggedWindow?_of_stored`), and a proper handle is what its word and its window make
  (`ofLoaded_word`).  Where the last write was anything else there is no tag for the word
  (`taggedWindow?_of_altered`), so that it makes null or a corrupted handle (`ofLoaded_none`).

  `loaded_handles_were_stored` puts the two cases together for every run.
-/
import SegmentHeap.Proofs.Bytes
import SegmentHeap.Proofs.World.Sound

namespace SegmentHeap

/-! ## The handle of a word -/

attribute [ext] Handle

namespace Handle

variable {table : KeyTable} {value : Handle}

/-- The flag of a handle that can be had survives its word: a key that was never issued makes no
    difference, since such a handle was corrupted before. -/
theorem Proper.corrupted_ofWord (proper : value.Proper table) :
    (ofWord table value.word).1.corrupted = value.corrupted := by
  show (wordCorrupted value.word || decide (table.status (wordKey value.word) = .unknown)) = _
  rw [wordCorrupted_word, wordKey_word proper.admits.key_lt]
  by_cases unknown : table.status value.key = .unknown
  · obtain ⟨named, strange⟩ := KeyTable.status_eq_unknown_iff.1 unknown
    rw [proper.corrupted strange named, Bool.true_or]
  · rw [decide_eq_false unknown, Bool.or_false]

/-- The word of a handle that can be had, with its window beside it, is loaded as that handle. -/
theorem Proper.ofLoaded_word (proper : value.Proper table) (valid : table.Valid)
    (location : Location) : (ofLoaded table location value.word (some value.window)).1 = value := by
  have key : (ofWord table value.word).1.key = value.key := wordKey_word proper.admits.key_lt
  have offset : (ofWord table value.word).1.offset = value.offset := wordOffset_word value
  have corrupted := proper.corrupted_ofWord
  have sliced : (ofWord table value.word).1.sliced = value.sliced := wordSliced_word value
  simp only [ofLoaded]
  by_cases null : (ofWord table value.word).1.isNull = true
  · -- null has no window, neither decoded nor in the handle that was stored
    have zero : value.key = 0 := by
      rw [← key]
      exact beq_iff_eq.1 null
    have strange : table.Strange value.key := zero ▸ valid.strange_zero
    have window : (ofWord table value.word).1.window = value.window := by
      rw [proper.admits.strange strange]
      refine KeyTable.window_of_absent ?_
      rw [wordKey_word proper.admits.key_lt]
      exact strange.1
    rw [if_pos null]
    exact Handle.ext key window offset corrupted sliced
  · rw [if_neg null]
    exact Handle.ext key rfl offset corrupted sliced

end Handle

/-! ## The last write to a range -/

namespace History

variable {history : History} {key : UInt32} {addr len : Nat} {write : Write}

/-- The last write to a range is the last one to any part of the range that it touches. -/
theorem lastWrite_of_part {at_ size : Nat} (last : history.lastWrite key addr len = some write)
    (below : addr ≤ at_) (above : at_ + size ≤ addr + len) (own : write.meets key at_ size = true) :
    history.lastWrite key at_ size = some write := by
  obtain ⟨_, newer, older, split, apart⟩ := List.find?_eq_some_iff_append.1 last
  refine List.find?_eq_some_iff_append.2 ⟨own, newer, older, split, ?_⟩
  intro other listed
  have misses := apart other listed
  rw [Bool.not_eq_true'] at misses ⊢
  rw [← Bool.not_eq_true, Write.meets_iff] at misses ⊢
  rintro ⟨keyed, left, right⟩
  exact misses ⟨keyed, by omega, by omega⟩

/-- Where a write was the last one to just its own bytes, those are there. -/
theorem lastByte_of_lastWrite (last : history.lastWrite key addr len = some write)
    (at_ : write.addr = addr) (length : write.op.width = len) {i : Nat} (inside : i < len) :
    history.lastByte key (addr + i) = write.bytes.getD i 0 := by
  have keyed := (Write.meets_iff.1 (mem_writes_of_lastWrite last).2).1
  have own : write.meets key (addr + i) 1 = true :=
    Write.meets_iff.2 ⟨keyed, by omega, by omega⟩
  have part := lastWrite_of_part last (Nat.le_add_right addr i) (by omega) own
  rw [lastByte, part]
  show write.bytes.getD (addr + i - write.addr) 0 = write.bytes.getD i 0
  rw [at_, Nat.add_sub_cancel_left]

end History

/-! ## What a handle load finds -/

namespace KeyTable.Traced

variable {table : KeyTable} {history : History} {key : UInt32} {segment : Segment} {addr : Nat}
  {value : Handle}

/-- Where a handle was stored last, its word is read. -/
theorem read_of_stored (traced : table.Traced history) (found : table.get? key = some segment)
    (stored : history.Stored key addr value) :
    segment.contents.read addr wordBytes = Bytes.ofNat wordBytes value.word.toNat := by
  have length : (Bytes.ofNat wordBytes value.word.toNat).length = wordBytes :=
    Bytes.length_ofNat _ _
  have written := Memory.read_write segment.contents addr (Bytes.ofNat wordBytes value.word.toNat)
  rw [length] at written
  rw [← written]
  apply Memory.read_congr
  intro i below above
  rw [traced.byte_eq found, Memory.byte_write, length, if_pos ⟨below, above⟩]
  have byte := History.lastByte_of_lastWrite stored rfl rfl (show i - addr < wordBytes by omega)
  rw [Nat.add_sub_cancel' below] at byte
  exact byte

/-- Where a handle was stored last, its window is beside its word. -/
theorem taggedWindow?_of_stored (traced : table.Traced history)
    (found : table.get? key = some segment)
    (stored : history.Stored key addr value) :
    segment.taggedWindow? addr value.word = some value.window := by
  have listed : ⟨addr, value.word, value.window⟩ ∈ segment.tags :=
    (traced.tagged found _).2 ⟨value, stored, rfl, rfl⟩
  rcases first : segment.tags.find? (fun tag => tag.slot == addr) with _ | tag
  · have other := List.find?_eq_none.1 first _ listed
    simp at other
  · -- whichever tag of the slot comes first, the history tells that it is the tag of that store
    have slot : tag.slot = addr := by simpa using List.find?_some first
    obtain ⟨other, stored', word, window⟩ :=
      (traced.tagged found tag).1 (List.mem_of_find?_eq_some first)
    obtain rfl := stored.unique (slot ▸ stored')
    rw [Segment.taggedWindow?, first]
    show (if tag.word = value.word then some tag.window else none) = _
    rw [if_pos word, window]

/-- Where a handle was stored last, a load makes a handle of its word and its window. -/
theorem handleAt_of_stored (traced : table.Traced history) (found : table.get? key = some segment)
    (stored : history.Stored key addr value) (location : Location) :
    segment.handleAt table location addr =
      (Handle.ofLoaded table location value.word (some value.window)).1 := by
  have word : UInt64.ofNat (Bytes.toNat (segment.contents.read addr wordBytes)) = value.word := by
    rw [traced.read_of_stored found stored]
    exact Bytes.ofNat_toNat_ofNat value.word
  simp only [Segment.handleAt, word, traced.taggedWindow?_of_stored found stored]

/-- Where the last write was anything but a handle store at just this address, there is no window
    beside the word, whichever word it is. -/
theorem taggedWindow?_of_altered (traced : table.Traced history)
    (found : table.get? key = some segment)
    (altered : ∀ value, ¬ history.Stored key addr value) (word : UInt64) :
    segment.taggedWindow? addr word = none := by
  rcases tagged : segment.taggedWindow? addr word with _ | window
  · rfl
  · have listed := Segment.mem_tags_of_taggedWindow? tagged
    obtain ⟨value, stored, _, _⟩ := (traced.tagged found _).1 listed
    exact absurd stored (altered value)

end KeyTable.Traced

/-- A word with no window beside it makes null if it is zero, and a corrupted handle otherwise. -/
theorem Handle.ofLoaded_none (table : KeyTable) (location : Location) (word : UInt64) :
    (word = 0 → (ofLoaded table location word none).1 = .null) ∧
      (word ≠ 0 → (ofLoaded table location word none).1.corrupted = true) := by
  constructor
  · rintro rfl
    rfl
  · intro nonzero
    simp only [ofLoaded]
    by_cases damaged : (ofWord table word).1.corrupted = true
    · rw [if_pos (by rw [damaged, Bool.or_true])]
      exact damaged
    · rw [if_neg (by simp [nonzero, damaged])]
      rfl

namespace Heap.Sound

variable {heap : Heap} {history : History} {key : UInt32} {segment : Segment} {addr : Nat}
  {value : Handle}

/-- A handle is loaded as it was stored. -/
theorem handleAt_of_stored (sound : heap.Sound history) (closed : history.Closed)
    (found : heap.table.get? key = some segment) (stored : history.Stored key addr value)
    (location : Location) : segment.handleAt heap.table location addr = value := by
  have listed := (History.mem_writes_of_lastWrite stored).1
  have proper := sound.proper closed (History.issued_of_write closed listed)
  rw [sound.traced.handleAt_of_stored found stored]
  exact proper.ofLoaded_word sound.valid.table location

/-- Bytes that no handle store left as they are make null or a corrupted handle. -/
theorem handleAt_of_altered (sound : heap.Sound history)
    (found : heap.table.get? key = some segment) (addr : Nat) (location : Location)
    (altered : ∀ value, ¬ history.Stored key addr value) :
    ((∀ b ∈ segment.contents.read addr wordBytes, b = 0) →
        segment.handleAt heap.table location addr = .null) ∧
      ((∃ b ∈ segment.contents.read addr wordBytes, b ≠ 0) →
        (segment.handleAt heap.table location addr).corrupted = true) := by
  have zero := Bytes.ofNat_toNat_eq_zero_iff (segment.contents.length_read addr wordBytes)
  unfold Segment.handleAt
  simp only [sound.traced.taggedWindow?_of_altered found altered]
  obtain ⟨null, corrupted⟩ := Handle.ofLoaded_none heap.table location
    (UInt64.ofNat (Bytes.toNat (segment.contents.read addr wordBytes)))
  refine ⟨fun zeros => null (zero.2 zeros), ?_⟩
  rintro ⟨b, listed, nonzero⟩
  exact corrupted fun word => nonzero (zero.1 word b listed)

end Heap.Sound

namespace World

variable {config : Config} {keys : KeySource} {history : History} {world : World} {engine : Nat}
  {heap : Heap} {handle : Handle} {segment : Segment} {addr : Nat}

/-- A handle load answers the handle that was stored at its address, if the last write to any of the
    eight bytes was that store; else null where the bytes are zero, and a corrupted handle where
    they are not.  So a handle that is neither null nor corrupted was stored there. -/
theorem loaded_handles_were_stored (reached : Reached config keys history world)
    (closed : history.Closed) (here : world.heap? engine = some heap)
    (resolves : handle.resolve heap.table wordBytes = .ok (segment, addr))
    (inside : addr + wordBytes ≤ segment.size.toNat) (location : Location) :
    ∃ loaded, (heap.load location handle .handle).answer = .ok (.handle loaded) ∧
      (∀ value, history.Stored handle.key addr value → loaded = value) ∧
      ((∀ value, ¬ history.Stored handle.key addr value) →
        ((∀ b ∈ segment.contents.read addr wordBytes, b = 0) → loaded = .null) ∧
        ((∃ b ∈ segment.contents.read addr wordBytes, b ≠ 0) → loaded.corrupted = true)) ∧
      (loaded.corrupted = false → loaded ≠ .null → history.Stored handle.key addr loaded) := by
  have sound := reached.sound here
  have found := Handle.get?_of_resolve resolves
  have standing := sound.valid.standing found
  have answer : (heap.load location handle .handle).answer =
      .ok (.handle (segment.handleAt heap.table location addr)) :=
    Heap.load_of_resolve resolves standing inside
  have intact : ∀ value, history.Stored handle.key addr value →
      segment.handleAt heap.table location addr = value := by
    intro value stored
    exact sound.handleAt_of_stored closed found stored location
  have altered := sound.handleAt_of_altered found addr location
  refine ⟨_, answer, intact, altered, ?_⟩
  -- the third case is excluded by `undamaged`, the second by `proper`
  intro undamaged proper
  by_cases some_stored : ∃ value, history.Stored handle.key addr value
  · obtain ⟨value, stored⟩ := some_stored
    rw [intact value stored]
    exact stored
  · obtain ⟨null, corrupted⟩ := altered (not_exists.1 some_stored)
    by_cases zeros : ∀ b ∈ segment.contents.read addr wordBytes, b = 0
    · exact absurd (null zeros) proper
    · have damaged := corrupted (by simpa using zeros)
      rw [undamaged] at damaged
      cases damaged

/-- A handle is loaded as it was stored, also when its own segment has been freed since. -/
theorem loaded_handles_were_stored_of_freed :
    let holder : Handle := .whole 7 16
    let value : Handle := .whole 9 8
    let outcome := trial [7, 9]
      [(0, some (.free value)), (0, some (.store .handle holder (.handle value))),
        (0, some (.alloc 8)), (0, some (.alloc 16))]
    outcome.1.Closed ∧ outcome.1.Stored 7 0 value ∧
      ∃ heap segment, outcome.2.heap? 0 = some heap ∧
        holder.resolve heap.table wordBytes = .ok (segment, 0) ∧
        0 + wordBytes ≤ segment.size.toNat ∧ heap.table.isRetired 9 = true ∧
        (heap.load .unknown holder .handle).answer = .ok (.handle value) := by
  intro holder value outcome
  have closed : outcome.1.Closed := by decide +kernel
  have stored : outcome.1.Stored 7 0 value := by
    unfold History.Stored
    decide +kernel
  obtain ⟨heap, here⟩ : ∃ heap, outcome.2.heap? 0 = some heap := ⟨_, rfl⟩
  have state : (outcome.2.heap? 0).map (fun heap =>
      (holder.verdict heap.table wordBytes, heap.table.isRetired 9)) = some (none, true) := by
    decide +kernel
  rw [here] at state
  injection state with state
  injection state with allowed retired
  have sound := (reached_trial _ _).sound here
  have proper := sound.proper closed (show outcome.1.Issued holder by decide +kernel)
  obtain ⟨segment, _, resolves⟩ := Handle.resolve_of_verdict_none sound.valid.standing allowed
  have inside := proper.inside_of_resolve resolves
  obtain ⟨loaded, answer, intact, _⟩ :=
    loaded_handles_were_stored (reached_trial _ _) closed here resolves inside .unknown
  rw [intact value stored] at answer
  exact ⟨closed, stored, heap, segment, here, resolves, inside, retired, answer⟩

end World

end SegmentHeap
