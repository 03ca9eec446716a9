/-
  Proper handles: what every handle that can be had keeps.

  A window goes with a key (`KeyTable.Admits`) if it is in order and lies in the segment of the key.
  That alone would not last: a key that names nothing now can be issued later, to a segment smaller
  than the window.  So a key that was never issued admits the empty window only, and a handle with
  such a key is corrupted, or null.

  Both facts last as the table changes (`Admits.later`, `Proper.later`), whatever happens to the
  segments.  Of a proper handle only proper handles are made: by slicing (`Proper.slice`) and by
  everything that keeps the key and the window (`Proper.of_same`).  The handle of any word at all is
  proper (`proper_ofWord`), and so is a loaded one if its tag holds a window that goes with its key
  (`proper_ofLoaded`).
-/
import SegmentHeap.Heap
import SegmentHeap.Proofs.Handle.Access
import SegmentHeap.Proofs.Handle.Word
import SegmentHeap.Proofs.KeyTable.Lookup

namespace SegmentHeap

/-! ## Narrowing -/

/-- The bounds of a narrowed window are sums that do not wrap. -/
theorem Window.toNat_of_narrow {window part : Window} {lo hi : Int32}
    (cut : window.narrow lo hi = .ok part) :
    part.base.toNat = window.base.toNat + lo.toInt.toNat ∧
      part.bound.toNat = window.base.toNat + hi.toInt.toNat ∧
      part.base.toNat ≤ part.bound.toNat ∧ part.bound.toNat ≤ window.bound.toNat := by
  unfold narrow length at cut
  split at cut
  · rename_i ordered
    have top := window.bound.toNat_lt
    injection cut with same
    subst same
    simp only [UInt32.toNat_ofNat']
    omega
  · cases cut

variable {table before after : KeyTable} {key : UInt32} {window : Window} {handle : Handle}

/-! ## Windows that go with a key -/

/-- The window goes with the key: it is in order, lies in the segment of the key, and has no bytes
    while the key was never issued. -/
structure KeyTable.Admits (table : KeyTable) (key : UInt32) (window : Window) : Prop where
  ordered : window.base ≤ window.bound
  key_lt : key < keyLimit
  inside : ∀ {segment}, table.get? key = some segment → window.bound ≤ segment.size
  strange : table.Strange key → window = .empty

/-- What every handle keeps that can be had: its window goes with its key, and it is corrupted if
    its key was never issued. -/
structure Handle.Proper (handle : Handle) (table : KeyTable) : Prop where
  admits : table.Admits handle.key handle.window
  corrupted : table.Strange handle.key → handle.key ≠ 0 → handle.corrupted = true

/-- A key that names a segment was issued. -/
theorem KeyTable.not_strange_of_get? {segment : Segment} (found : table.get? key = some segment) :
    ¬ table.Strange key := by
  rintro ⟨absent, _⟩
  rw [absent] at found
  cases found

theorem KeyTable.admits_empty (small : key < keyLimit) : table.Admits key .empty :=
  ⟨UInt32.le_refl 0, small, fun _ => UInt32.zero_le, fun _ => rfl⟩

/-- A window still goes with its key later, also when the key has been issued in between. -/
theorem KeyTable.Admits.later (admits : before.Admits key window)
    (later : KeyTable.Later before after) : after.Admits key window := by
  refine ⟨admits.ordered, admits.key_lt, ?_, fun strange => admits.strange (later.strange strange)⟩
  intro segment found
  rcases later.size found with strange | ⟨older, was_there, size⟩
  · -- the key has been issued since, and the window is empty
    rw [admits.strange strange]
    exact UInt32.zero_le
  · exact size ▸ admits.inside was_there

theorem Handle.Proper.later (proper : handle.Proper before) (later : KeyTable.Later before after) :
    handle.Proper after :=
  ⟨proper.admits.later later, fun strange => proper.corrupted (later.strange strange)⟩

/-! ## The handles that requests give out -/

theorem Handle.proper_null (table : KeyTable) : Handle.null.Proper table :=
  ⟨KeyTable.admits_empty (by decide), fun _ absurd_key => absurd rfl absurd_key⟩

theorem Handle.proper_whole {segment : Segment} (small : key < keyLimit)
    (found : table.get? key = some segment) : (Handle.whole key segment.size).Proper table := by
  have known := KeyTable.not_strange_of_get? found
  refine ⟨⟨UInt32.zero_le, small, ?_, fun strange => absurd strange known⟩,
    fun strange => absurd strange known⟩
  intro other there
  rw [show (Handle.whole key segment.size).key = key from rfl, found] at there
  injection there with same
  rw [same]
  exact UInt32.le_refl _

/-- A handle with the key and window of a proper one is proper, if it is no less corrupted. -/
theorem Handle.Proper.of_same {other : Handle} (proper : handle.Proper table)
    (key : other.key = handle.key) (window : other.window = handle.window)
    (corrupted : handle.corrupted = true → other.corrupted = true) : other.Proper table := by
  refine ⟨?_, ?_⟩
  · rw [key, window]
    exact proper.admits
  · rw [key]
    exact fun strange proper_key => corrupted (proper.corrupted strange proper_key)

/-- Slicing succeeds if the handle may be used and its window can be narrowed. -/
theorem Handle.slice_eq_ok_iff {lo hi : Int32} {part : Handle} :
    handle.slice table lo hi = .ok part ↔
      handle.corrupted = false ∧ handle.key ≠ 0 ∧
      (∃ segment, handle.liveSegment table = .ok segment) ∧
      ∃ window, handle.window.narrow lo hi = .ok window ∧
        part = { key := handle.key, window, offset := 0, corrupted := false, sliced := true } := by
  rw [Handle.slice, checkIdentity_eq]
  by_cases damaged : handle.corrupted = true
  · simp [damaged, bind, Except.bind]
  by_cases null : handle.key = 0
  · simp [damaged, null, bind, Except.bind]
  rw [if_neg damaged, if_neg null]
  rcases handle.liveSegment table with fault | live
  · simp [bind, Except.bind]
  rcases handle.window.narrow lo hi with fault | window
  · simp [bind, Except.bind]
  · simp [bind, Except.bind, pure, Except.pure, damaged, null, eq_comm]

/-- A slice lies in the window that it was cut out of, and so in the segment. -/
theorem Handle.Proper.slice {lo hi : Int32} {part : Handle} (proper : handle.Proper table)
    (cut : handle.slice table lo hi = .ok part) : part.Proper table := by
  obtain ⟨_, _, ⟨segment, live⟩, window, narrowed, rfl⟩ := Handle.slice_eq_ok_iff.1 cut
  obtain ⟨_, _, ordered, inside⟩ := Window.toNat_of_narrow narrowed
  have known := KeyTable.not_strange_of_get? (Handle.get?_of_liveSegment live)
  refine ⟨⟨?_, proper.admits.key_lt, ?_, fun strange => absurd strange known⟩,
    fun strange => absurd strange known⟩
  · exact UInt32.le_iff_toNat_le.2 ordered
  · intro held there
    exact UInt32.le_trans (UInt32.le_iff_toNat_le.2 inside) (proper.admits.inside there)

/-! ## The handles that words give -/

theorem KeyTable.status_of_get? {segment : Segment} (found : table.get? key = some segment) :
    table.status key = .live segment := by
  have proper := (KeyTable.slot_of_get? found).2.2
  rw [status, if_neg proper, found]

/-- Exactly the proper keys that were never issued are unknown. -/
theorem KeyTable.status_eq_unknown_iff :
    table.status key = .unknown ↔ key ≠ 0 ∧ table.Strange key := by
  unfold status Strange
  by_cases zero : key = 0
  · simp [zero]
  rw [if_neg zero]
  rcases table.get? key with _ | segment
  · rcases table.isRetired key with _ | _ <;> simp [zero]
  · simp

theorem KeyTable.window_of_absent (absent : table.get? key = none) :
    (table.status key).window = .empty := by
  by_cases zero : key = 0
  · rw [status, if_pos zero]
    rfl
  · rw [status, if_neg zero, absent]
    rcases table.isRetired key with _ | _ <;> rfl

/-- A word says no more of a window than its key allows. -/
theorem Handle.proper_ofWord (table : KeyTable) (word : UInt64) :
    (Handle.ofWord table word).1.Proper table := by
  refine ⟨⟨?_, wordKey_lt word, ?_, ?_⟩, ?_⟩
  · show (table.status (wordKey word)).window.base ≤ (table.status (wordKey word)).window.bound
    rcases table.status (wordKey word) with _ | segment | _ | _ <;> exact UInt32.zero_le
  · intro segment found
    show (table.status (wordKey word)).window.bound ≤ segment.size
    have live : table.status (wordKey word) = .live segment := KeyTable.status_of_get? found
    rw [live]
    exact UInt32.le_refl _
  · exact fun strange => KeyTable.window_of_absent strange.1
  · intro strange proper
    have unknown : table.status (wordKey word) = .unknown :=
      KeyTable.status_eq_unknown_iff.2 ⟨proper, strange⟩
    show (wordCorrupted word || decide (table.status (wordKey word) = .unknown)) = true
    rw [unknown, decide_eq_true rfl, Bool.or_true]

/-- A loaded handle is proper, if the window that its tag gives back goes with its key. -/
theorem Handle.proper_ofLoaded {word : UInt64} {window? : Option Window} (location : Location)
    (admits : ∀ window, window? = some window → table.Admits (wordKey word) window) :
    (Handle.ofLoaded table location word window?).1.Proper table := by
  have decoded := proper_ofWord table word
  rcases window? with _ | window
  · simp only [ofLoaded]
    split
    · exact decoded
    · exact decoded.of_same rfl rfl fun _ => rfl
  · simp only [ofLoaded]
    split
    · exact decoded
    · exact ⟨admits window rfl, decoded.corrupted⟩

/-- A tag gives its window back to the word it was left with, at its own slot. -/
theorem Segment.mem_tags_of_taggedWindow? {segment : Segment} {addr : Nat} {word : UInt64}
    (tagged : segment.taggedWindow? addr word = some window) :
    ⟨addr, word, window⟩ ∈ segment.tags := by
  unfold taggedWindow? at tagged
  obtain ⟨tag, found, own⟩ := Option.bind_eq_some_iff.1 tagged
  have slot : tag.slot = addr := by simpa using List.find?_some found
  split at own
  · rename_i same
    injection own with same'
    subst slot same same'
    exact List.mem_of_find?_eq_some found
  · cases own

/-! ## Access through a proper handle -/

/-- Where a proper handle resolves to, the segment has all the bytes that were asked for. -/
theorem Handle.Proper.inside_of_resolve {segment : Segment} {size addr : Nat}
    (proper : handle.Proper table) (resolves : handle.resolve table size = .ok (segment, addr)) :
    addr + size ≤ segment.size.toNat := by
  obtain ⟨_, _, _, allowed⟩ := resolve_eq_ok_iff.1 resolves
  have below := (Window.le_bound_of_address allowed).2
  have bound := UInt32.le_iff_toNat_le.1 (proper.admits.inside (get?_of_resolve resolves))
  omega

end SegmentHeap
