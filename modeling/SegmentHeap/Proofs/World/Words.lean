/-
  Words and handles, there and back.

  A word has room for the key, the cursor and the flags of a handle, but not for its window.  So a
  handle that was given out comes back from its word with all but the window, whatever has been done
  since (`Handle.ReadBack`): the window is that of the whole segment as long as the key names one,
  and empty from then on.  The flag of corruption comes back too, because the key of an undamaged
  handle was issued, and a key that was issued is known for good.

  The other way round, a word comes back from its handle as it was if its key is known, and marked
  as corrupted if not (`Handle.word_ofWord`).  This is so for every word and every table, since the
  fields are all there is to a word (`toNat_word_of_fields`).  Whether an access through the handle
  goes through can be read off the word (`KeyTable.Opens`).
-/
import SegmentHeap.Proofs.World.StoredHandles

namespace SegmentHeap

variable {table : KeyTable} {handle : Handle} {word : UInt64} {segment : Segment} {size : Nat}

/-! ## A word is its fields -/

/-- The bit of a word that marks its handle as corrupted. -/
def corruptedBit : UInt64 := 0x8000000000000000

theorem toNat_beq_one (n : Nat) : (n % 2 == 1).toNat = n % 2 := by
  rcases Nat.mod_two_eq_zero_or_one n with even | odd
  · rw [even]
    rfl
  · rw [odd]
    rfl

theorem toNat_wordCorrupted (word : UInt64) :
    (wordCorrupted word).toNat = word.toNat / 2 ^ 63 := by
  have bound := word.toNat_lt
  rw [wordCorrupted, toNat_beq_one]
  omega

/-- A handle with the fields of a word has its word, but for the flag of corruption. -/
theorem toNat_word_of_fields (key : handle.key = wordKey word)
    (offset : handle.offset = wordOffset word) (sliced : handle.sliced = wordSliced word) :
    handle.word.toNat = handle.corrupted.toNat * 2 ^ 63 + word.toNat % 2 ^ 63 := by
  have bound := word.toNat_lt
  have key' : handle.key.toNat = word.toNat / 2 ^ 32 % 2 ^ 30 := by
    rw [key, wordKey, UInt32.toNat_ofNat']
    omega
  have cursor : handle.offset.toUInt32.toNat = word.toNat % 2 ^ 32 := by
    rw [offset, wordOffset, UInt32.toUInt32_toInt32, UInt32.toNat_ofNat']
    omega
  have flag : handle.sliced.toNat = word.toNat / 2 ^ 62 % 2 := by
    rw [sliced, wordSliced, toNat_beq_one]
    omega
  rw [toNat_word, flagBits, key', cursor, flag]
  omega

/-- Setting the bit leaves the lower bits as they are. -/
theorem toNat_or_corruptedBit (word : UInt64) :
    (word ||| corruptedBit).toNat = 2 ^ 63 + word.toNat % 2 ^ 63 := by
  have bound := word.toNat_lt
  have low : word.toNat % 2 ^ 63 < 2 ^ 63 := Nat.mod_lt _ (by decide)
  rw [UInt64.toNat_or]
  show word.toNat ||| 2 ^ 63 = _
  have sum : 2 ^ 63 + word.toNat % 2 ^ 63 = 2 ^ 63 ||| word.toNat % 2 ^ 63 :=
    Nat.two_pow_add_eq_or_of_lt low 1
  rw [sum]
  by_cases set : word.toNat < 2 ^ 63
  · rw [Nat.mod_eq_of_lt set, Nat.or_comm]
  · have split : word.toNat = 2 ^ 63 ||| word.toNat % 2 ^ 63 := by
      rw [← sum]
      omega
    calc word.toNat ||| 2 ^ 63
        = 2 ^ 63 ||| word.toNat % 2 ^ 63 ||| 2 ^ 63 := congrArg (· ||| 2 ^ 63) split
      _ = 2 ^ 63 ||| word.toNat % 2 ^ 63 := by rw [Nat.or_comm, ← Nat.or_assoc, Nat.or_self]

/-! ## From a word to its handle and back -/

theorem KeyTable.status_eq_unknown_iff_not_knows {key : UInt32} :
    table.status key = .unknown ↔ ¬ table.Knows key := by
  rw [status_eq_unknown_iff, knows_iff, not_or, Classical.not_not]

/-- A word whose key is known is the word of its handle.  Any other word is marked as corrupted. -/
theorem Handle.word_ofWord (table : KeyTable) (word : UInt64) :
    (table.Knows (wordKey word) → (ofWord table word).1.word = word) ∧
      (¬ table.Knows (wordKey word) → (ofWord table word).1.word = word ||| corruptedBit) := by
  have fields : (ofWord table word).1.word.toNat =
      (ofWord table word).1.corrupted.toNat * 2 ^ 63 + word.toNat % 2 ^ 63 :=
    toNat_word_of_fields rfl rfl rfl
  have flag : (ofWord table word).1.corrupted =
      (wordCorrupted word || decide (table.status (wordKey word) = .unknown)) := rfl
  have status := @KeyTable.status_eq_unknown_iff_not_knows table (wordKey word)
  refine ⟨?_, ?_⟩
  · intro known
    rw [decide_eq_false (mt status.1 (not_not_intro known)), Bool.or_false] at flag
    rw [flag, toNat_wordCorrupted] at fields
    rw [← UInt64.toNat_inj, fields]
    omega
  · intro unknown
    rw [decide_eq_true (status.2 unknown), Bool.or_true] at flag
    rw [flag, Bool.toNat_true, Nat.one_mul] at fields
    rw [← UInt64.toNat_inj, fields, toNat_or_corruptedBit]

/-! ## Access through the handle of a word -/

/-- What a word says of an access of `size` bytes through its handle: it is not marked as corrupted,
    its key names a segment that stands, and the bytes from the cursor on lie in that. -/
def KeyTable.Opens (table : KeyTable) (word : UInt64) (size : Nat) : Prop :=
  wordCorrupted word = false ∧
    ∃ segment, table.get? (wordKey word) = some segment ∧ segment.isFree = false ∧
      0 ≤ (wordOffset word).toInt ∧ (wordOffset word).toInt + size ≤ segment.size.toNat

/-- The handle of a word whose key names a segment covers the whole of it. -/
theorem Handle.ofWord_of_get? (found : table.get? (wordKey word) = some segment) :
    (ofWord table word).1 =
      ⟨wordKey word, ⟨0, segment.size⟩, wordOffset word, wordCorrupted word, wordSliced word⟩ := by
  simp only [ofWord, KeyTable.status_of_get? found, KeyStatus.window, Segment.window,
    reduceCtorEq, decide_false,
    Bool.or_false]

/-- The handle of a word resolves just where the word says so. -/
theorem Handle.opens_iff_resolve :
    table.Opens word size ↔
      ∃ segment addr, (ofWord table word).1.resolve table size = .ok (segment, addr) := by
  constructor
  · rintro ⟨undamaged, segment, found, standing, positive, inside⟩
    refine ⟨segment, (ofWord table word).1.place, resolve_eq_ok_iff.2 ?_⟩
    rw [ofWord_of_get? found]
    refine ⟨undamaged, (KeyTable.slot_of_get? found).2.2, liveSegment_of_get? found standing, ?_⟩
    rw [address_eq, if_neg]
    show ¬ ((wordOffset word).toInt < 0 ∨
      (segment.size.toNat : Int) - 0 < (wordOffset word).toInt + size)
    omega
  · rintro ⟨segment, addr, resolves⟩
    obtain ⟨undamaged, _, live, allowed⟩ := resolve_eq_ok_iff.1 resolves
    obtain ⟨found, standing⟩ := liveSegment_eq_ok_iff.1 live
    rw [ofWord_of_get? found] at undamaged allowed
    rw [address_eq] at allowed
    split at allowed
    · cases allowed
    · rename_i within
      change ¬ ((wordOffset word).toInt < 0 ∨
        (segment.size.toNat : Int) - 0 < (wordOffset word).toInt + size) at within
      exact ⟨undamaged, segment, found, standing, by omega, by omega⟩

namespace Heap

variable {heap : Heap} {location : Location}

theorem load_isOk_iff {op : LoadOp} :
    (heap.load location (Handle.ofWord heap.table word).1 op).answer.isOk = true ↔
      heap.table.Opens word op.width := by
  rw [Handle.opens_iff_resolve]
  exact isOk_load_iff (Handle.proper_ofWord heap.table word).inside_of_resolve

theorem store_isOk_iff {op : StoreOp} {value : Value} (typed : value.scalar? = op.scalar?) :
    (heap.store location (Handle.ofWord heap.table word).1 op value).answer.isOk = true ↔
      heap.table.Opens word op.width := by
  rw [Handle.opens_iff_resolve]
  exact isOk_store_iff typed (Handle.proper_ofWord heap.table word).inside_of_resolve

end Heap

theorem Handle.validate_isOk_iff :
    ((ofWord table word).1.validate table size).isOk = true ↔ table.Opens word size := by
  rw [opens_iff_resolve, validate]
  rcases (ofWord table word).1.resolve table size with fault | ⟨segment, addr⟩
  · simp [Except.map, Except.isOk, Except.toBool]
  · simp [Except.map, Except.isOk, Except.toBool]

/-! ## From a handle to its word and back -/

/-- What comes back of a handle from its word, by what the table knows of its key at that time. -/
structure Handle.ReadBack (decoded handle : Handle) (table : KeyTable) : Prop where
  key_eq : decoded.key = handle.key
  offset_eq : decoded.offset = handle.offset
  corrupted_eq : decoded.corrupted = handle.corrupted
  sliced_eq : decoded.sliced = handle.sliced
  /-- While the key names a segment, the window is all of it. -/
  window_of_live : ∀ {segment}, table.get? handle.key = some segment →
    decoded.window = ⟨0, segment.size⟩
  /-- The key of null has an empty window, and so has one that is retired or was never issued. -/
  window_of_absent : table.contains handle.key = false → decoded.window = ⟨0, 0⟩
  eq_of_null : handle.isNull = true → decoded = handle
  eq_of_whole : ∀ {segment}, table.get? handle.key = some segment →
    handle.window = ⟨0, segment.size⟩ → decoded = handle

/-- A proper handle comes back from its word. -/
theorem Handle.Proper.readBack (proper : handle.Proper table) (valid : table.Valid) :
    (ofWord table handle.word).1.ReadBack handle table := by
  have key := wordKey_word proper.admits.key_lt
  have whole : ∀ {segment}, table.get? handle.key = some segment →
      (ofWord table handle.word).1.window = ⟨0, segment.size⟩ := by
    intro segment found
    rw [ofWord_of_get? (key.symm ▸ found)]
  have absent : table.contains handle.key = false →
      (ofWord table handle.word).1.window = ⟨0, 0⟩ := by
    intro gone
    refine KeyTable.window_of_absent ?_
    rw [key]
    simpa [KeyTable.contains] using gone
  have back : (ofWord table handle.word).1.window = handle.window →
      (ofWord table handle.word).1 = handle := fun window =>
    Handle.ext key window (wordOffset_word handle) proper.corrupted_ofWord (wordSliced_word handle)
  refine ⟨key, wordOffset_word handle, proper.corrupted_ofWord, wordSliced_word handle, whole,
    absent, ?_, ?_⟩
  · intro null
    have strange : table.Strange handle.key := by
      rw [beq_iff_eq.1 null]
      exact valid.strange_zero
    refine back ?_
    rw [proper.admits.strange strange, absent (by simp [KeyTable.contains, strange.1])]
    rfl
  · intro segment found own
    exact back ((whole found).trans own.symm)

/-- What comes of a word, by what the table of the heap knows of its key. -/
structure Heap.ReadsWord (heap : Heap) (word : UInt64) : Prop where
  word_of_known : heap.table.Knows (wordKey word) → (heap.decode word).answer.word = word
  word_of_unknown : ¬ heap.table.Knows (wordKey word) →
    (heap.decode word).answer.word = word ||| corruptedBit
  validate : ∀ size, ((heap.decode word).answer.validate heap.table size).isOk = true ↔
    heap.table.Opens word size
  load : ∀ location op, (heap.load location (heap.decode word).answer op).answer.isOk = true ↔
    heap.table.Opens word op.width
  store : ∀ location (op : StoreOp) (value : Value), value.scalar? = op.scalar? →
    ((heap.store location (heap.decode word).answer op value).answer.isOk = true ↔
      heap.table.Opens word op.width)

theorem Heap.readsWord (heap : Heap) (word : UInt64) : heap.ReadsWord word :=
  ⟨(Handle.word_ofWord heap.table word).1, (Handle.word_ofWord heap.table word).2,
    fun _ => Handle.validate_isOk_iff, fun _ _ => load_isOk_iff,
    fun _ _ _ typed => store_isOk_iff typed⟩

namespace World

variable {config : Config} {keys : KeySource} {history later : History} {world final : World}
  {engine : Nat} {heap : Heap}

/-- A handle that was given out comes back from its word in every later state, whatever has been
    asked for in between.  The other way round, every word comes back from its handle, in every
    heap. -/
theorem words_read_back (reached : Reached config keys history world) (closed : history.Closed)
    (issued : history.Issued handle) (run : Run world later final)
    (there : final.heap? engine = some heap) :
    (heap.decode handle.word).answer.ReadBack handle heap.table ∧
      ∀ (other : Heap) (word : UInt64), other.ReadsWord word := by
  obtain ⟨before, one, sound⟩ := reached.oneHeap
  have initial := And.intro sound.valid (sound.proper closed issued)
  -- a handle that is proper once is proper in every later table
  obtain ⟨last, one', valid, proper⟩ := run.invariant
    (fun _ heap => heap.Valid ∧ handle.Proper heap.table)
    (fun {_ heap} location request ⟨valid, proper⟩ =>
      ⟨valid.perform location request,
        proper.later (Heap.perform_spec valid location request).1.later⟩) one initial
  obtain rfl := one'.heap?_eq there
  exact ⟨proper.readBack valid.table, Heap.readsWord⟩

/-- A slice with its cursor before the window comes back without the window after its segment was
    freed.  The word of a key that was never issued comes back as corrupted. -/
theorem words_read_back_of_freed :
    let moved : Handle := ⟨7, ⟨4, 12⟩, -3, false, true⟩
    let outcome := trial [7, 9]
      [(0, some (.sub ⟨7, ⟨4, 12⟩, 0, false, true⟩ 3)), (0, some (.slice (.whole 7 16) 4 12)),
        (0, some (.alloc 16))]
    outcome.1.Closed ∧ outcome.1.Issued moved ∧
      ∃ heap, (outcome.2.drive [(1, some (.alloc 8)), (0, none),
          (0, some (.free (.whole 7 16)))]).2.heap? 1 = some heap ∧
        (heap.decode moved.word).answer.ReadBack moved heap.table ∧
        (heap.decode moved.word).answer.window = ⟨0, 0⟩ ∧
        (heap.decode 0x0000000500000004).answer.word = 0x8000000500000004 := by
  intro moved outcome
  have closed : outcome.1.Closed := by decide +kernel
  have issued : outcome.1.Issued moved := by decide +kernel
  let later := outcome.2.drive [(1, some (.alloc 8)), (0, none), (0, some (.free (.whole 7 16)))]
  obtain ⟨heap, there⟩ : ∃ heap, later.2.heap? 1 = some heap :=
    Option.isSome_iff_exists.1 (by decide +kernel)
  have known : (later.2.heap? 1).map (fun heap =>
      (heap.table.contains 7, heap.table.contains 5, heap.table.isRetired 5)) =
        some (false, false, false) := by
    decide +kernel
  rw [there] at known
  injection known with known
  obtain ⟨freed, absent, fresh⟩ := by simpa only [Prod.mk.injEq] using known
  obtain ⟨back, words⟩ :=
    words_read_back (reached_trial _ _) closed issued (run_drive _ _) there
  have unknown : ¬ heap.table.Knows (wordKey 0x0000000500000004) := by
    rintro (zero | live | retired)
    · revert zero
      decide
    · exact absurd (absent.symm.trans live) Bool.false_ne_true
    · exact absurd (fresh.symm.trans retired) Bool.false_ne_true
  exact ⟨closed, issued, heap, there, back, back.window_of_absent freed,
    (words heap _).word_of_unknown unknown⟩

end World

end SegmentHeap
