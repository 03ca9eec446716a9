/-
  What a segment holds, and what stores leave in it.

  `contents` is the memory of a segment.  In a segment that still stands, reading and writing come
  to reading and writing there: `read_eq` and `readWord_eq` say what is read inside the segment, and
  `write_eq` and `writeWord_eq` that every write inside the segment leaves the segment `stored`, by
  plain bytes or by bytes and a tag.  So there is one account of what a store changes:
  `contents_stored` for the bytes and `mem_tags_stored` for the tags.
-/
import SegmentHeap.Segment

namespace SegmentHeap

/-! ## Ranges of bytes -/

/-- Memories with the same bytes in a range read the same there. -/
theorem Memory.read_congr {one other : Memory} {addr len : Nat}
    (same : ∀ i, addr ≤ i → i < addr + len → one.byte i = other.byte i) :
    one.read addr len = other.read addr len := by
  rw [read, read, List.map_inj_left]
  intro i inside
  rw [List.mem_range] at inside
  exact same (addr + i) (by omega) (by omega)

theorem Tag.meets_iff {tag : Tag} {addr len : Nat} :
    tag.meets addr len = true ↔ 0 < len ∧ addr < tag.slot + wordBytes ∧ tag.slot < addr + len := by
  simp [meets, and_assoc]

namespace Segment

variable {segment : Segment} {addr len : Nat} {bytes : List UInt8} {word : UInt64} {window : Window}

/-! ## The contents -/

/-- The bytes of a segment.  A released segment has none. -/
def contents (segment : Segment) : Memory := segment.storage.getD ∅

/-- The segment after bytes were stored at `addr`, with the tag that the store leaves, if any. -/
def stored (segment : Segment) (addr : Nat) (bytes : List UInt8) (tag? : Option Tag) : Segment :=
  { segment with
    storage := some (segment.contents.write addr bytes)
    tags := tag?.toList ++ segment.tags.filter (fun tag => !tag.meets addr bytes.length) }

/-! ## Access to a standing segment -/

theorem storage_eq (standing : segment.isFree = false) :
    segment.storage = some segment.contents := by
  unfold isFree at standing
  unfold contents
  rcases held : segment.storage with _ | memory
  · rw [held] at standing
    cases standing
  · rfl

theorem read_eq (standing : segment.isFree = false) (inside : addr + len ≤ segment.size.toNat) :
    segment.read addr len = .ok (segment.contents.read addr len) := by
  rw [read, storage_eq standing]
  exact if_pos inside

/-- What is read is there, whether or not the segment is known to stand. -/
theorem read_of_ok (read : segment.read addr len = .ok bytes) :
    bytes = segment.contents.read addr len := by
  unfold Segment.read at read
  rcases held : segment.storage with _ | memory
  · rw [held] at read
    cases read
  · simp only [held] at read
    split at read
    · injection read with same
      rw [← same, contents, held, Option.getD_some]
    · cases read

theorem write_eq (standing : segment.isFree = false)
    (inside : addr + bytes.length ≤ segment.size.toNat) :
    segment.write addr bytes = .ok (segment.stored addr bytes none) := by
  have bound := segment.size.toNat_lt_size
  rw [write, if_neg (by omega), storage_eq standing]
  exact if_pos inside

theorem write_of_outside (standing : segment.isFree = false)
    (outside : ¬ addr + bytes.length ≤ segment.size.toNat) :
    segment.write addr bytes = .error .outOfBounds := by
  rw [write, storage_eq standing]
  by_cases long : UInt32.size ≤ bytes.length
  · exact if_pos long
  · rw [if_neg long]
    exact if_neg outside

theorem writeWord_eq (standing : segment.isFree = false)
    (inside : addr + wordBytes ≤ segment.size.toNat) (word : UInt64) (window : Window) :
    segment.writeWord addr word window =
      .ok (segment.stored addr (Bytes.ofNat wordBytes word.toNat) (some ⟨addr, word, window⟩)) := by
  rw [writeWord, write_eq standing (by rwa [Bytes.length_ofNat])]
  rfl

theorem writeWord_of_outside (standing : segment.isFree = false)
    (outside : ¬ addr + wordBytes ≤ segment.size.toNat) (word : UInt64) (window : Window) :
    segment.writeWord addr word window = .error .outOfBounds := by
  rw [writeWord, write_of_outside standing (by rwa [Bytes.length_ofNat])]
  rfl

theorem readWord_eq (standing : segment.isFree = false)
    (inside : addr + wordBytes ≤ segment.size.toNat) :
    segment.readWord addr =
      let word := UInt64.ofNat (Bytes.toNat (segment.contents.read addr wordBytes))
      .ok (word, segment.taggedWindow? addr word) := by
  rw [readWord, read_eq standing inside]
  rfl

/-! ## After a store -/

variable {tag : Tag} {tag? : Option Tag}

@[simp] theorem key_stored : (segment.stored addr bytes tag?).key = segment.key := rfl

@[simp] theorem size_stored : (segment.stored addr bytes tag?).size = segment.size := rfl

@[simp] theorem isFree_stored : (segment.stored addr bytes tag?).isFree = false := rfl

theorem contents_stored :
    (segment.stored addr bytes tag?).contents = segment.contents.write addr bytes := rfl

/-- A store erases exactly the tags it touches and adds its own. -/
theorem mem_tags_stored :
    tag ∈ (segment.stored addr bytes tag?).tags ↔
      tag? = some tag ∨ tag ∈ segment.tags ∧ tag.meets addr bytes.length = false := by
  simp only [stored, List.mem_append, Option.mem_toList, List.mem_filter, Bool.not_eq_true']

/-- Of the tags at one slot, either all or none are erased. -/
theorem find?_slot_filter (tags : List Tag) (slot addr len : Nat) :
    (tags.filter (fun tag => !tag.meets addr len)).find? (fun tag => tag.slot == slot) =
      if 0 < len ∧ addr < slot + wordBytes ∧ slot < addr + len then none
      else tags.find? (fun tag => tag.slot == slot) := by
  have meets_iff : ∀ tag : Tag, tag.slot = slot →
      (tag.meets addr len = true ↔ 0 < len ∧ addr < slot + wordBytes ∧ slot < addr + len) := by
    rintro tag rfl
    exact Tag.meets_iff
  by_cases touched : 0 < len ∧ addr < slot + wordBytes ∧ slot < addr + len
  · rw [if_pos touched, List.find?_eq_none]
    intro tag listed here
    have erased := (meets_iff tag (beq_iff_eq.1 here)).2 touched
    have kept := (List.mem_filter.1 listed).2
    rw [erased] at kept
    cases kept
  · rw [if_neg touched, List.find?_filter]
    congr 1
    funext tag
    by_cases here : tag.slot = slot
    · have kept := mt (meets_iff tag here).1 touched
      simp [here, kept]
    · simp [here]

/-- The window beside a word is that of the tag that the store left, where it left one; else there
    is none where the bytes have touched the word, and the old one where they have not. -/
theorem taggedWindow?_stored (slot : Nat) (word : UInt64) :
    (segment.stored addr bytes tag?).taggedWindow? slot word =
      match tag?.filter (fun tag => tag.slot == slot) with
      | some tag => if tag.word = word then some tag.window else none
      | none =>
        if 0 < bytes.length ∧ addr < slot + wordBytes ∧ slot < addr + bytes.length then none
        else segment.taggedWindow? slot word := by
  have old := find?_slot_filter segment.tags slot addr bytes.length
  rcases tag? with _ | own
  · rw [taggedWindow?, stored, Option.toList_none, List.nil_append, old, Option.filter_none]
    split <;> rfl
  · rw [taggedWindow?, stored, Option.toList_some, List.singleton_append, List.find?_cons,
      Option.filter_some]
    by_cases here : (own.slot == slot) = true
    · simp only [here, if_true]
      rfl
    · simp only [here, Bool.false_eq_true, if_false, old]
      split <;> rfl

end Segment

end SegmentHeap
