/-
  The tags of a segment, after any methods that were called on it.

  A segment is allocated and then changed by its own methods, and one that fails changes nothing.
  `Reached size log segment` has a segment come of the methods of a log, the latest first; only
  those that succeeded are in the log.

  Two invariants are kept all along, each by one step over `Done`, the three ways in which a method
  succeeds.  `Tagged` needs no log: the eight bytes of a tag lie in the storage and hold its word,
  no two tags have a byte in common, and a released segment has no tags.  `Told` is what the log
  says of the tags: there is one exactly where the last write to any of its eight bytes put the word
  and the window of the tag.  Since tags are apart, they can be counted by their addresses.

  `tags_mark_last_words` puts both together, with what a single write erases.
-/
import Mathlib.Data.List.Nodup
import Mathlib.Data.List.Pairwise
import Mathlib.Data.List.Perm.Basic
import SegmentHeap.Proofs.Bytes
import SegmentHeap.Proofs.KeyTable.Calls
import SegmentHeap.Proofs.Segment.Contents

namespace SegmentHeap

/-! ## Ranges with a byte in common -/

/-- The `m` bytes at `a` and the `n` bytes at `b` have one in common. -/
def Overlap (a m b n : Nat) : Prop := ∃ i, (a ≤ i ∧ i < a + m) ∧ b ≤ i ∧ i < b + n

theorem overlap_iff {a m b n : Nat} : Overlap a m b n ↔ 0 < m ∧ 0 < n ∧ a < b + n ∧ b < a + m := by
  constructor
  · rintro ⟨i, _, _⟩
    omega
  · intro meet
    exact ⟨max a b, by omega, by omega⟩

theorem overlap_self {n : Nat} (positive : 0 < n) (a : Nat) : Overlap a n a n :=
  ⟨a, by omega, by omega⟩

instance (a m b n : Nat) : Decidable (Overlap a m b n) := decidable_of_iff _ overlap_iff.symm

theorem Tag.meets_eq (tag : Tag) (addr len : Nat) :
    tag.meets addr len = decide (Overlap tag.slot wordBytes addr len) := by
  rw [Bool.eq_iff_iff, decide_eq_true_iff, meets_iff, overlap_iff]
  unfold wordBytes
  omega

/-- The eight bytes of two tags have none in common. -/
def Tag.Apart (one other : Tag) : Prop :=
  one.slot + wordBytes ≤ other.slot ∨ other.slot + wordBytes ≤ one.slot

instance : Std.Symm Tag.Apart := ⟨fun _ _ apart => apart.symm⟩

theorem Tag.not_apart_of_slot_eq {one other : Tag} (same : one.slot = other.slot) :
    ¬ one.Apart other := by
  unfold Apart wordBytes
  omega

/-- The method writes to one of the eight bytes at an address. -/
def Edit.Hits (edit : Edit) (slot : Nat) : Prop :=
  match edit with
  | .write addr bytes => Overlap slot wordBytes addr bytes.length
  | .writeWord addr _ _ => Overlap slot wordBytes addr wordBytes
  | .release => False

instance (edit : Edit) (slot : Nat) : Decidable (edit.Hits slot) :=
  match edit with
  | .write addr bytes => inferInstanceAs (Decidable (Overlap slot wordBytes addr bytes.length))
  | .writeWord addr _ _ => inferInstanceAs (Decidable (Overlap slot wordBytes addr wordBytes))
  | .release => inferInstanceAs (Decidable False)

namespace Segment

variable {segment written edited : Segment} {edit : Edit} {addr : Nat} {bytes : List UInt8}
  {word : UInt64} {window : Window} {tag : Tag} {tag? : Option Tag}

/-! ## The methods that succeed -/

/-- The segment without its storage and its tags. -/
def given (segment : Segment) : Segment := { segment with storage := none, tags := [] }

/-- What a standing segment becomes by a method that succeeds. -/
inductive Done (segment : Segment) : Edit → Segment → Prop
  | write {addr : Nat} {bytes : List UInt8}
      (inside : addr + bytes.length ≤ segment.size.toNat) :
      Done segment (.write addr bytes) (segment.stored addr bytes none)
  | writeWord {addr : Nat} {word : UInt64} {window : Window}
      (inside : addr + wordBytes ≤ segment.size.toNat) :
      Done segment (.writeWord addr word window)
        (segment.stored addr (Bytes.ofNat wordBytes word.toNat) (some ⟨addr, word, window⟩))
  | release : Done segment .release segment.given

/-- Nothing can be done to a released segment. -/
theorem refused_of_isFree (released : segment.isFree = true) (edit : Edit) :
    ∃ fault, edit.apply segment = .error fault := by
  have none : segment.storage = none := Option.isNone_iff_eq_none.1 released
  have plain : ∀ addr bytes, ∃ fault, segment.write addr bytes = .error fault := by
    intro addr bytes
    rw [write, none]
    split
    · exact ⟨_, rfl⟩
    · exact ⟨_, rfl⟩
  cases edit with
  | write addr bytes => exact plain addr bytes
  | writeWord addr word window =>
    obtain ⟨fault, refused⟩ := plain addr (Bytes.ofNat wordBytes word.toNat)
    exact ⟨fault, by rw [Edit.apply, writeWord, refused]; rfl⟩
  | release => exact ⟨.doubleFree, by rw [Edit.apply, release, none]⟩

/-- A method succeeds on a standing segment only, and in one of three ways. -/
theorem done_of_apply (done : edit.apply segment = .ok edited) :
    segment.isFree = false ∧ segment.Done edit edited := by
  have standing : segment.isFree = false := by
    rw [← Bool.not_eq_true]
    intro released
    obtain ⟨fault, refused⟩ := refused_of_isFree released edit
    rw [refused] at done
    cases done
  refine ⟨standing, ?_⟩
  cases edit with
  | write addr bytes =>
    change segment.write addr bytes = .ok edited at done
    by_cases inside : addr + bytes.length ≤ segment.size.toNat
    · rw [write_eq standing inside] at done
      injection done with same
      exact same ▸ .write inside
    · rw [write_of_outside standing inside] at done
      cases done
  | writeWord addr word window =>
    change segment.writeWord addr word window = .ok edited at done
    by_cases inside : addr + wordBytes ≤ segment.size.toNat
    · rw [writeWord_eq standing inside] at done
      injection done with same
      exact same ▸ .writeWord inside
    · rw [writeWord_of_outside standing inside] at done
      cases done
  | release =>
    change segment.release = .ok edited at done
    rw [release, storage_eq standing] at done
    injection done with same
    exact same ▸ .release

/-! ## Tags and bytes -/

/-- The tags among those of the segment that `len` bytes at `addr` leave alone. -/
def spared (segment : Segment) (addr len : Nat) : List Tag :=
  segment.tags.filter fun tag => !decide (Overlap tag.slot wordBytes addr len)

theorem mem_spared_iff {len : Nat} :
    tag ∈ segment.spared addr len ↔
      tag ∈ segment.tags ∧ ¬ Overlap tag.slot wordBytes addr len := by
  simp only [spared, List.mem_filter, Bool.not_eq_true', decide_eq_false_iff_not]

theorem tags_stored (segment : Segment) (addr : Nat) (bytes : List UInt8) (tag? : Option Tag) :
    (segment.stored addr bytes tag?).tags = tag?.toList ++ segment.spared addr bytes.length := by
  simp only [stored, spared, Tag.meets_eq]

/-- What every segment keeps of its tags. -/
structure Tagged (segment : Segment) : Prop where
  inside : ∀ tag ∈ segment.tags, tag.slot + wordBytes ≤ segment.size.toNat
  holds : ∀ tag ∈ segment.tags,
    segment.contents.read tag.slot wordBytes = Bytes.ofNat wordBytes tag.word.toNat
  apart : segment.tags.Pairwise Tag.Apart
  released : segment.isFree = true → segment.tags = []

/-- A store keeps this, if the tag that it leaves is for the word that it writes. -/
theorem Tagged.stored (tagged : segment.Tagged)
    (inside : addr + bytes.length ≤ segment.size.toNat)
    (own : ∀ tag, tag? = some tag →
      tag.slot = addr ∧ bytes = Bytes.ofNat wordBytes tag.word.toNat) :
    (segment.stored addr bytes tag?).Tagged := by
  have cases_of_mem : ∀ tag ∈ (segment.stored addr bytes tag?).tags,
      tag? = some tag ∨ tag ∈ segment.tags ∧ ¬ Overlap tag.slot wordBytes addr bytes.length := by
    intro tag listed
    rw [tags_stored, List.mem_append, Option.mem_toList, mem_spared_iff] at listed
    exact listed
  refine ⟨?_, ?_, ?_, fun released => by cases released⟩
  · intro tag listed
    rw [size_stored]
    rcases cases_of_mem tag listed with new | ⟨older, _⟩
    · obtain ⟨rfl, rfl⟩ := own tag new
      rwa [Bytes.length_ofNat] at inside
    · exact tagged.inside tag older
  · intro tag listed
    rw [contents_stored]
    rcases cases_of_mem tag listed with new | ⟨older, clear⟩
    · -- the new bytes are those of the word
      obtain ⟨rfl, rfl⟩ := own tag new
      have back := Memory.read_write segment.contents tag.slot
        (Bytes.ofNat wordBytes tag.word.toNat)
      rwa [Bytes.length_ofNat] at back
    · -- the new bytes are none of those under an older tag that is still there
      rw [← tagged.holds tag older]
      apply Memory.read_congr
      intro i below above
      rw [Memory.byte_write, if_neg]
      exact fun covered => clear ⟨i, ⟨below, above⟩, covered⟩
  · rw [tags_stored]
    have kept : (segment.spared addr bytes.length).Pairwise Tag.Apart := tagged.apart.filter _
    rcases tag? with _ | new
    · exact kept
    · obtain ⟨slot, word⟩ := own new rfl
      refine List.pairwise_cons.2 ⟨?_, kept⟩
      intro older listed
      have clear := (mem_spared_iff.1 listed).2
      rw [overlap_iff, word, Bytes.length_ofNat] at clear
      unfold Tag.Apart
      unfold wordBytes at *
      omega

/-- A method that succeeds keeps what every segment keeps. -/
theorem Tagged.step (tagged : segment.Tagged) (done : segment.Done edit edited) :
    edited.Tagged := by
  cases done with
  | write inside => exact tagged.stored inside (fun tag own => by cases own)
  | writeWord inside =>
    refine tagged.stored (by rwa [Bytes.length_ofNat]) ?_
    rintro tag ⟨⟩
    exact ⟨rfl, rfl⟩
  | release =>
    refine ⟨?_, ?_, .nil, fun _ => rfl⟩
    · exact fun tag listed => absurd listed List.not_mem_nil
    · exact fun tag listed => absurd listed List.not_mem_nil

/-- A tag is found by its slot, since no other one is there. -/
theorem Tagged.find?_eq (tagged : segment.Tagged) (listed : tag ∈ segment.tags) :
    segment.tags.find? (fun other => other.slot == tag.slot) = some tag := by
  rcases found : segment.tags.find? (fun other => other.slot == tag.slot) with _ | other
  · have missed := List.find?_eq_none.1 found tag listed
    rw [beq_self_eq_true] at missed
    exact absurd rfl missed
  · have slot : other.slot = tag.slot := by simpa using List.find?_some found
    by_cases same : other = tag
    · rw [← same] at found ⊢
      exact found
    · have apart := tagged.apart.forall (List.mem_of_find?_eq_some found) listed same
      exact absurd apart (Tag.not_apart_of_slot_eq slot)

/-- Where there is a tag, its word is read, with its window. -/
theorem Tagged.readWord_eq (tagged : segment.Tagged) (listed : tag ∈ segment.tags) :
    segment.read tag.slot wordBytes = .ok (Bytes.ofNat wordBytes tag.word.toNat) ∧
      segment.readWord tag.slot = .ok (tag.word, some tag.window) := by
  have standing : segment.isFree = false := by
    rw [← Bool.not_eq_true]
    intro released
    rw [tagged.released released] at listed
    cases listed
  have inside := tagged.inside tag listed
  have bytes := Segment.read_eq standing inside
  rw [tagged.holds tag listed] at bytes
  refine ⟨bytes, ?_⟩
  have word : UInt64.ofNat (Bytes.toNat (Bytes.ofNat wordBytes tag.word.toNat)) = tag.word :=
    Bytes.ofNat_toNat_ofNat tag.word
  rw [readWord, bytes]
  simp only [Except.map, word, taggedWindow?, tagged.find?_eq listed, Option.bind_some, if_true]

/-! ## Tags and what was done -/

/-- The methods that succeeded, the latest first. -/
abbrev Log := List Edit

/-- The last method that wrote to one of the eight bytes at an address. -/
def Log.lastHit (log : Log) (slot : Nat) : Option Edit := log.find? fun edit => edit.Hits slot

/-- Whether the last write to any of the eight bytes at an address put a word at just this
    address. -/
def Log.marks (log : Log) (slot : Nat) : Bool :=
  match log.lastHit slot with
  | some (.writeWord addr _ _) => addr == slot
  | _ => false

/-- The log tells which tags there are. -/
def Told (segment : Segment) (log : Log) : Prop :=
  ∀ tag, tag ∈ segment.tags ↔ log.lastHit tag.slot = some (.writeWord tag.slot tag.word tag.window)

theorem Log.lastHit_cons (log : Log) (edit : Edit) (slot : Nat) :
    Log.lastHit (edit :: log) slot = if edit.Hits slot then some edit else log.lastHit slot := by
  rw [lastHit, List.find?_cons]
  by_cases hit : edit.Hits slot
  · rw [decide_eq_true hit, if_pos hit]
  · rw [decide_eq_false hit, if_neg hit]
    rfl

theorem Log.marks_iff {log : Log} {slot : Nat} :
    log.marks slot = true ↔
      ∃ word window, log.lastHit slot = some (.writeWord slot word window) := by
  unfold marks
  split
  · rename_i addr word window last
    rw [beq_iff_eq, last]
    constructor
    · rintro rfl
      exact ⟨word, window, rfl⟩
    · rintro ⟨_, _, same⟩
      injection same with same
      injection same
  · rename_i other
    simp only [Bool.false_eq_true, false_iff]
    rintro ⟨word, window, last⟩
    exact other slot word window last

/-- A method that succeeds is told of by the log that begins with it, while the segment stands. -/
theorem Told.step {log : Log} (told : segment.Told log) (done : segment.Done edit edited)
    (standing : edited.isFree = false) : edited.Told (edit :: log) := by
  intro tag
  rw [Log.lastHit_cons]
  cases done with
  | @write addr bytes inside =>
    rw [tags_stored, Option.toList_none, List.nil_append, mem_spared_iff, told tag]
    by_cases hit : (Edit.write addr bytes).Hits tag.slot
    · rw [if_pos hit]
      exact iff_of_false (fun kept => kept.2 hit) (fun last => by cases last)
    · rw [if_neg hit]
      exact and_iff_left hit
  | @writeWord addr word window inside =>
    rw [tags_stored, Option.toList_some, List.singleton_append, List.mem_cons, mem_spared_iff,
      Bytes.length_ofNat, told tag]
    by_cases hit : (Edit.writeWord addr word window).Hits tag.slot
    · -- the new word decides: the tag is its own, since every older one that it touches is gone
      rw [if_pos hit, Option.some_inj]
      constructor
      · rintro (rfl | ⟨_, clear⟩)
        · rfl
        · exact absurd hit clear
      · intro same
        injection same with slot word window
        exact Or.inl (by rw [slot, word, window])
    · -- the tag lies apart from the new word, which has one at its own address
      rw [if_neg hit]
      constructor
      · rintro (rfl | ⟨older, _⟩)
        · exact absurd (overlap_self (by decide) addr) hit
        · exact older
      · exact fun older => Or.inr ⟨older, hit⟩
  | release => cases standing

/-! ## Segments and how they came about -/

/-- A segment and the methods that succeeded on it since it was allocated. -/
inductive Reached (size : UInt32) : Log → Segment → Prop
  | fresh {segment : Segment} (made : allocate size = .ok segment) : Reached size [] segment
  | done {log : Log} {segment edited : Segment} {edit : Edit} (earlier : Reached size log segment)
      (done : edit.apply segment = .ok edited) : Reached size (edit :: log) edited
  | refused {log : Log} {segment : Segment} {edit : Edit} {fault : Fault}
      (earlier : Reached size log segment) (refused : edit.apply segment = .error fault) :
      Reached size log segment

variable {size : UInt32} {log : Log}

theorem eq_of_allocate (made : allocate size = .ok segment) :
    segment = { key := 0, size, storage := some ∅, tags := [] } := by
  unfold allocate at made
  split at made
  · cases made
  · injection made with same
    exact same.symm

/-- No method changes the size. -/
theorem Reached.size_eq (reached : Reached size log segment) : segment.size = size := by
  induction reached with
  | fresh made => rw [eq_of_allocate made]
  | done earlier done ih =>
    cases (done_of_apply done).2 with
    | write inside => exact ih
    | writeWord inside => exact ih
    | release => exact ih
  | refused earlier refused ih => exact ih

theorem Reached.tagged (reached : Reached size log segment) : segment.Tagged := by
  induction reached with
  | fresh made =>
    rw [eq_of_allocate made]
    refine ⟨?_, ?_, .nil, fun _ => rfl⟩
    · exact fun tag listed => absurd listed List.not_mem_nil
    · exact fun tag listed => absurd listed List.not_mem_nil
  | done earlier done ih => exact ih.step (done_of_apply done).2
  | refused earlier refused ih => exact ih

theorem Reached.told (reached : Reached size log segment) (standing : segment.isFree = false) :
    segment.Told log := by
  induction reached with
  | fresh made =>
    rw [eq_of_allocate made]
    exact fun tag => iff_of_false List.not_mem_nil (fun last => by cases last)
  | done earlier done ih =>
    obtain ⟨stood, done⟩ := done_of_apply done
    exact (ih stood).step done standing
  | refused earlier refused ih => exact ih standing

/-! ## Counting -/

/-- There are as many tags as addresses that the log marks. -/
theorem Tagged.taggedSlots_eq (tagged : segment.Tagged) (told : segment.Told log) :
    segment.taggedSlots = (List.range segment.size.toNat).countP log.marks := by
  have once : (segment.tags.map Tag.slot).Nodup :=
    List.pairwise_map.2 (tagged.apart.imp fun apart same => Tag.not_apart_of_slot_eq same apart)
  have perm : (segment.tags.map Tag.slot).Perm
      ((List.range segment.size.toNat).filter log.marks) := by
    refine (List.perm_ext_iff_of_nodup once (List.nodup_range.filter _)).2 fun slot => ?_
    rw [List.mem_map, List.mem_filter, List.mem_range, Log.marks_iff]
    constructor
    · rintro ⟨tag, listed, rfl⟩
      have inside := tagged.inside tag listed
      unfold wordBytes at inside
      exact ⟨by omega, tag.word, tag.window, (told tag).1 listed⟩
    · rintro ⟨_, word, window, last⟩
      exact ⟨⟨slot, word, window⟩, (told ⟨slot, word, window⟩).2 last, rfl⟩
  rw [List.countP_eq_length_filter, ← perm.length_eq, List.length_map, taggedSlots]

/-! ## What the tags of a segment say -/

/-- The tags of a segment after any methods: their eight bytes lie in the storage, hold the word of
    the tag and are read back as it; no two of them have a byte in common; a released segment has
    none.  A write erases just the tags that it has a byte in common with, and a word that is
    written adds one.  So, while the segment stands, its tags count the addresses at which the last
    write to any of the eight bytes there put a word. -/
theorem tags_mark_last_words (reached : Reached size log segment) :
    (∀ tag ∈ segment.tags, tag.slot + wordBytes ≤ size.toNat ∧
      segment.read tag.slot wordBytes = .ok (Bytes.ofNat wordBytes tag.word.toNat) ∧
      segment.readWord tag.slot = .ok (tag.word, some tag.window)) ∧
    segment.tags.Pairwise Tag.Apart ∧
    (segment.isFree = true → segment.tags = []) ∧
    (∀ addr bytes written, segment.write addr bytes = .ok written →
      written.tags = segment.spared addr bytes.length) ∧
    (∀ addr word window written, segment.writeWord addr word window = .ok written →
      written.tags = ⟨addr, word, window⟩ :: segment.spared addr wordBytes) ∧
    (segment.isFree = false →
      segment.taggedSlots = (List.range size.toNat).countP log.marks) := by
  have tagged := reached.tagged
  rw [← reached.size_eq]
  refine ⟨?_, tagged.apart, tagged.released, ?_, ?_, ?_⟩
  · intro tag listed
    exact ⟨tagged.inside tag listed, tagged.readWord_eq listed⟩
  · intro addr bytes written done
    change (Edit.write addr bytes).apply segment = .ok written at done
    cases (done_of_apply done).2
    exact tags_stored segment addr bytes none
  · intro addr word window written done
    change (Edit.writeWord addr word window).apply segment = .ok written at done
    cases (done_of_apply done).2
    rw [tags_stored, Bytes.length_ofNat]
    rfl
  · intro standing
    exact tagged.taggedSlots_eq (reached.told standing)

/-- The log and the segment after the given methods, the latest first. -/
def calls (segment : Segment) : List Edit → Log × Segment
  | [] => ([], segment)
  | edit :: earlier =>
    let (log, before) := segment.calls earlier
    match edit.apply before with
    | .ok edited => (edit :: log, edited)
    | .error _ => (log, before)

theorem reached_calls (made : allocate size = .ok segment) (edits : List Edit) :
    Reached size (segment.calls edits).1 (segment.calls edits).2 := by
  induction edits with
  | nil => exact .fresh made
  | cons edit earlier ih =>
    rw [calls]
    rcases outcome : edit.apply (segment.calls earlier).2 with fault | edited
    · simp only [outcome]
      exact ih.refused outcome
    · simp only [outcome]
      exact ih.done outcome

/-- Two words side by side; a third one across the second; a byte at the end of the first, one right
    behind the third, and four bytes that the segment does not have.  Of three tags one is left. -/
theorem tags_mark_last_words_of_misaligned :
    let third : Tag := ⟨12, 3, ⟨4, 8⟩⟩
    let outcome := calls ⟨0, 24, some ∅, []⟩
      [.write 21 [6, 6, 6, 6], .write 20 [5], .write 7 [4], .writeWord 12 3 ⟨4, 8⟩,
        .writeWord 8 2 ⟨0, 24⟩, .writeWord 0 1 ⟨0, 24⟩]
    Reached 24 outcome.1 outcome.2 ∧ outcome.1.length = 5 ∧ outcome.2.tags = [third] ∧
      outcome.2.readWord 12 = .ok (3, some ⟨4, 8⟩) ∧
      outcome.2.taggedSlots = (List.range 24).countP outcome.1.marks := by
  intro third outcome
  have reached : Reached 24 outcome.1 outcome.2 := reached_calls rfl _
  have left : outcome.2.tags = [third] := by decide +kernel
  obtain ⟨words, _, _, _, _, count⟩ := tags_mark_last_words reached
  refine ⟨reached, by decide +kernel, left, ?_, count (by decide +kernel)⟩
  exact (words third (left ▸ List.mem_singleton_self third)).2.2

end Segment

end SegmentHeap
