/-
  Flags that are set stay set.

  A handle is obtained from another one along a chain of requests: by moving, duplicating and
  slicing it, by encoding it and decoding the word, and by storing it and loading it back while it
  is intact (`History.Obtained`).  The chain may be of any length, and anything may be asked in
  between.

  Every link keeps the flags (`Handle.KeepsFlags`).  For words this is because the flags have bits
  of their own, which decoding never clears; for stored handles because the word is loaded that was
  stored (`Traced.handleAt_of_stored`); and a slice is a slice, and is not cut out of a corrupted
  handle.  What is known of the key has no part in it, at whatever time.

  A handle with the flag of corruption is refused by every heap (`Heap.Refuses`), and one with the
  flag of a slice frees nothing.  Again this is so whatever has become of the key.
-/
import SegmentHeap.Proofs.Heap.Confinement
import SegmentHeap.Proofs.World.StoredHandles

namespace SegmentHeap

/-! ## How a handle is obtained from another -/

/-- The request was made, as the one at the given place counted from the latest, and was answered
    with the reply. -/
def History.Answered (history : History) (i : Nat) (request : Request) (reply : Reply) : Prop :=
  history[i]?.map (fun record => (record.request, record.answer.toOption)) =
    some (request, some reply)

instance (history : History) (i : Nat) (request : Request) (reply : Reply) :
    Decidable (history.Answered i request reply) :=
  inferInstanceAs (Decidable (_ = _))

/-- A handle, and all that is obtained from it by what a history tells.  Handles are plain values,
    so it does not matter when a link was made. -/
inductive History.Obtained (history : History) (source : Handle) : Handle → Prop
  | self : Obtained history source source
  /-- By slicing, moving or duplicating. -/
  | made {origin given : Handle} {i : Nat} {request : Request}
      (earlier : Obtained history source origin) (moved : request.origin? = some origin)
      (answered : history.Answered i request (.handle given)) : Obtained history source given
  | decoded {origin given : Handle} {i j : Nat} {word : UInt64}
      (earlier : Obtained history source origin)
      (encoded : history.Answered j (.encode origin) (.word word))
      (answered : history.Answered i (.decode word) (.handle given)) :
      Obtained history source given
  /-- When it was loaded, no byte of it had been written to since it was stored. -/
  | loaded {origin holder given : Handle} {i : Nat} (earlier : Obtained history source origin)
      (stored : History.Stored (history.drop (i + 1)) holder.key holder.place origin)
      (answered : history.Answered i (.load .handle holder) (.value (.handle given))) :
      Obtained history source given

/-- An answer of a truthful history is the answer of a sound heap. -/
theorem History.Truthful.of_answered {history : History} (truthful : history.Truthful) {i : Nat}
    {request : Request} {reply : Reply} (answered : history.Answered i request reply) :
    ∃ heap location, Heap.Sound heap (history.drop (i + 1)) ∧
      (heap.perform location request).answer = .ok reply := by
  obtain ⟨record, listed, told⟩ := Option.map_eq_some_iff.1 answered
  injection told with asked replied
  obtain ⟨heap, location, sound, answer⟩ := truthful i record listed
  refine ⟨heap, location, sound, ?_⟩
  rw [← asked, ← answer]
  rcases given : record.answer with trap | other
  · rw [given] at replied
    cases replied
  · rw [given] at replied
    injection replied with same
    rw [same]

/-! ## Each link keeps the flags -/

namespace Handle

variable {given source middle : Handle}

/-- The flags of the source are set in the given handle as well. -/
structure KeepsFlags (given source : Handle) : Prop where
  corrupted : source.corrupted = true → given.corrupted = true
  sliced : source.sliced = true → given.sliced = true

theorem KeepsFlags.trans (later : given.KeepsFlags middle) (earlier : middle.KeepsFlags source) :
    given.KeepsFlags source :=
  ⟨later.corrupted ∘ earlier.corrupted, later.sliced ∘ earlier.sliced⟩

/-- The word of a handle is decoded with its flags, whatever is known of its key. -/
theorem keepsFlags_ofWord (table : KeyTable) (handle : Handle) :
    (ofWord table handle.word).1.KeepsFlags handle := by
  refine ⟨?_, ?_⟩
  · intro damaged
    show (wordCorrupted handle.word || _) = true
    rw [wordCorrupted_word, damaged, Bool.true_or]
  · intro cut
    show wordSliced handle.word = true
    rw [wordSliced_word, cut]

theorem keepsFlags_ofLoaded (table : KeyTable) (location : Location) (handle : Handle)
    (window : Window) :
    (ofLoaded table location handle.word (some window)).1.KeepsFlags handle := by
  have decoded := keepsFlags_ofWord table handle
  simp only [ofLoaded]
  split
  · exact decoded
  · exact ⟨decoded.corrupted, decoded.sliced⟩

/-- A slice has the flag of one, and is cut out of no corrupted handle. -/
theorem keepsFlags_slice {table : KeyTable} {lo hi : Int32}
    (cut : source.slice table lo hi = .ok given) : given.KeepsFlags source := by
  obtain ⟨undamaged, _, _, window, _, rfl⟩ := slice_eq_ok_iff.1 cut
  refine ⟨?_, fun _ => rfl⟩
  intro damaged
  rw [undamaged] at damaged
  cases damaged

end Handle

/-- Whatever is obtained from a handle has its flags. -/
theorem History.Obtained.keepsFlags {history : History} {source given : Handle}
    (obtained : history.Obtained source given) (truthful : history.Truthful) :
    given.KeepsFlags source := by
  induction obtained with
  | self => exact ⟨id, id⟩
  | made earlier moved answered ih =>
    obtain ⟨heap, location, _, answer⟩ := truthful.of_answered answered
    refine Handle.KeepsFlags.trans ?_ ih
    rcases Heap.perform_of_origin moved answer with ⟨offset, rfl⟩ | ⟨lo, hi, cut⟩
    · exact ⟨id, id⟩
    · exact Handle.keepsFlags_slice cut
  | decoded earlier encoded answered ih =>
    obtain ⟨_, _, _, answer⟩ := truthful.of_answered encoded
    obtain ⟨heap, _, _, answer'⟩ := truthful.of_answered answered
    injection answer with word
    injection word with word
    injection answer' with same
    injection same with same
    subst word same
    exact (Handle.keepsFlags_ofWord heap.table _).trans ih
  | @loaded origin holder given i earlier stored answered ih =>
    obtain ⟨heap, location, sound, answer⟩ := truthful.of_answered answered
    obtain ⟨segment, found, value⟩ := Heap.value_of_load (Heap.load_of_perform answer)
    injection value with same
    rw [same, sound.traced.handleAt_of_stored found stored]
    exact (Handle.keepsFlags_ofLoaded heap.table location origin origin.window).trans ih

/-! ## What the flags are good for -/

/-- The heap refuses to do anything through the handle, and says that it is corrupted. -/
structure Heap.Refuses (heap : Heap) (handle : Handle) : Prop where
  load : ∀ location op, (heap.load location handle op).answer =
    .error { fault := .corruptedHandle, operation := .load op, location, handle,
             size := UInt32.ofNat op.width }
  /-- An operand of another type is found out first. -/
  store : ∀ location op value, (heap.store location handle op value).answer =
    .error { fault := if value.scalar? = op.scalar? then .corruptedHandle else .operandTypeMismatch,
             operation := .store op, location, handle, size := UInt32.ofNat op.width }
  slice : ∀ location lo hi, (heap.slice location handle lo hi).answer =
    .error { fault := .corruptedHandle, operation := .slice, location, handle,
             size := UInt32.ofNat (hi.toInt - lo.toInt).toNat }
  free : ∀ location, (heap.free location handle).answer =
    .error { fault := .corruptedHandle, operation := .free, location, handle, size := 0 }

theorem Heap.refuses_of_corrupted {handle : Handle} (damaged : handle.corrupted = true)
    (heap : Heap) : heap.Refuses handle := by
  have checked : handle.checkIdentity = .error .corruptedHandle := by
    rw [Handle.checkIdentity, if_pos damaged]
  have unresolved : ∀ size, handle.resolve heap.table size = .error .corruptedHandle := by
    intro size
    rw [Handle.resolve, checked]
    rfl
  refine ⟨?_, ?_, ?_, ?_⟩
  · intro location op
    exact load_of_fault (unresolved op.width)
  · intro location op value
    by_cases typed : value.scalar? = op.scalar?
    · obtain ⟨bytes, typed'⟩ := Option.isSome_iff_exists.1 (StoreOp.bytes?_isSome_iff.2 typed)
      rw [store_of_fault typed' (unresolved op.width), if_pos typed]
      rfl
    · have untyped := mt StoreOp.bytes?_isSome_iff.1 typed
      rw [store_of_untyped (Option.not_isSome_iff_eq_none.1 untyped), if_neg typed]
      rfl
  · intro location lo hi
    refine slice_of_fault ?_
    rw [Handle.slice, checked]
    rfl
  · intro location
    rw [free, run, Handle.free, if_pos damaged]

namespace World

variable {config : Config} {keys : KeySource} {history : History} {world : World}
  {source given : Handle}

/-- What is obtained from a corrupted handle is corrupted, and every heap refuses it, so that it is
    of no use in any later state, whatever its key names by then.  What is obtained from a slice is
    one, and freeing it never takes anything out of any heap. -/
theorem flags_are_sticky (reached : Reached config keys history world)
    (obtained : history.Obtained source given) :
    (source.corrupted = true → given.corrupted = true ∧ ∀ heap : Heap, heap.Refuses given) ∧
    (source.sliced = true → given.sliced = true ∧
      ∀ (heap : Heap) (location : Location), (heap.free location given).state = heap) := by
  have kept := obtained.keepsFlags reached.truthful
  refine ⟨?_, ?_⟩
  · intro damaged
    exact ⟨kept.corrupted damaged, Heap.refuses_of_corrupted (kept.corrupted damaged)⟩
  · intro cut
    exact ⟨kept.sliced cut, Heap.state_free_of_sliced (kept.sliced cut)⟩

/-- A word with the key 9 and the flag of a slice is decoded while that key is unknown.  The handle
    is stored, and the key issued; loaded, encoded, decoded and moved it is still refused. -/
theorem flags_are_sticky_of_issued :
    let holder : Handle := .whole 7 16
    let unknown : Handle := ⟨9, ⟨0, 0⟩, 0, true, true⟩
    let known : Handle := ⟨9, ⟨0, 8⟩, 0, true, true⟩
    let moved : Handle := ⟨9, ⟨0, 8⟩, 4, true, true⟩
    let outcome := trial [7, 9]
      [(0, some (.add known 4)), (0, some (.decode 0xC000000900000000)),
        (0, some (.encode unknown)), (0, some (.load .handle holder)),
        (0, some (.alloc 8)), (0, some (.store .handle holder (.handle unknown))),
        (0, some (.alloc 16)), (0, some (.decode 0x4000000900000000))]
    outcome.1.Answered 7 (.decode 0x4000000900000000) (.handle unknown) ∧
      outcome.1.Obtained unknown moved ∧
      ∃ heap, outcome.2.heap? 0 = some heap ∧ heap.table.contains 9 = true ∧
        heap.Refuses moved ∧ (heap.free .unknown moved).state = heap := by
  intro holder unknown known moved outcome
  have stored : History.Stored (outcome.1.drop (3 + 1)) holder.key holder.place unknown := by
    unfold History.Stored
    decide +kernel
  have loaded : outcome.1.Answered 3 (.load .handle holder) (.value (.handle unknown)) := by
    decide +kernel
  have encoded : outcome.1.Answered 2 (.encode unknown) (.word 0xC000000900000000) := by
    decide +kernel
  have decoded : outcome.1.Answered 1 (.decode 0xC000000900000000) (.handle known) := by
    decide +kernel
  have added : outcome.1.Answered 0 (.add known 4) (.handle moved) := by decide +kernel
  have origin : (Request.add known 4).origin? = some known := rfl
  have back : outcome.1.Obtained unknown unknown := .loaded .self stored loaded
  have obtained : outcome.1.Obtained unknown moved :=
    .made (.decoded back encoded decoded) origin added
  obtain ⟨heap, here⟩ : ∃ heap, outcome.2.heap? 0 = some heap :=
    Option.isSome_iff_exists.1 (by decide +kernel)
  have live : (outcome.2.heap? 0).map (fun heap => heap.table.contains 9) = some true := by
    decide +kernel
  rw [here] at live
  injection live with live
  obtain ⟨corrupted, sliced⟩ := flags_are_sticky (reached_trial _ _) obtained
  exact ⟨by decide +kernel, obtained, heap, here, live, (corrupted rfl).2 heap,
    (sliced rfl).2 heap .unknown⟩

end World

end SegmentHeap
