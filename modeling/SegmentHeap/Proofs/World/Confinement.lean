/-
  Slices are confined to their windows.

  What is done through a slice, and through all that is derived from it, changes nothing outside of
  its window, frees nothing and leaves the table as it is.  It also learns nothing of what is
  outside: two heaps whose segments have the same bytes in the window (`Segment.SameBytes`) give the
  same answers.  A handle load looks at a little more, which is the tags in the window
  (`Segment.SameTags`) and what is known of the key that was loaded (`KeyTable.SameStatus`).

  Each of these is kept by every confined request, on both heaps alike.  So answers agree one by one
  (`Reaches.answer_eq`), and then in turn (`Reaches.answers_eq`).  Only the answers of handle loads
  have to be asked for more, each for its own key.
-/
import SegmentHeap.Proofs.Heap.Confinement
import SegmentHeap.Proofs.World.Sound

namespace SegmentHeap

/-! ## Segments that look the same through a window -/

namespace Segment

variable {one other : Segment} {window : Window}

/-- The segments have the same bytes in the window. -/
def SameBytes (one other : Segment) (window : Window) : Prop :=
  ∀ addr, window.base.toNat ≤ addr → addr < window.bound.toNat →
    other.contents.byte addr = one.contents.byte addr

/-- The segments have the same tags at the places of eight bytes in the window. -/
def SameTags (one other : Segment) (window : Window) : Prop :=
  ∀ addr word, window.base.toNat ≤ addr → addr + wordBytes ≤ window.bound.toNat →
    other.taggedWindow? addr word = one.taggedWindow? addr word

theorem SameBytes.read_eq (same : one.SameBytes other window) {addr len : Nat}
    (base : window.base.toNat ≤ addr) (bound : addr + len ≤ window.bound.toNat) :
    other.contents.read addr len = one.contents.read addr len := by
  refine Memory.read_congr fun i below above => ?_
  exact same i (Nat.le_trans base below) (Nat.lt_of_lt_of_le above bound)

/-- Both segments get the same bytes. -/
theorem SameBytes.written (same : one.SameBytes other window) (request : Request) :
    (request.written one).SameBytes (request.written other) window := by
  rcases request.written_cases with idle | ⟨_, _, _, _, _, _, _, _, stored⟩
  · rw [idle, idle]
    exact same
  · intro i below above
    rw [stored, stored, contents_stored, contents_stored, Memory.byte_write, Memory.byte_write,
      same i below above]

/-- Both lose the same tags and get the same one. -/
theorem SameTags.written (same : one.SameTags other window) (request : Request) :
    (request.written one).SameTags (request.written other) window := by
  rcases request.written_cases with idle | ⟨_, _, _, _, _, _, _, _, stored⟩
  · rw [idle, idle]
    exact same
  · intro at_ word below above
    rw [stored, stored, taggedWindow?_stored, taggedWindow?_stored, same at_ word below above]

end Segment

/-! ## Keys of which the same is known -/

/-- A word with the key means the same to both tables: they know the key or do not, and they give it
    the same window. -/
structure KeyTable.SameStatus (one other : KeyTable) (key : UInt32) : Prop where
  window_eq : (other.status key).window = (one.status key).window
  unknown_iff : other.status key = .unknown ↔ one.status key = .unknown

theorem KeyTable.SameStatus.symm {one other : KeyTable} {key : UInt32}
    (same : one.SameStatus other key) : other.SameStatus one key :=
  ⟨same.window_eq.symm, same.unknown_iff.symm⟩

theorem KeyTable.SameStatus.trans {one other third : KeyTable} {key : UInt32}
    (same : one.SameStatus other key) (same' : other.SameStatus third key) :
    one.SameStatus third key :=
  ⟨same'.window_eq.trans same.window_eq, same'.unknown_iff.trans same.unknown_iff⟩

/-- No confined request changes what is known of a key. -/
theorem Heap.Leaves.sameStatus {before after : Heap} {key : UInt32} {segment later : Segment}
    (leaves : before.Leaves after key later) (found : before.table.get? key = some segment)
    (size : later.size = segment.size) (other : UInt32) :
    before.table.SameStatus after.table other := by
  by_cases own : other = key
  · have live := KeyTable.status_of_get? found
    have live' := KeyTable.status_of_get? leaves.puts.get?_self
    rw [own]
    refine ⟨?_, by rw [live, live']; exact iff_of_false KeyStatus.noConfusion KeyStatus.noConfusion⟩
    rw [live, live']
    show Window.mk 0 later.size = Window.mk 0 segment.size
    rw [size]
  · have same : after.table.status other = before.table.status other := by
      rw [KeyTable.status, KeyTable.status, leaves.puts.get?_eq, if_neg own,
        leaves.puts.isRetired_eq]
    exact ⟨by rw [same], by rw [same]⟩

namespace Handle

variable {one other : KeyTable}

theorem key_ofLoaded (table : KeyTable) (location : Location) (word : UInt64)
    (window? : Option Window) : (ofLoaded table location word window?).1.key = wordKey word := by
  rcases window? with _ | window
  · simp only [ofLoaded]
    split <;> rfl
  · simp only [ofLoaded]
    split <;> rfl

/-- A word is loaded as the same handle, if the same is known of its key. -/
theorem ofLoaded_congr {word : UInt64} (same : one.SameStatus other (wordKey word))
    (location : Location) (window? : Option Window) :
    (ofLoaded other location word window?).1 = (ofLoaded one location word window?).1 := by
  have decoded : (ofWord other word).1 = (ofWord one word).1 := by
    simp only [ofWord, same.window_eq, same.unknown_iff]
  rcases window? with _ | window
  · simp only [ofLoaded, decoded]
    split <;> rfl
  · simp only [ofLoaded, decoded]

end Handle

/-! ## The same answers -/

namespace Heap.Reaches

variable {one other : Heap} {source handle : Handle} {segment segment' : Segment}

theorem slice_eq (reaches : one.Reaches handle segment) (reaches' : other.Reaches handle segment')
    (lo hi : Int32) : handle.slice other.table lo hi = handle.slice one.table lo hi := by
  rw [Handle.slice, Handle.slice, reaches.liveSegment_eq, reaches'.liveSegment_eq]
  rcases handle.checkIdentity with fault | ⟨⟩ <;> rfl

/-- A load answers the same.  A handle load does so if the tags are the same as well, and what is
    known of the key of the handle that is loaded. -/
theorem answer_load_eq (reaches : one.Reaches source segment)
    (reaches' : other.Reaches source segment') (part : handle.PartOf source)
    (bytes : segment.SameBytes segment' source.window) (location : Location) (op : LoadOp)
    (loads : ∀ loaded, (one.load location handle op).answer = .ok (.handle loaded) →
      segment.SameTags segment' source.window ∧ one.table.SameStatus other.table loaded.key) :
    (other.load location handle op).answer = (one.load location handle op).answer := by
  rw [(reaches.part part).answer_load] at loads ⊢
  rw [(reaches'.part part).answer_load]
  rcases allowed : handle.target op.width with fault | addr
  · rfl
  rw [allowed] at loads
  obtain ⟨base, bound⟩ := part.within_of_target allowed
  have read := bytes.read_eq base bound
  rcases op with op | _
  · show Except.ok (op.ofBytes (segment'.contents.read addr op.width)) =
      .ok (op.ofBytes (segment.contents.read addr op.width))
    rw [← LoadOp.width, read]
  · obtain ⟨tags, known⟩ := loads _ rfl
    rw [Segment.handleAt, Handle.key_ofLoaded] at known
    have same : segment'.handleAt other.table location addr =
        segment.handleAt one.table location addr := by
      change segment'.contents.read addr wordBytes = segment.contents.read addr wordBytes at read
      simp only [Segment.handleAt, read, tags addr _ base bound]
      exact Handle.ofLoaded_congr known location _
    exact congrArg (fun loaded => Except.ok (Value.handle loaded)) same

/-- A confined request answers the same. -/
theorem answer_eq (reaches : one.Reaches source segment) (reaches' : other.Reaches source segment')
    (sliced : source.sliced = true) (bytes : segment.SameBytes segment' source.window)
    {request : Request} (confined : request.Confined source) (location : Location)
    (loads : ∀ loaded, (one.perform location request).answer = .ok (.value (.handle loaded)) →
      segment.SameTags segment' source.window ∧ one.table.SameStatus other.table loaded.key) :
    (other.perform location request).answer = (one.perform location request).answer := by
  cases request with
  | load op handle =>
    refine congrArg (Except.map Reply.value) ?_
    refine reaches.answer_load_eq reaches' confined.partOf bytes location op ?_
    intro loaded answer
    refine loads loaded ?_
    show (one.load location handle op).answer.map Reply.value = _
    rw [answer]
    rfl
  | store op handle value =>
    refine congrArg (Except.map fun _ => Reply.done) ?_
    have part := confined.partOf
    rcases typed : op.bytes? value with _ | bytes
    · rw [store_of_untyped typed, store_of_untyped typed]
      rfl
    · rw [(reaches.part part).store_eq location typed, (reaches'.part part).store_eq location typed]
      rcases handle.target op.width with fault | addr <;> rfl
  | slice handle lo hi =>
    refine congrArg (Except.map Reply.handle) ?_
    have part := confined.partOf
    rw [slice, slice, (reaches.part part).slice_eq (reaches'.part part)]
    rcases handle.slice one.table lo hi with fault | piece <;> rfl
  | free handle =>
    refine congrArg (Except.map fun _ => Reply.done) ?_
    have cut := confined.partOf.sliced sliced
    rw [free, free, Handle.free_of_sliced cut, Handle.free_of_sliced cut, run, run]
    rcases handle.corrupted with _ | _
    · rcases handle.isNull with _ | _ <;> rfl
    · rfl
  | add handle delta | sub handle delta | dup handle => rfl
  | _ => cases confined

/-- So do confined requests in turn.  Each answer that is a loaded handle asks for the tags, and for
    what is known of its own key, to be the same at first. -/
theorem answers_eq (reaches : one.Reaches source segment)
    (reaches' : other.Reaches source segment') (sliced : source.sliced = true)
    (bytes : segment.SameBytes segment' source.window) {asked : List (Location × Request)}
    (confined : ∀ ask ∈ asked, ask.2.Confined source) (i : Nat)
    (loads : ∀ loaded, (one.serve asked).1[i]? = some (.ok (.value (.handle loaded))) →
      segment.SameTags segment' source.window ∧ one.table.SameStatus other.table loaded.key) :
    (other.serve asked).1[i]? = (one.serve asked).1[i]? := by
  induction asked generalizing one other segment segment' i with
  | nil => rfl
  | cons ask later ih =>
    obtain ⟨location, request⟩ := ask
    obtain ⟨first, rest⟩ := List.forall_mem_cons.1 confined
    rcases i with _ | i
    · refine congrArg some (reaches.answer_eq reaches' sliced bytes first location ?_)
      intro loaded answer
      exact loads loaded (congrArg some answer)
    · refine ih (reaches.perform sliced first location) (reaches'.perform sliced first location)
        (bytes.written request) rest i ?_
      -- the first request keeps the tags the same, and what is known of each key
      intro loaded answer
      obtain ⟨tags, known⟩ := loads loaded answer
      have kept := (reaches.leaves sliced first location).sameStatus reaches.found
        (request.size_written segment) loaded.key
      have kept' := (reaches'.leaves sliced first location).sameStatus reaches'.found
        (request.size_written segment') loaded.key
      exact ⟨tags.written request, (kept.symm.trans known).trans kept'⟩

end Heap.Reaches

namespace World

variable {config config' : Config} {keys keys' : KeySource} {history history' : History}
  {world world' : World} {engine engine' : Nat} {heap other : Heap} {source : Handle}
  {segment segment' : Segment} {asked : List (Location × Request)}

/-- Whatever is done through a slice of a segment that stands, and through all that is derived from
    it: the derived handles keep to its window; no other segment changes, nor does anything of its
    own outside of the window; nothing is freed, and the table stays as large as it is.  And nothing
    is learned but what is in the window: the answers are the same ones in any other world where the
    segment has the same bytes there, but that a loaded handle shows the tags there too, and what is
    known of its key. -/
theorem slices_are_confined (reached : Reached config keys history world) (closed : history.Closed)
    (here : world.heap? engine = some heap) (issued : history.Issued source)
    (sliced : source.sliced = true) (found : heap.table.get? source.key = some segment)
    (confined : ∀ ask ∈ asked, ask.2.Confined source) :
    (∀ handle, source.Derived handle → handle.key = source.key ∧ handle.sliced = true ∧
      source.window.base ≤ handle.window.base ∧ handle.window.base ≤ handle.window.bound ∧
      handle.window.bound ≤ source.window.bound) ∧
    (∃ after, (heap.serve asked).2.table.get? source.key = some after ∧
      segment.KeptOutside after source.window) ∧
    (∀ key, key ≠ source.key → (heap.serve asked).2.table.get? key = heap.table.get? key) ∧
    (∀ key, key ∈ (heap.serve asked).2.table.liveKeys ↔ key ∈ heap.table.liveKeys) ∧
    (heap.serve asked).2.table.len = heap.table.len ∧
    (heap.serve asked).2.table.capacity = heap.table.capacity ∧
    (heap.serve asked).2.table.retired = heap.table.retired ∧
    (∀ {config' keys' history' world' engine' other segment'},
      Reached config' keys' history' world' → History.Closed history' →
      world'.heap? engine' = some other → History.Issued history' source →
      other.table.get? source.key = some segment' →
      segment.SameBytes segment' source.window → ∀ i : Nat,
        (∀ loaded, (heap.serve asked).1[i]? = some (.ok (.value (.handle loaded))) →
          segment.SameTags segment' source.window ∧
            heap.table.SameStatus other.table loaded.key) →
        (other.serve asked).1[i]? = (heap.serve asked).1[i]?) := by
  have sound := reached.sound here
  have proper := sound.proper closed issued
  have reaches := proper.reaches sound.valid found
  obtain ⟨leaves, valid⟩ := reaches.serve sliced confined
  refine ⟨?_, ⟨_, leaves.puts.get?_self, Segment.keptOutside_afterAll confined⟩, ?_, ?_,
    leaves.len_eq, leaves.capacity_eq, leaves.retired_eq, ?_⟩
  · intro handle derived
    have part := derived.partOf
    exact ⟨part.key_eq, part.sliced sliced, part.base_le, part.ordered proper.admits.ordered,
      part.bound_le⟩
  · intro key apart
    rw [leaves.puts.get?_eq, if_neg apart]
  · intro key
    rw [KeyTable.mem_liveKeys_iff valid.table, KeyTable.mem_liveKeys_iff sound.valid.table]
    exact leaves.contains_iff found key
  · intro config' keys' history' world' engine' other segment' reached' closed' here' issued' found'
      bytes i loads
    have sound' := reached'.sound here'
    have reaches' := (sound'.proper closed' issued').reaches sound'.valid found'
    exact reaches.answers_eq reaches' sliced bytes confined i loads

/-- The same slice of a small and of a large segment, which is written to behind the slice: what is
    done through the slice stays inside, and the handle that was stored and loaded is the same. -/
theorem slices_are_confined_of_larger :
    let part : Handle := ⟨7, ⟨4, 12⟩, 0, false, true⟩
    let asked : List (Location × Request) :=
      [(.unknown, .store .handle part (.handle (.whole 9 8))), (.unknown, .load .handle part),
        (.unknown, .free part), (.unknown, .slice part 1 3),
        (.unknown, .store (.data (.full .i32)) (part.add 1) (.i32 5))]
    let small := trial [7] [(0, some (.slice (.whole 7 16) 4 12)), (0, some (.alloc 16))]
    let large := trial [7]
      [(0, some (.slice (.whole 7 24) 4 12)),
        (0, some (.store (.data (.full .i32)) ⟨7, ⟨0, 24⟩, 16, false, false⟩ (.i32 (-1)))),
        (0, some (.add (.whole 7 24) 16)), (0, some (.alloc 24))]
    ∃ heap other after, small.2.heap? 0 = some heap ∧ large.2.heap? 0 = some other ∧
      (heap.serve asked).2.table.get? 7 = some after ∧
      (Segment.blank 7 16).KeptOutside after part.window ∧
      (heap.serve asked).1[1]?.map Except.toOption =
        some (some (.value (.handle ⟨9, ⟨0, 8⟩, 0, true, false⟩))) ∧
      (other.serve asked).1[1]? = (heap.serve asked).1[1]? := by
  intro part asked small large
  obtain ⟨heap, here⟩ : ∃ heap, small.2.heap? 0 = some heap := ⟨_, rfl⟩
  obtain ⟨other, there⟩ : ∃ other, large.2.heap? 0 = some other := ⟨_, rfl⟩
  have confined : ∀ ask ∈ asked, ask.2.Confined part := by
    have unmoved : part.Derived part := .self
    have origin : (Request.add part 1).origin? = some part := rfl
    have moved : part.Derived (part.add 1) := .made unmoved origin heap .unknown rfl
    simp only [asked, List.forall_mem_cons]
    exact ⟨unmoved, unmoved, unmoved, unmoved, moved, fun _ none_left => nomatch none_left⟩
  have state : (small.2.heap? 0).map (fun heap =>
      (heap.table.get? 7, heap.table.status 9, (heap.serve asked).1[1]?.map Except.toOption)) =
      some (some (.blank 7 16), .unknown,
        some (some (.value (.handle ⟨9, ⟨0, 8⟩, 0, true, false⟩)))) := by
    decide +kernel
  have state' : (large.2.heap? 0).map (fun other => (other.table.get? 7, other.table.status 9)) =
      some (some ((Segment.blank 7 24).stored 16 [255, 255, 255, 255] none), .unknown) := by
    decide +kernel
  rw [here] at state
  rw [there] at state'
  obtain ⟨found, unknown, loaded⟩ := by
    simpa only [Option.map_some, Option.some.injEq, Prod.mk.injEq] using state
  obtain ⟨found', unknown'⟩ := by
    simpa only [Option.map_some, Option.some.injEq, Prod.mk.injEq] using state'
  obtain ⟨_, ⟨after, changed, kept⟩, _, _, _, _, _, alike⟩ :=
    slices_are_confined (reached_trial _ _) (show small.1.Closed by decide +kernel) here
      (show small.1.Issued part by decide +kernel) rfl found confined
  refine ⟨heap, other, after, here, there, changed, kept, loaded, ?_⟩
  refine alike (reached_trial _ _) (show large.1.Closed by decide +kernel) there
    (show large.1.Issued part by decide +kernel) found' ?_ 1 ?_
  · -- what the large segment has been given lies behind the window
    intro addr _ above
    have bound : addr < 12 := above
    rw [Segment.contents_stored, Memory.byte_write, if_neg (by omega)]
    rfl
  · intro given answer
    rw [answer] at loaded
    obtain rfl : given = ⟨9, ⟨0, 8⟩, 0, true, false⟩ := by
      simpa only [Option.map_some, Except.toOption, Option.some.injEq, Reply.value.injEq,
        Value.handle.injEq] using loaded
    refine ⟨?_, ⟨by rw [unknown, unknown'], by rw [unknown, unknown']⟩⟩
    intro addr word _ _
    rw [Segment.taggedWindow?_stored]
    exact ite_self none

end World

end SegmentHeap
