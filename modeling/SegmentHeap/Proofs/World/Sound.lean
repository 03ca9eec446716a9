/-
  The invariant of all runs.

  A heap is `Sound` with its history if its table is valid, its segments hold what the history tells
  of writes, and every handle that can be had is proper.  The last one rests on the second: a loaded
  handle is proper because its tag holds the window of a handle that was stored, and that one could
  be had before (`issued_of_write`).

  `Heap.Makes` lists what a handle is made of that a request gives out, and `proper_of_perform` says
  that it is proper if the operands are, with one case for each way.  `Heap.Sound.perform` puts the
  three together, and `World.Reached.sound` is what the theorems on runs begin with.
-/
import SegmentHeap.Proofs.Handle.Proper
import SegmentHeap.Proofs.World.Writes

namespace SegmentHeap

/-! ## Fresh heaps -/

/-- A heap begins valid and has issued no key, whatever its limits are. -/
theorem Heap.fresh_of_ofConfig {config : Config} {keys : KeySource} {heap : Heap}
    (made : Heap.ofConfig config keys = .ok heap) :
    heap.Valid ∧ ∀ key, heap.table.Strange key := by
  obtain ⟨valid, slots, retired, _⟩ := KeyTable.fresh_of_ofConfig (table_of_ofConfig made).1
  have strange : ∀ key, heap.table.Strange key := by
    intro key
    exact ⟨KeyTable.get?_of_slots_empty slots key, by simp [KeyTable.isRetired, retired]⟩
  refine ⟨⟨valid, ?_⟩, strange⟩
  intro key segment found
  rw [(strange key).1] at found
  cases found

/-- A table without segments has nothing to tell. -/
theorem KeyTable.traced_nil {table : KeyTable} (empty : ∀ key, table.get? key = none) :
    table.Traced [] := by
  refine ⟨?_, ?_, ?_⟩
  · intro write listed
    cases listed
  · intro key segment found
    rw [empty] at found
    cases found
  · intro key segment found
    rw [empty] at found
    cases found

/-! ## Stored handles were issued -/

/-- A handle that was stored could be had when it was. -/
theorem History.issued_of_write {history : History} (closed : history.Closed) {key : UInt32}
    {addr : Nat} {value : Handle} (listed : ⟨key, addr, .handle, .handle value⟩ ∈ history.writes) :
    history.Issued value := by
  induction history with
  | nil => cases listed
  | cons record earlier ih =>
    obtain ⟨operands, closed⟩ := closed
    rw [History.issued_cons]
    rcases wrote : record.write? with _ | write
    · rw [History.writes_cons_of_none wrote] at listed
      exact Or.inr (ih closed listed)
    rw [History.writes_cons_of_some wrote] at listed
    rcases List.mem_cons.1 listed with same | older
    · -- the latest write: its operand was named by the request
      subst same
      obtain ⟨target, _, asked, _⟩ := Record.store_of_write wrote
      refine Or.inr (operands value ?_)
      rw [asked]
      exact List.mem_cons_of_mem _ (List.mem_singleton_self value)
    · exact Or.inr (ih closed older)

/-! ## What every run keeps -/

/-- A heap and the history that it came of: the table is valid, its segments hold what was written,
    and every handle that can be had is proper, as long as no request made one up. -/
structure Heap.Sound (heap : Heap) (history : History) : Prop where
  valid : heap.Valid
  traced : heap.table.Traced history
  proper : history.Closed → ∀ {handle}, history.Issued handle → handle.Proper heap.table

namespace Heap.Sound

variable {heap : Heap} {history : History} {key : UInt32} {segment : Segment}

/-- A tag holds the word and the window of a handle that can be had. -/
theorem proper_of_tag (sound : heap.Sound history) (closed : history.Closed)
    (found : heap.table.get? key = some segment) {tag : Tag} (listed : tag ∈ segment.tags) :
    ∃ value : Handle, tag.word = value.word ∧ tag.window = value.window ∧
      value.Proper heap.table := by
  obtain ⟨value, last, word, window⟩ := (sound.traced.tagged found tag).1 listed
  have issued := History.issued_of_write closed (History.mem_writes_of_lastWrite last).1
  exact ⟨value, word, window, sound.proper closed issued⟩

/-- The window of a tag goes with the key in its word. -/
theorem admits_of_tag (sound : heap.Sound history) (closed : history.Closed)
    (found : heap.table.get? key = some segment) {tag : Tag} (listed : tag ∈ segment.tags) :
    heap.table.Admits (wordKey tag.word) tag.window := by
  obtain ⟨value, word, window, proper⟩ := sound.proper_of_tag closed found listed
  rw [word, window, wordKey_word proper.admits.key_lt]
  exact proper.admits

end Heap.Sound

/-! ## The handle that a request gives out -/

/-- Only a handle load makes a handle of bytes. -/
theorem DataLoad.ofBytes_ne_handle (op : DataLoad) (bytes : List UInt8) (handle : Handle) :
    op.ofBytes bytes ≠ .handle handle := by
  unfold ofBytes ofNumber
  rcases op with (_ | _ | _ | _) | _ | _ <;> exact Value.noConfusion

/-- The window beside a word that was read is one that a tag of the segment gives back to it. -/
theorem Handle.tag_of_readWord {handle : Handle} {table : KeyTable} {word : UInt64}
    {window : Window} (read : handle.readWord table = .ok (word, some window)) :
    ∃ segment tag, table.get? handle.key = some segment ∧ tag ∈ segment.tags ∧
      tag.word = word ∧ tag.window = window := by
  unfold readWord at read
  rcases resolves : handle.resolve table wordBytes with fault | ⟨segment, addr⟩
  · rw [resolves] at read
    cases read
  rw [resolves] at read
  change segment.readWord addr = .ok (word, some window) at read
  unfold Segment.readWord at read
  rcases bytes : segment.read addr wordBytes with fault | bytes
  · rw [bytes] at read
    cases read
  rw [bytes] at read
  injection read with read
  injection read with same tagged
  rw [same] at tagged
  exact ⟨segment, _, get?_of_resolve resolves, Segment.mem_tags_of_taggedWindow? tagged, rfl, rfl⟩

variable {heap : Heap} {location : Location} {handle given : Handle}

/-- A new handle covers the blank segment that was just put into the table. -/
theorem Heap.proper_of_alloc (valid : heap.Valid) {size : UInt32}
    (granted : (heap.alloc location size).answer = .ok given) :
    given.Proper (heap.alloc location size).state.table := by
  obtain ⟨_, ⟨trap, refused, _⟩ | ⟨key, answer, _, small, puts⟩⟩ := alloc_spec valid location size
  · rw [refused] at granted
    cases granted
  · rw [answer] at granted
    injection granted with same
    exact same ▸ Handle.proper_whole small puts.get?_self

/-- A slice of a proper handle is proper. -/
theorem Heap.proper_of_slice {lo hi : Int32} (proper : handle.Proper heap.table)
    (granted : (heap.slice location handle lo hi).answer = .ok given) :
    given.Proper heap.table := by
  rcases cut : handle.slice heap.table lo hi with fault | part
  · rw [slice_of_fault cut] at granted
    cases granted
  · rw [slice_of_ok cut] at granted
    injection granted with same
    exact same ▸ proper.slice cut

/-- A handle is loaded with the window of its tag, or with one that any word may have. -/
theorem Heap.proper_of_load {op : LoadOp}
    (tags : ∀ {key segment}, heap.table.get? key = some segment →
      ∀ tag ∈ segment.tags, heap.table.Admits (wordKey tag.word) tag.window)
    (granted : (heap.load location handle op).answer = .ok (.handle given)) :
    given.Proper heap.table := by
  rcases op with op | _
  · rcases read : handle.readBytes heap.table op.count with fault | bytes
    · simp only [load, read] at granted
      cases granted
    · simp only [load, read] at granted
      injection granted with same
      exact absurd same (op.ofBytes_ne_handle bytes given)
  · rcases read : handle.readWord heap.table with fault | ⟨word, window?⟩
    · simp only [load, read] at granted
      cases granted
    · simp only [load, read] at granted
      injection granted with same
      injection same with same
      rw [← same]
      refine Handle.proper_ofLoaded location fun window beside => ?_
      subst beside
      obtain ⟨segment, tag, found, listed, rfl, rfl⟩ := Handle.tag_of_readWord read
      exact tags found tag listed

/-- What a request makes the handle of that it gives out: an allocation, a slice or a load has made
    it, or it is that of a word, or it has the key and the window of an operand. -/
inductive Heap.Makes (heap : Heap) (location : Location) : Request → Handle → Prop
  | alloc {size : UInt32} {given : Handle}
      (granted : (heap.alloc location size).answer = .ok given) :
      Makes heap location (.alloc size) given
  | slice {handle given : Handle} {lo hi : Int32}
      (granted : (heap.slice location handle lo hi).answer = .ok given) :
      Makes heap location (.slice handle lo hi) given
  | load {op : LoadOp} {handle given : Handle}
      (granted : (heap.load location handle op).answer = .ok (.handle given)) :
      Makes heap location (.load op handle) given
  | decode (word : UInt64) : Makes heap location (.decode word) (Handle.ofWord heap.table word).1
  | same {request : Request} {handle given : Handle} (operand : handle ∈ request.handles)
      (key : given.key = handle.key) (window : given.window = handle.window)
      (corrupted : handle.corrupted = true → given.corrupted = true) :
      Makes heap location request given

theorem Heap.makes_of_perform {request : Request}
    (gives : Record.handle? ⟨request, (heap.perform location request).answer⟩ = some given) :
    heap.Makes location request given := by
  cases request with
  | alloc size =>
    simp only [perform, Step.mapAnswer] at gives
    rcases granted : (heap.alloc location size).answer with trap | handle
    · rw [granted] at gives
      cases gives
    · rw [granted] at gives
      injection gives with same
      exact .alloc (same ▸ granted)
  | slice handle lo hi =>
    simp only [perform, Step.mapAnswer] at gives
    rcases granted : (heap.slice location handle lo hi).answer with trap | part
    · rw [granted] at gives
      cases gives
    · rw [granted] at gives
      injection gives with same
      exact .slice (same ▸ granted)
  | load op handle =>
    simp only [perform, Step.mapAnswer] at gives
    rcases granted : (heap.load location handle op).answer with trap | value
    · rw [granted] at gives
      cases gives
    · rw [granted] at gives
      rcases value with v | v | v | v | loaded
      iterate 4 cases gives
      injection gives with same
      exact .load (same ▸ granted)
  | decode word =>
    injection gives with same
    exact same ▸ .decode word
  | add handle delta | sub handle delta | dup handle =>
    injection gives with same
    exact same ▸ .same (List.mem_singleton_self _) rfl rfl id
  | mark handle =>
    injection gives with same
    exact same ▸ .same (List.mem_singleton_self _) rfl rfl fun _ => rfl
  | free handle =>
    simp only [perform, Step.mapAnswer] at gives
    rcases answer : (heap.free location handle).answer with trap | done
    all_goals
      rw [answer] at gives
      cases gives
  | store op handle value =>
    simp only [perform, Step.mapAnswer] at gives
    rcases answer : (heap.store location handle op value).answer with trap | done
    all_goals
      rw [answer] at gives
      cases gives
  | encode handle | grow extra | copy target source len | flatten | reset => cases gives

/-- A request whose operands are proper gives out only a proper handle. -/
theorem Heap.proper_of_perform (valid : heap.Valid)
    (tags : ∀ {key segment}, heap.table.get? key = some segment →
      ∀ tag ∈ segment.tags, heap.table.Admits (wordKey tag.word) tag.window)
    {request : Request} (operands : ∀ handle ∈ request.handles, handle.Proper heap.table)
    (gives : Record.handle? ⟨request, (heap.perform location request).answer⟩ = some given) :
    given.Proper (heap.perform location request).state.table := by
  have later := (perform_spec valid location request).1.later
  -- only an allocation gives out a handle that was not proper in the table before
  cases makes_of_perform gives with
  | alloc granted => exact proper_of_alloc valid granted
  | slice granted =>
    exact (proper_of_slice (operands _ (List.mem_singleton_self _)) granted).later later
  | load granted => exact (proper_of_load tags granted).later later
  | decode word => exact (Handle.proper_ofWord heap.table word).later later
  | same operand key window corrupted =>
    exact ((operands _ operand).of_same key window corrupted).later later

/-! ## Runs -/

namespace Heap.Sound

variable {history : History}

/-- Every request keeps a heap sound with its history. -/
theorem perform (sound : heap.Sound history) (location : Location) (request : Request) :
    (heap.perform location request).state.Sound
      (⟨request, (heap.perform location request).answer⟩ :: history) := by
  obtain ⟨effect, _⟩ := perform_spec sound.valid location request
  refine ⟨sound.valid.perform location request, sound.traced.perform effect, ?_⟩
  rintro ⟨operands, closed⟩ handle issued
  rcases History.issued_cons.1 issued with gives | older
  · refine proper_of_perform sound.valid (sound.admits_of_tag closed) ?_ gives
    exact fun operand named => sound.proper closed (operands operand named)
  · exact (sound.proper closed older).later effect.later

end Heap.Sound

/-- A fresh heap is sound with nothing asked of it. -/
theorem Heap.sound_of_ofConfig {config : Config} {keys : KeySource}
    (made : Heap.ofConfig config keys = .ok heap) : heap.Sound [] := by
  obtain ⟨valid, strange⟩ := Heap.fresh_of_ofConfig made
  refine ⟨valid, KeyTable.traced_nil fun key => (strange key).1, ?_⟩
  rintro - handle (rfl | ⟨record, listed, _⟩)
  · exact Handle.proper_null heap.table
  · cases listed

/-- In a reached world all engines have one heap, and that is sound. -/
theorem World.Reached.oneHeap {config : Config} {keys : KeySource} {history : History}
    {world : World} (reached : Reached config keys history world) :
    ∃ heap, world.OneHeap heap ∧ heap.Sound history := by
  obtain ⟨fresh, made, run⟩ := reached
  exact run.invariant (fun history heap => heap.Sound history)
    (fun location request sound => sound.perform location request) (oneHeap_ofHeap fresh)
    (Heap.sound_of_ofConfig made)

/-- Whichever engine of a reached world is asked, its heap is sound. -/
theorem World.Reached.sound {config : Config} {keys : KeySource} {history : History}
    {world : World} {engine : Nat} (reached : Reached config keys history world)
    (here : world.heap? engine = some heap) : heap.Sound history := by
  obtain ⟨final, one, sound⟩ := reached.oneHeap
  exact one.heap?_eq here ▸ sound

/-- Every answer was given by a sound heap, which the requests before had led to. -/
def History.Truthful (history : History) : Prop :=
  ∀ (i : Nat) record, history[i]? = some record →
    ∃ heap location, Heap.Sound heap (history.drop (i + 1)) ∧
      record.answer = (heap.perform location record.request).answer

theorem History.Truthful.perform {history : History} (truthful : history.Truthful)
    (sound : heap.Sound history) (location : Location) (request : Request) :
    Truthful (⟨request, (heap.perform location request).answer⟩ :: history) := by
  intro i record listed
  rcases i with _ | i
  · injection listed with same
    exact ⟨heap, location, sound, same ▸ rfl⟩
  · exact truthful i record listed

/-- The history of a reached world is truthful. -/
theorem World.Reached.truthful {config : Config} {keys : KeySource} {history : History}
    {world : World} (reached : Reached config keys history world) : history.Truthful := by
  obtain ⟨fresh, made, run⟩ := reached
  have nothing : History.Truthful [] := by
    intro i record listed
    cases listed
  obtain ⟨_, _, _, truthful⟩ := run.invariant
    (fun history heap => heap.Sound history ∧ history.Truthful)
    (fun location request ⟨sound, truthful⟩ =>
      ⟨sound.perform location request, truthful.perform sound location request⟩)
    (oneHeap_ofHeap fresh) ⟨Heap.sound_of_ofConfig made, nothing⟩
  exact truthful

end SegmentHeap
