/-
  What a request does to a key table.

  `Effect before after request answer` lists every way a request can go, with all that is to be
  known of the table after it: a blank segment under a key that was never issued, a segment with
  bytes stored in it, segments gone and their keys retired, or nothing changed.  `perform_spec` says
  that each of the requests has one of these effects.

  What holds along every run is read off the effects and not off the requests: the table after a
  request can come of the one before (`Effect.later`), its segments were there before or are new or
  just written (`Effect.origin`), and it is valid and holds no released segment (`Valid.perform`).
-/
import SegmentHeap.Proofs.Heap.Access

namespace SegmentHeap

/-! ## Effects -/

/-- A segment as an allocation leaves it. -/
def Segment.blank (key size : UInt32) : Segment := { key, size, storage := some ∅, tags := [] }

/-- A request that leaves every table as it is. -/
def Request.looks : Request → Bool
  | .alloc _ | .store .. | .reset => false
  | .free handle => handle.isNull
  | _ => true

/-- What a request can do to a key table, with the answer that it then gives. -/
inductive Effect (before after : KeyTable) : Request → Except Trap Reply → Prop
  /-- A blank segment gets a key that was never issued. -/
  | allocated {size key : UInt32} (usable : before.usable key = true) (small : key < keyLimit)
      (puts : KeyTable.Puts before after key (.blank key size)) :
      Effect before after (.alloc size) (.ok (.handle (.whole key size)))
  | freed {handle : Handle} {segment : Segment} (found : before.get? handle.key = some segment)
      (retires : KeyTable.Retires before after (· = handle.key)) :
      Effect before after (.free handle) (.ok .done)
  | stored {op : StoreOp} {handle : Handle} {value : Value} {bytes : List UInt8}
      {segment : Segment} {addr : Nat} (typed : op.bytes? value = some bytes)
      (resolves : handle.resolve before op.width = .ok (segment, addr))
      (inside : addr + op.width ≤ segment.size.toNat)
      (puts : KeyTable.Puts before after handle.key
        (segment.stored addr bytes (op.tag? value addr))) :
      Effect before after (.store op handle value) (.ok .done)
  | reset (retires : KeyTable.Retires before after (before.contains · = true)) :
      Effect before after .reset (.ok .done)
  | looked {request : Request} {answer : Except Trap Reply} (looks : request.looks = true)
      (same : after = before) : Effect before after request answer
  /-- A refused request changes no look-up, and only a refused allocation can change the table. -/
  | trapped {request : Request} {trap : Trap} (alike : KeyTable.Alike before after)
      (same : (∃ size, request = .alloc size) ∨ after = before) :
      Effect before after request (.error trap)

/-- Whatever a request does, the table after it can come of the table before it. -/
theorem Effect.later {before after : KeyTable} {request : Request} {answer : Except Trap Reply}
    (effect : Effect before after request answer) : KeyTable.Later before after := by
  cases effect with
  | allocated usable small puts =>
    exact puts.later (Or.inl (KeyTable.usable_iff.1 usable).2)
  | freed found retires => exact retires.later
  | stored typed resolves inside puts =>
    exact puts.later (Or.inr ⟨_, Handle.get?_of_resolve resolves, Segment.size_stored.symm⟩)
  | reset retires => exact retires.later
  | looked looks same => exact same ▸ KeyTable.Later.refl before
  | trapped alike same => exact alike.later

/-- A segment of the table after a request was there before, or is new and blank, or is one that the
    request stored bytes in. -/
theorem Effect.origin {before after : KeyTable} {request : Request} {answer : Except Trap Reply}
    {key : UInt32} {segment : Segment} (effect : Effect before after request answer)
    (found : after.get? key = some segment) :
    before.get? key = some segment ∨
    (before.Strange key ∧ ∃ size, segment = .blank key size) ∨
    (∃ op handle value, request = .store op handle value ∧ answer = .ok .done ∧
      ∃ older addr bytes tag?, segment = Segment.stored older addr bytes tag?) := by
  cases effect with
  | allocated usable small puts =>
    rcases puts.of_get? found with ⟨rfl, rfl⟩ | ⟨_, older⟩
    · exact Or.inr (Or.inl ⟨(KeyTable.usable_iff.1 usable).2, _, rfl⟩)
    · exact Or.inl older
  | freed there retires => exact Or.inl (retires.of_get? found).2
  | stored typed resolves inside puts =>
    rcases puts.of_get? found with ⟨rfl, rfl⟩ | ⟨_, older⟩
    · exact Or.inr (Or.inr ⟨_, _, _, rfl, rfl, _, _, _, _, rfl⟩)
    · exact Or.inl older
  | reset retires => exact Or.inl (retires.of_get? found).2
  | looked looks same => exact Or.inl (same ▸ found)
  | trapped alike same => exact Or.inl (by rwa [alike.get?_eq] at found)

/-- An allocation is refused by its size alone, or puts a blank segment into the table. -/
theorem KeyTable.allocate_cases (table : KeyTable) (limit size : UInt32) :
    (∃ fault, table.allocate limit size = ⟨.error fault, table, []⟩) ∨
      table.allocate limit size = table.insert (.blank 0 size) := by
  unfold allocate
  by_cases large : limit < size
  · rw [if_pos large]
    exact Or.inl ⟨_, rfl⟩
  rw [if_neg large, Segment.allocate]
  by_cases empty : size = 0
  · rw [if_pos empty]
    exact Or.inl ⟨_, rfl⟩
  · rw [if_neg empty]
    exact Or.inr rfl

namespace Heap

variable {heap : Heap} {location : Location} {handle : Handle} {segment : Segment}

/-! ## The limits -/

/-- A fresh heap has a fresh table. -/
theorem table_of_ofConfig {config : Config} {keys : KeySource}
    (made : ofConfig config keys = .ok heap) :
    KeyTable.ofConfig config keys = .ok heap.table ∧ heap.config = config := by
  unfold ofConfig at made
  rcases fresh : KeyTable.ofConfig config keys with error | table
  · rw [fresh] at made
    cases made
  · rw [fresh] at made
    injection made with same
    exact same ▸ ⟨rfl, rfl⟩

theorem config_run {α : Type} (heap : Heap) (trap : Fault → Trap) (report : α → List Event)
    (step : Step KeyTable (Except Fault α)) :
    (heap.run trap report step).state.config = heap.config := by
  unfold run
  split <;> rfl

/-- No request changes the limits. -/
theorem config_perform (heap : Heap) (location : Location) (request : Request) :
    (heap.perform location request).state.config = heap.config := by
  cases request with
  | alloc size => exact config_run heap _ _ _
  | free handle => exact config_run heap _ _ _
  | slice handle lo hi =>
    show (heap.slice location handle lo hi).state.config = heap.config
    rw [state_slice]
  | load op handle =>
    show (heap.load location handle op).state.config = heap.config
    rw [state_load]
  | store op handle value =>
    show (heap.store location handle op value).state.config = heap.config
    rcases typed : op.bytes? value with _ | bytes
    · rw [store_of_untyped typed]
      rfl
    · obtain ⟨_, _, _, run⟩ := store_eq_run typed heap location handle
      rw [run]
      exact config_run heap _ _ _
  | _ => rfl

/-! ## The effect of each request -/

/-- A heap whose table is valid and holds no released segment. -/
structure Valid (heap : Heap) : Prop where
  table : heap.table.Valid
  standing : ∀ {key segment}, heap.table.get? key = some segment → segment.isFree = false

/-- The exact outcome of allocating. -/
theorem alloc_spec (valid : heap.Valid) (location : Location) (size : UInt32) :
    (heap.alloc location size).state.table.Valid ∧
      ((∃ trap, (heap.alloc location size).answer = .error trap ∧
          KeyTable.Alike heap.table (heap.alloc location size).state.table) ∨
        ∃ key, (heap.alloc location size).answer = .ok (.whole key size) ∧
          heap.table.usable key = true ∧ key < keyLimit ∧
          KeyTable.Puts heap.table (heap.alloc location size).state.table key
            (.blank key size)) := by
  unfold alloc
  rcases heap.table.allocate_cases heap.config.maxSegmentSize size with ⟨fault, refused⟩ | puts
  · rw [refused]
    exact ⟨valid.table, Or.inl ⟨_, rfl, KeyTable.Alike.refl _⟩⟩
  rw [puts]
  obtain ⟨valid', outcome⟩ := KeyTable.insert_spec valid.table (.blank 0 size)
  rcases outcome with ⟨refused, alike⟩ | ⟨key, granted, usable, small, puts⟩
  · simp only [run, refused]
    exact ⟨valid', Or.inl ⟨_, rfl, alike⟩⟩
  · simp only [run, granted]
    exact ⟨valid', Or.inr ⟨key, rfl, usable, small, puts⟩⟩

/-- The exact outcome of freeing. -/
theorem free_spec (valid : heap.Valid) (location : Location) (handle : Handle) :
    (handle.isNull = true ∧ (heap.free location handle).state = heap) ∨
    (∃ trap, (heap.free location handle).answer = .error trap ∧
      (heap.free location handle).state = heap) ∨
    (∃ segment, heap.table.get? handle.key = some segment ∧
      (heap.free location handle).answer = .ok () ∧
      (heap.free location handle).state =
        { heap with table := (heap.table.remove handle.key).state }) := by
  unfold free Handle.free
  by_cases damaged : handle.corrupted = true
  · rw [if_pos damaged]
    exact Or.inr (Or.inl ⟨_, rfl, rfl⟩)
  rw [if_neg damaged]
  by_cases null : handle.isNull = true
  · rw [if_pos null]
    exact Or.inl ⟨null, rfl⟩
  rw [if_neg null]
  by_cases sliced : handle.sliced = true
  · rw [if_pos sliced]
    exact Or.inr (Or.inl ⟨_, rfl, rfl⟩)
  rw [if_neg sliced]
  rcases found : heap.table.get? handle.key with _ | segment
  · rw [KeyTable.remove_of_none found]
    exact Or.inr (Or.inl ⟨_, rfl, rfl⟩)
  · refine Or.inr (Or.inr ⟨segment, rfl, ?_, ?_⟩)
    · rw [KeyTable.remove_of_some found]
      simp only [run, Step.mapAnswer, Segment.release, Segment.storage_eq (valid.standing found)]
      rfl
    · rw [KeyTable.remove_of_some found]
      simp only [run, Step.mapAnswer, Segment.release, Segment.storage_eq (valid.standing found)]
      rfl

/-- A store that is not carried out is refused and changes nothing. -/
theorem store_spec (valid : heap.Valid) (location : Location) (handle : Handle) (op : StoreOp)
    (value : Value) :
    (∃ trap, heap.store location handle op value = heap.refuse trap) ∨
    (∃ bytes segment addr, op.bytes? value = some bytes ∧
      handle.resolve heap.table op.width = .ok (segment, addr) ∧
      heap.table.get? handle.key = some segment ∧
      addr + op.width ≤ segment.size.toNat ∧
      heap.store location handle op value =
        { answer := .ok ()
          state := { heap with
            table := heap.table.modify handle.key fun _ =>
              segment.stored addr bytes (op.tag? value addr) } }) := by
  rcases typed : op.bytes? value with _ | bytes
  · exact Or.inl ⟨_, store_of_untyped typed⟩
  rcases resolves : handle.resolve heap.table op.width with fault | ⟨segment, addr⟩
  · exact Or.inl ⟨_, store_of_fault typed resolves⟩
  have found := Handle.get?_of_resolve resolves
  have standing := valid.standing found
  by_cases inside : addr + op.width ≤ segment.size.toNat
  · exact Or.inr ⟨bytes, segment, addr, rfl, rfl, found, inside,
      store_of_resolve typed resolves standing inside⟩
  · exact Or.inl ⟨_, store_of_outside typed resolves standing inside⟩

/-- Every request has one of the effects, and keeps the table valid and the limits as they are. -/
theorem perform_spec (valid : heap.Valid) (location : Location) (request : Request) :
    Effect heap.table (heap.perform location request).state.table request
        (heap.perform location request).answer ∧
      (heap.perform location request).state.table.Valid := by
  -- four requests can change the table; the others look at it or refuse at once
  cases request with
  | alloc size =>
    obtain ⟨valid', outcome⟩ := alloc_spec valid location size
    refine ⟨?_, valid'⟩
    simp only [perform, Step.mapAnswer]
    rcases outcome with ⟨trap, refused, alike⟩ | ⟨key, granted, usable, small, puts⟩
    · rw [refused]
      exact .trapped alike (Or.inl ⟨size, rfl⟩)
    · rw [granted]
      exact .allocated usable small puts
  | free handle =>
    simp only [perform, Step.mapAnswer]
    rcases free_spec valid location handle with ⟨null, same⟩ | ⟨trap, refused, same⟩ |
      ⟨segment, found, granted, removed⟩
    · rw [same]
      exact ⟨.looked null rfl, valid.table⟩
    · rw [refused, same]
      exact ⟨.trapped (KeyTable.Alike.refl _) (Or.inr rfl), valid.table⟩
    · rw [granted, removed]
      exact ⟨.freed found (KeyTable.retires_remove found), valid.table.remove found⟩
  | store op handle value =>
    simp only [perform, Step.mapAnswer]
    rcases store_spec valid location handle op value with ⟨trap, refused⟩ |
      ⟨bytes, segment, addr, typed, resolves, found, inside, granted⟩
    · rw [refused]
      exact ⟨.trapped (KeyTable.Alike.refl _) (Or.inr rfl), valid.table⟩
    · rw [granted]
      have fills := KeyTable.fills_stored found addr bytes (op.tag? value addr)
      exact ⟨.stored typed resolves inside fills.puts, valid.table.modify found fills.keyed⟩
  | reset => exact ⟨.reset (KeyTable.retires_clear valid.table), valid.table.clear⟩
  | slice handle lo hi =>
    simp only [perform, Step.mapAnswer, state_slice]
    exact ⟨.looked rfl rfl, valid.table⟩
  | load op handle =>
    simp only [perform, Step.mapAnswer, state_load]
    exact ⟨.looked rfl rfl, valid.table⟩
  | _ => exact ⟨.looked rfl rfl, valid.table⟩

/-- Every request keeps a heap valid: new and written segments stand like the others. -/
theorem Valid.perform (valid : heap.Valid) (location : Location) (request : Request) :
    (heap.perform location request).state.Valid := by
  obtain ⟨effect, table⟩ := perform_spec valid location request
  refine ⟨table, ?_⟩
  intro key held there
  rcases effect.origin there with older | ⟨_, size, rfl⟩ | ⟨_, _, _, _, _, _, _, _, _, rfl⟩
  · exact valid.standing older
  · rfl
  · exact Segment.isFree_stored

end Heap

end SegmentHeap
