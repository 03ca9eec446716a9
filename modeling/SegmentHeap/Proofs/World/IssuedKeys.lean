/-
  No key is issued twice.

  A history tells by itself which keys were issued: those of the handles that allocations answered
  (`History.issuedKeys`).  It tells as well which of them were let go, one by one by frees and all
  at once by a reset (`History.droppedKeys`).  A table `Accounts` for its history if it knows
  exactly the issued keys, and has retired exactly the ones that were let go.

  One request keeps that in one of three ways: it issues a key that the table did not know
  (`Accounts.issue`), it retires keys that name segments (`Accounts.retire`), or it does neither
  (`Accounts.keep`); the last two are cases of `Accounts.settle`.  Since only the look-ups of the
  table take part in it, the source of the keys may give whatever it likes, and may be another one
  after every request.

  The keys of the table and the retired ones then are a rearrangement of the issued ones, and that
  settles the counts (`keys_are_issued_once`).
-/
import Mathlib.Data.List.Nodup
import Mathlib.Data.List.Perm.Basic
import SegmentHeap.Proofs.KeyTable.Catalog
import SegmentHeap.Proofs.World.Sound

namespace SegmentHeap

/-! ## What a history tells of keys -/

/-- Whether an allocation was granted. -/
def Record.grants (record : Record) : Bool :=
  match record.request, record.answer with
  | .alloc _, .ok _ => true
  | _, _ => false

/-- The key of the handle that an allocation answered. -/
def Record.issued? (record : Record) : Option UInt32 :=
  match record.request, record.answer with
  | .alloc _, .ok (.handle given) => some given.key
  | _, _ => none

/-- The keys that a request let go, if it was made while the given ones were held: the one that was
    freed, or all of them. -/
def Record.dropped (record : Record) (held : List UInt32) : List UInt32 :=
  match record.request, record.answer with
  | .free handle, .ok _ => if handle.isNull then [] else [handle.key]
  | .reset, .ok _ => held
  | _, _ => []

/-- The record neither issues a key nor lets one go. -/
def Record.Quiet (record : Record) : Prop :=
  record.grants = false ∧ record.issued? = none ∧ ∀ held, record.dropped held = []

/-- A request that traps issues no key and lets none go. -/
theorem Record.quiet_of_error (request : Request) (trap : Trap) :
    Quiet ⟨request, .error trap⟩ := by
  cases request <;> exact ⟨rfl, rfl, fun held => rfl⟩

/-- Nor does a request that leaves every table as it is, a free of null among them. -/
theorem Record.quiet_of_looks {request : Request} (looks : request.looks = true)
    (answer : Except Trap Reply) : Quiet ⟨request, answer⟩ := by
  cases request with
  | alloc size => cases looks
  | store op handle value => cases looks
  | reset => cases looks
  | free handle =>
    refine ⟨rfl, rfl, fun held => ?_⟩
    rcases answer with trap | reply
    · rfl
    · exact if_pos looks
  | _ => exact ⟨rfl, rfl, fun held => rfl⟩

namespace History

/-- The number of allocations that were granted. -/
def allocations (history : History) : Nat := history.countP Record.grants

/-- The keys that allocations answered, the latest first. -/
def issuedKeys (history : History) : List UInt32 := history.filterMap Record.issued?

/-- The keys that were let go, the latest first. -/
def droppedKeys : History → List UInt32
  | [] => []
  | record :: earlier =>
    record.dropped ((issuedKeys earlier).filter (· ∉ droppedKeys earlier)) ++ droppedKeys earlier

/-- The keys that were issued and not let go. -/
def heldKeys (history : History) : List UInt32 :=
  history.issuedKeys.filter (· ∉ history.droppedKeys)

theorem droppedKeys_cons (record : Record) (earlier : History) :
    droppedKeys (record :: earlier) = record.dropped earlier.heldKeys ++ earlier.droppedKeys := rfl

theorem issuedKeys_cons_of_none {record : Record} (earlier : History)
    (silent : record.issued? = none) : issuedKeys (record :: earlier) = earlier.issuedKeys :=
  List.filterMap_cons_none silent

theorem allocations_cons_of_not {record : Record} (earlier : History)
    (refused : record.grants = false) : allocations (record :: earlier) = earlier.allocations :=
  List.countP_cons_of_neg (by simp [refused])

end History

namespace KeyTable

variable {before after table : KeyTable} {history : History} {key : UInt32} {segment : Segment}
  {gone : UInt32 → Prop}

/-! ## Keys that were never issued -/

theorem Alike.strange_iff (alike : Alike before after) (key : UInt32) :
    after.Strange key ↔ before.Strange key := by
  rw [Strange, Strange, alike.get?_eq, alike.isRetired_eq]

theorem Puts.strange_iff (puts : Puts before after key segment) (other : UInt32) :
    after.Strange other ↔ other ≠ key ∧ before.Strange other := by
  rw [Strange, Strange, puts.get?_eq, puts.isRetired_eq]
  by_cases same : other = key
  · simp [same]
  · simp [same]

/-- Retiring keys that name segments makes no key strange and leaves none strange that was not. -/
theorem Retires.strange_iff (retires : Retires before after gone)
    (live : ∀ {key}, gone key → before.contains key = true) (key : UInt32) :
    after.Strange key ↔ before.Strange key := by
  refine ⟨retires.later.strange, ?_⟩
  rintro ⟨absent, fresh⟩
  have kept : ¬ gone key := by
    intro lost
    have there := live lost
    rw [contains, absent] at there
    cases there
  refine ⟨by rw [retires.get?_of_not_gone kept, absent], Bool.eq_false_iff.2 fun retired => ?_⟩
  rcases (retires.isRetired_iff key).1 retired with older | lost
  · rw [fresh] at older
    cases older
  · exact kept lost

/-- A key that is known is live or retired. -/
theorem not_strange_iff (table : KeyTable) (key : UInt32) :
    ¬ table.Strange key ↔ table.contains key = true ∨ table.isRetired key = true := by
  rw [Strange, contains, Option.isSome_iff_ne_none, not_and_or, Bool.not_eq_false]

/-- No key is both. -/
theorem Valid.isRetired_of_contains (valid : table.Valid) (live : table.contains key = true) :
    table.isRetired key = false := by
  rw [Bool.eq_false_iff]
  intro retired
  rw [contains, (valid.retired retired).2.2] at live
  cases live

/-! ## Tables that account for their history -/

/-- The table knows the keys that the history tells of, each issued once and let go at most once. -/
structure Accounts (table : KeyTable) (history : History) : Prop where
  issued_once : history.issuedKeys.Nodup
  mem_issuedKeys_iff : ∀ key, key ∈ history.issuedKeys ↔ ¬ table.Strange key
  dropped_once : history.droppedKeys.Nodup
  mem_droppedKeys_iff : ∀ key, key ∈ history.droppedKeys ↔ table.isRetired key = true
  /-- Every allocation that is granted issues a key. -/
  length_issuedKeys : history.issuedKeys.length = history.allocations

theorem accounts_nil (strange : ∀ key, table.Strange key) : table.Accounts [] := by
  refine ⟨List.nodup_nil, fun key => ?_, List.nodup_nil, fun key => ?_, rfl⟩
  · exact iff_of_false List.not_mem_nil fun known => known (strange key)
  · refine iff_of_false List.not_mem_nil ?_
    rw [(strange key).2]
    exact Bool.false_ne_true

namespace Accounts

variable {record : Record}

/-- The key source has no part in the accounts. -/
theorem withKeys (accounts : table.Accounts history) (keys : KeySource) :
    ({ table with keys } : KeyTable).Accounts history :=
  ⟨accounts.issued_once, accounts.mem_issuedKeys_iff, accounts.dropped_once,
    accounts.mem_droppedKeys_iff, accounts.length_issuedKeys⟩

/-- The keys that are held are those of the segments. -/
theorem mem_heldKeys_iff (accounts : table.Accounts history) (valid : table.Valid) (key : UInt32) :
    key ∈ history.heldKeys ↔ table.contains key = true := by
  rw [History.heldKeys, List.mem_filter, decide_eq_true_iff, accounts.mem_issuedKeys_iff,
    accounts.mem_droppedKeys_iff, not_strange_iff]
  constructor
  · rintro ⟨live | retired, kept⟩
    · exact live
    · exact absurd retired kept
  · intro live
    exact ⟨Or.inl live, by rw [valid.isRetired_of_contains live]; exact Bool.false_ne_true⟩

/-! ## What one request does to the accounts -/

/-- A key is issued that was never issued before. -/
theorem issue (accounts : before.Accounts history) (strange : before.Strange key)
    (puts : Puts before after key segment) (grants : record.grants = true)
    (issued : record.issued? = some key) (dropped : ∀ held, record.dropped held = []) :
    after.Accounts (record :: history) := by
  have issuedKeys : History.issuedKeys (record :: history) = key :: history.issuedKeys :=
    List.filterMap_cons_some issued
  have allocations : History.allocations (record :: history) = history.allocations + 1 :=
    List.countP_cons_of_pos grants
  have droppedKeys : History.droppedKeys (record :: history) = history.droppedKeys := by
    rw [History.droppedKeys_cons, dropped, List.nil_append]
  refine ⟨?_, fun other => ?_, ?_, fun other => ?_, ?_⟩
  · rw [issuedKeys, List.nodup_cons, accounts.mem_issuedKeys_iff, not_not]
    exact ⟨strange, accounts.issued_once⟩
  · rw [issuedKeys, List.mem_cons, accounts.mem_issuedKeys_iff, puts.strange_iff, not_and_or,
      not_not]
  · rw [droppedKeys]
    exact accounts.dropped_once
  · rw [droppedKeys, accounts.mem_droppedKeys_iff, puts.isRetired_eq]
  · rw [issuedKeys, allocations, List.length_cons, accounts.length_issuedKeys]

/-- No key is issued, and exactly the keys are retired that the record lets go. -/
theorem settle (accounts : before.Accounts history) (refused : record.grants = false)
    (silent : record.issued? = none)
    (strange_iff : ∀ key, after.Strange key ↔ before.Strange key)
    (isRetired_iff : ∀ key, after.isRetired key = true ↔
      key ∈ record.dropped history.heldKeys ∨ before.isRetired key = true)
    (once : (record.dropped history.heldKeys).Nodup)
    (fresh : ∀ key ∈ record.dropped history.heldKeys, before.isRetired key = false) :
    after.Accounts (record :: history) := by
  have issuedKeys := History.issuedKeys_cons_of_none history silent
  have allocations := History.allocations_cons_of_not history refused
  refine ⟨?_, fun key => ?_, ?_, fun key => ?_, ?_⟩
  · rw [issuedKeys]
    exact accounts.issued_once
  · rw [issuedKeys, accounts.mem_issuedKeys_iff, strange_iff]
  · rw [History.droppedKeys_cons]
    refine once.append accounts.dropped_once fun key now earlier => ?_
    rw [accounts.mem_droppedKeys_iff, fresh key now] at earlier
    cases earlier
  · rw [History.droppedKeys_cons, List.mem_append, accounts.mem_droppedKeys_iff, isRetired_iff]
  · rw [issuedKeys, allocations, accounts.length_issuedKeys]

/-- Keys are retired that name segments. -/
theorem retire (accounts : before.Accounts history) (valid : before.Valid)
    (retires : Retires before after gone) (refused : record.grants = false)
    (silent : record.issued? = none) (once : (record.dropped history.heldKeys).Nodup)
    (mem_dropped_iff : ∀ key, key ∈ record.dropped history.heldKeys ↔ gone key)
    (live : ∀ {key}, gone key → before.contains key = true) :
    after.Accounts (record :: history) := by
  refine accounts.settle refused silent (retires.strange_iff live) ?_ once ?_
  · intro key
    rw [retires.isRetired_iff, mem_dropped_iff, or_comm]
  · intro key dropped
    exact valid.isRetired_of_contains (live ((mem_dropped_iff key).1 dropped))

/-- Neither is a key issued nor one retired. -/
theorem keep (accounts : before.Accounts history)
    (strange_iff : ∀ key, after.Strange key ↔ before.Strange key)
    (isRetired_eq : ∀ key, after.isRetired key = before.isRetired key) (quiet : record.Quiet) :
    after.Accounts (record :: history) := by
  obtain ⟨refused, silent, dropped⟩ := quiet
  refine accounts.settle refused silent strange_iff ?_ ?_ ?_
  · intro key
    rw [dropped, isRetired_eq, or_iff_right List.not_mem_nil]
  · rw [dropped]
    exact List.nodup_nil
  · rw [dropped]
    exact List.forall_mem_nil _

/-- Every request keeps the accounts. -/
theorem perform (accounts : before.Accounts history) (valid : before.Valid) {request : Request}
    {answer : Except Trap Reply} (effect : Effect before after request answer) :
    after.Accounts (⟨request, answer⟩ :: history) := by
  cases effect with
  | allocated usable small puts =>
    exact accounts.issue (usable_iff.1 usable).2 puts rfl rfl fun held => rfl
  | @freed handle segment found retires =>
    have proper : handle.isNull = false := beq_eq_false_iff_ne.2 (slot_of_get? found).2.2
    have dropped : ∀ held, Record.dropped ⟨.free handle, .ok .done⟩ held = [handle.key] := by
      intro held
      simp only [Record.dropped, proper, Bool.false_eq_true, if_false]
    refine accounts.retire valid retires rfl rfl ?_ ?_ ?_
    · rw [dropped]
      exact List.nodup_singleton _
    · intro key
      rw [dropped, List.mem_singleton]
    · rintro key rfl
      rw [contains, found]
      rfl
  | stored typed resolves inside puts =>
    -- the segment that is written was found under its key, which is none that was never issued
    have found := Handle.get?_of_resolve resolves
    refine accounts.keep (fun key => ?_) puts.isRetired_eq ⟨rfl, rfl, fun held => rfl⟩
    rw [puts.strange_iff, and_iff_right_of_imp]
    rintro ⟨absent, _⟩ rfl
    rw [found] at absent
    cases absent
  | reset retires =>
    exact accounts.retire valid retires rfl rfl (accounts.issued_once.filter _)
      (accounts.mem_heldKeys_iff valid) id
  | looked looks same =>
    subst same
    exact accounts.keep (fun key => Iff.rfl) (fun key => rfl) (Record.quiet_of_looks looks _)
  | trapped alike same =>
    exact accounts.keep alike.strange_iff alike.isRetired_eq (Record.quiet_of_error _ _)

end Accounts

/-! ## Counting -/

namespace Accounts

/-- The issued keys are those of the segments and the retired ones, rearranged. -/
theorem perm_issuedKeys (accounts : table.Accounts history) (valid : table.Valid) :
    history.issuedKeys.Perm (table.liveKeys ++ table.retired.toList) := by
  have disjoint : table.liveKeys.Disjoint table.retired.toList := by
    intro key live retired
    rw [mem_liveKeys_iff valid] at live
    rw [mem_toList_retired, valid.isRetired_of_contains live] at retired
    cases retired
  have nodup := valid.nodup_liveKeys.append table.nodup_toList_retired disjoint
  refine (List.perm_ext_iff_of_nodup accounts.issued_once nodup).2 fun key => ?_
  rw [accounts.mem_issuedKeys_iff, not_strange_iff, List.mem_append, mem_liveKeys_iff valid,
    mem_toList_retired]

/-- Those that were let go are the retired ones, rearranged. -/
theorem perm_droppedKeys (accounts : table.Accounts history) :
    history.droppedKeys.Perm table.retired.toList := by
  refine (List.perm_ext_iff_of_nodup accounts.dropped_once table.nodup_toList_retired).2 ?_
  intro key
  rw [accounts.mem_droppedKeys_iff, mem_toList_retired]

/-- Segments and retired keys make up the allocations. -/
theorem len_add_size_retired (accounts : table.Accounts history) (valid : table.Valid) :
    table.len + table.retired.size = history.allocations := by
  have length := (accounts.perm_issuedKeys valid).length_eq
  rw [List.length_append, length_liveKeys valid, Std.ExtTreeSet.length_toList,
    accounts.length_issuedKeys] at length
  exact length.symm

theorem length_droppedKeys (accounts : table.Accounts history) :
    history.droppedKeys.length = table.retired.size := by
  rw [accounts.perm_droppedKeys.length_eq, Std.ExtTreeSet.length_toList]

end Accounts

end KeyTable

namespace World

variable {config : Config} {keys : KeySource} {history : History} {world : World} {engine : Nat}
  {fresh heap : Heap}

/-- Whatever the keys are, the table accounts for the history. -/
theorem OpenRun.accounts (made : Heap.ofConfig config keys = .ok fresh)
    (run : OpenRun (.ofHeap fresh) history world) (here : world.heap? engine = some heap) :
    heap.Valid ∧ heap.table.Accounts history := by
  obtain ⟨valid, strange⟩ := Heap.fresh_of_ofConfig made
  obtain ⟨final, one, holds⟩ := run.invariant
    (fun history heap => heap.Valid ∧ heap.table.Accounts history)
    (fun keys ⟨valid, accounts⟩ =>
      ⟨⟨valid.table.withKeys keys, valid.standing⟩, accounts.withKeys keys⟩)
    (fun location request ⟨valid, accounts⟩ =>
      ⟨valid.perform location request,
        accounts.perform valid.table (Heap.perform_spec valid location request).1⟩)
    (oneHeap_ofHeap fresh) ⟨valid, KeyTable.accounts_nil strange⟩
  exact one.heap?_eq here ▸ holds

/-- Whatever keys the source gives, and whatever is asked of engines that share a heap: allocations
    answer different keys, all of them proper.  At any time these are the keys of the segments and
    the retired ones, and no key is both.  So segments and retired keys together are as many as the
    allocations that were granted, and the segments are those without the ones that were freed or
    dropped by a reset. -/
theorem keys_are_issued_once (made : Heap.ofConfig config keys = .ok fresh)
    (run : OpenRun (.ofHeap fresh) history world) (here : world.heap? engine = some heap) :
    history.issuedKeys.Nodup ∧ history.issuedKeys.length = history.allocations ∧
    (∀ key ∈ history.issuedKeys, key ≠ 0 ∧ key < keyLimit) ∧
    (∀ key, key ∈ history.issuedKeys ↔
      key ∈ heap.table.liveKeys ∨ heap.table.isRetired key = true) ∧
    (∀ key ∈ heap.table.liveKeys, heap.table.isRetired key = false) ∧
    heap.table.len + heap.table.retired.size = history.allocations ∧
    (∀ key, key ∈ history.droppedKeys ↔ heap.table.isRetired key = true) ∧
    heap.liveSegments + history.droppedKeys.length = history.allocations := by
  obtain ⟨valid, accounts⟩ := run.accounts made here
  have known : ∀ key, key ∈ history.issuedKeys ↔
      key ∈ heap.table.liveKeys ∨ heap.table.isRetired key = true := by
    intro key
    rw [accounts.mem_issuedKeys_iff, KeyTable.not_strange_iff,
      KeyTable.mem_liveKeys_iff valid.table]
  have counts := accounts.len_add_size_retired valid.table
  refine ⟨accounts.issued_once, accounts.length_issuedKeys, ?_, known, ?_, counts,
    accounts.mem_droppedKeys_iff, ?_⟩
  · intro key issued
    rcases (known key).1 issued with live | retired
    · rw [KeyTable.mem_liveKeys_iff valid.table] at live
      obtain ⟨segment, found⟩ := Option.isSome_iff_exists.1 live
      exact ⟨(KeyTable.slot_of_get? found).2.2, valid.table.key_lt found⟩
    · obtain ⟨proper, small, _⟩ := valid.table.retired retired
      exact ⟨proper, small⟩
  · intro key live
    exact valid.table.isRetired_of_contains ((KeyTable.mem_liveKeys_iff valid.table).1 live)
  · rw [accounts.length_droppedKeys]
    exact counts

/-- One source gives zero and a key that is in use and then ends; another one, put in its place,
    gives keys that a reset has dropped.  All of these are passed over. -/
theorem keys_are_issued_once_of_redraws :
    let outcome := trial [0, 5, 5, 16]
      [(1, some (.alloc 8)), (0, some .reset), (1, some (.alloc 8)), (0, none),
        (0, some (.alloc 8))]
    ∃ heap step after, outcome.2.heap? 0 = some heap ∧
      (outcome.2.setHeap 0
        { heap with table := { heap.table with keys := .fixed [5, 0x40000010, 9] } }).perform 1
          .unknown (.alloc 8) = some step ∧
      step.state.heap? 1 = some after ∧
      History.issuedKeys (⟨.alloc 8, step.answer⟩ :: outcome.1) = [9, 16, 5] ∧
      after.table.isRetired 16 = true ∧ after.table.len + after.table.retired.size = 3 ∧
      after.liveSegments = 1 := by
  intro outcome
  obtain ⟨heap, here⟩ : ∃ heap, outcome.2.heap? 0 = some heap := ⟨_, rfl⟩
  -- what becomes of the world once its source has been exchanged
  let later (heap : Heap) := (outcome.2.setHeap 0
    { heap with table := { heap.table with keys := .fixed [5, 0x40000010, 9] } }).perform 1
      .unknown (.alloc 8)
  have run : (outcome.2.heap? 0).bind (fun heap => (later heap).map fun step =>
      (History.issuedKeys (⟨.alloc 8, step.answer⟩ :: outcome.1),
        History.droppedKeys (⟨.alloc 8, step.answer⟩ :: outcome.1),
        History.allocations (⟨.alloc 8, step.answer⟩ :: outcome.1),
        (step.state.heap? 1).isSome)) = some ([9, 16, 5], [16, 5], 3, true) := by
    decide +kernel
  rw [here, Option.bind_some] at run
  obtain ⟨step, performed, values⟩ := Option.map_eq_some_iff.1 run
  obtain ⟨issued, dropped, allocations, there⟩ := by simpa only [Prod.mk.injEq] using values
  obtain ⟨after, there⟩ := Option.isSome_iff_exists.1 there
  obtain ⟨fresh, made, earlier⟩ := reached_trial [0, 5, 5, 16]
    [(1, some (.alloc 8)), (0, some .reset), (1, some (.alloc 8)), (0, none), (0, some (.alloc 8))]
  obtain ⟨_, _, _, _, _, counts, retired, live⟩ :=
    keys_are_issued_once made ((earlier.toOpen.rekey here _).perform performed) there
  refine ⟨heap, step, after, here, performed, there, issued, ?_, ?_, ?_⟩
  · rw [← retired 16]
    show 16 ∈ History.droppedKeys (⟨.alloc 8, step.answer⟩ :: outcome.1)
    rw [dropped]
    decide
  · exact counts.trans allocations
  · change after.liveSegments +
      (History.droppedKeys (⟨.alloc 8, step.answer⟩ :: outcome.1)).length =
      History.allocations (⟨.alloc 8, step.answer⟩ :: outcome.1) at live
    rw [dropped, allocations] at live
    exact Nat.add_right_cancel live

end World

end SegmentHeap
