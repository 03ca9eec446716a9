/-
  What the events of an engine tell.

  The events of an engine are those of its key table, the report of what was done, and one event for
  a trap.  Only the first ones concern the table, and none of them tells of a trap.  So the two
  sides of a step go through the operations together (`Heap.Reports`): its events, posted to the
  ledger of the table before it, give the ledger of the table after it, and they tell of the trap
  that it answers with, and of no other.

  `Heap.reports_perform` says so of each request.  `Journal` is a run with the events of all its
  requests, and `Journal.posts` has the ledger of its table come of them.  With the tables that are
  called directly this is `events_keep_books`.
-/
import SegmentHeap.Proofs.KeyTable.Ledger
import SegmentHeap.Proofs.KeyTable.Freeing
import SegmentHeap.Proofs.World.Sound

namespace SegmentHeap

/-! ## The traps that events tell of -/

/-- The trap that an event of an engine tells of. -/
def Event.trap? : Event → Option Trap
  | .trapped trap => some trap
  | _ => none

/-- The traps that a step tells of, in order. -/
def Step.traps {State Answer : Type} (step : Step State Answer) : List Trap :=
  step.events.filterMap Event.trap?

/-- An event that neither concerns the key table nor tells of a trap. -/
def Event.Aside (event : Event) : Prop := event.concernsTable = false ∧ event.trap? = none

namespace KeyTable

variable {table : KeyTable} {key : UInt32}

/-! ## A key table tells of no trap -/

theorem traps_makeRoom (table : KeyTable) (key : UInt32) : (table.makeRoom key).traps = [] := by
  fun_induction makeRoom table key with
  | case1 table empty => rfl
  | case2 table full capacity attempts found ih => exact ih
  | case3 table full found => rfl
  | case4 table full found => rfl

theorem traps_freshKey (table : KeyTable) : table.freshKey.traps = [] := by
  unfold freshKey
  rcases table.keys.firstUsable table.usable drawLimit with ⟨_ | _ | _, keys⟩
  · rfl
  · rfl
  · rfl

theorem traps_insert (table : KeyTable) (segment : Segment) :
    (table.insert segment).traps = [] := by
  have first := table.traps_freshKey
  unfold Step.traps at first
  unfold Step.traps insert
  rcases drawn : table.freshKey.answer with fault | key
  · simp only [drawn]
    exact first
  have second := table.freshKey.state.traps_makeRoom key
  unfold Step.traps at second
  rcases room : (table.freshKey.state.makeRoom key).answer with fault | ⟨⟩
  · simp only [drawn, room, List.filterMap_append, first, second, List.nil_append]
  · simp only [drawn, room, List.filterMap_append, first, second, List.nil_append]
    rfl

theorem traps_remove (table : KeyTable) (key : UInt32) : (table.remove key).traps = [] := by
  rcases found : table.get? key with _ | segment
  · rw [remove_of_none found]
    rfl
  · rw [remove_of_some found]
    rfl

theorem traps_clear (table : KeyTable) : table.clear.traps = [] := by
  unfold clear
  split
  · rfl
  · rfl

/-! ## The steps of a table that a heap takes -/

/-- The step reports what it does to the table, and tells of no trap. -/
structure Reports {α : Type} (before : KeyTable) (step : Step KeyTable α) : Prop where
  posts : before.Posts step
  traps : step.traps = []

theorem reports_quiet {α : Type} (table : KeyTable) (answer : α) :
    table.Reports ⟨answer, table, []⟩ :=
  ⟨rfl, rfl⟩

theorem reports_allocate (valid : table.Valid) (limit size : UInt32) :
    table.Reports (table.allocate limit size) := by
  rcases table.allocate_cases limit size with ⟨fault, refused⟩ | puts
  · rw [refused]
    exact table.reports_quiet _
  · rw [puts]
    exact ⟨posts_insert valid _, table.traps_insert _⟩

theorem reports_free (valid : table.Valid) (handle : Handle) :
    table.Reports (handle.free table) := by
  by_cases may : handle.MayFree
  · rw [Handle.free_of_mayFree may]
    exact ⟨posts_remove valid handle.key, table.traps_remove handle.key⟩
  · rw [Handle.free_of_not_mayFree may]
    exact table.reports_quiet _

/-- A write keeps the keys if it keeps the key of its segment. -/
theorem reports_writeWith (valid : table.Valid) (handle : Handle) (size : Nat)
    {write : Segment → Nat → Except Fault Segment}
    (keyed : ∀ {segment addr written}, write segment addr = .ok written →
      written.key = segment.key) :
    table.Reports (handle.writeWith table size write) := by
  unfold Handle.writeWith
  rcases resolves : handle.resolve table size with fault | ⟨segment, addr⟩
  · exact table.reports_quiet _
  rcases wrote : write segment addr with fault | written
  · simp only [wrote]
    exact table.reports_quiet _
  · simp only [wrote]
    have found := Handle.get?_of_resolve resolves
    have same := ledger_modify valid found ((keyed wrote).trans (slot_of_get? found).2.1)
    exact ⟨congrArg some same.symm, rfl⟩

end KeyTable

namespace Heap

variable {heap : Heap} {location : Location} {α β : Type}

/-! ## Requests -/

/-- The step reports what it does to the table of the heap.  It tells of the trap that it answers
    with, and of no other. -/
structure Reports (before : Heap) (step : Step Heap (Except Trap α)) : Prop where
  posts : before.table.ledger.postAll step.events = some step.state.table.ledger
  trapped : ∀ {trap}, step.answer = .error trap → step.traps = [trap]
  done : ∀ {result}, step.answer = .ok result → step.traps = []

theorem Reports.mapAnswer {step : Step Heap (Except Trap α)} (reports : heap.Reports step)
    (f : α → β) : heap.Reports (step.mapAnswer (·.map f)) := by
  obtain ⟨posts, trapped, done⟩ := reports
  refine ⟨posts, ?_, ?_⟩
  · intro trap raised
    rcases answer : step.answer with other | result
    · rw [Step.mapAnswer, answer] at raised
      injection raised with same
      exact same ▸ trapped answer
    · rw [Step.mapAnswer, answer] at raised
      cases raised
  · intro mapped given
    rcases answer : step.answer with trap | result
    · rw [Step.mapAnswer, answer] at given
      cases given
    · exact done answer

/-- A step that leaves the heap alone, with nothing to tell of it but asides. -/
theorem reports_asides (heap : Heap) (answer : α) {events : List Event}
    (asides : ∀ event ∈ events, event.Aside) : heap.Reports ⟨.ok answer, heap, events⟩ := by
  refine ⟨Ledger.postAll_of_unconcerned fun event listed => (asides event listed).1, nofun, ?_⟩
  intro result given
  exact List.filterMap_eq_nil_iff.2 fun event listed => (asides event listed).2

/-- A trap that leaves the heap alone is all there is to tell. -/
theorem reports_trap (heap : Heap) (trap : Trap) :
    heap.Reports (⟨.error trap, heap, [.trapped trap]⟩ : Step Heap (Except Trap α)) := by
  refine ⟨rfl, ?_, nofun⟩
  intro other raised
  injection raised with same
  exact same ▸ rfl

theorem reports_look {found : Type} (heap : Heap) (trap : Fault → Trap)
    {result : Except Fault found} {tell : found → α × List Event}
    (asides : ∀ there, ∀ event ∈ (tell there).2, event.Aside) :
    heap.Reports (heap.look trap (result.map tell)) := by
  rcases result with fault | there
  · exact heap.reports_trap (trap fault)
  · exact heap.reports_asides (tell there).1 (asides there)

/-- A step of the table is followed by asides, or by the one event that tells of its trap. -/
theorem reports_run {step : Step KeyTable (Except Fault α)} (reports : heap.table.Reports step)
    (trap : Fault → Trap) {report : α → List Event}
    (asides : ∀ answer, ∀ event ∈ report answer, event.Aside) :
    heap.Reports (heap.run trap report step) := by
  obtain ⟨posts, quiet⟩ := reports
  unfold Step.traps at quiet
  unfold run
  rcases step.answer with fault | answer
  · refine ⟨Ledger.postAll_append posts, ?_, nofun⟩
    intro other raised
    injection raised with same
    show (step.events ++ [Event.trapped (trap fault)]).filterMap Event.trap? = [other]
    rw [List.filterMap_append, quiet, ← same]
    rfl
  · refine ⟨?_, nofun, ?_⟩
    · show heap.table.ledger.postAll (step.events ++ report answer) = some step.state.ledger
      rw [Ledger.postAll_append posts]
      exact Ledger.postAll_of_unconcerned fun event listed => (asides answer event listed).1
    · intro result given
      show (step.events ++ report answer).filterMap Event.trap? = []
      rw [List.filterMap_append, quiet]
      exact List.filterMap_eq_nil_iff.2 fun event listed => (asides answer event listed).2

/-- Decoding tells of an unknown key at most. -/
theorem asides_ofWord {table : KeyTable} {word : UInt64} :
    ∀ event ∈ (Handle.ofWord table word).2, event.Aside := by
  intro event listed
  simp only [Handle.ofWord] at listed
  split at listed
  · rw [List.mem_singleton.1 listed]
    exact ⟨rfl, rfl⟩
  · cases listed

/-- A handle load tells of an altered word besides. -/
theorem asides_ofLoaded {table : KeyTable} {word : UInt64} {window? : Option Window} :
    ∀ event ∈ (Handle.ofLoaded table location word window?).2, event.Aside := by
  unfold Handle.ofLoaded
  rcases window? with _ | window
  · dsimp only
    split
    · exact asides_ofWord
    · intro event listed
      rcases List.mem_append.1 listed with listed | listed
      · exact asides_ofWord event listed
      · rw [List.mem_singleton.1 listed]
        exact ⟨rfl, rfl⟩
  · exact asides_ofWord

theorem aside_singleton {only : Event} (aside : only.Aside) : ∀ event ∈ [only], event.Aside := by
  intro event listed
  exact List.mem_singleton.1 listed ▸ aside

theorem reports_load (heap : Heap) (location : Location) (handle : Handle) (op : LoadOp) :
    heap.Reports (heap.load location handle op) := by
  rcases op with op | _
  · exact heap.reports_look _ fun _ => List.forall_mem_nil _
  · refine heap.reports_look _ ?_
    rintro ⟨word, window?⟩
    exact asides_ofLoaded

theorem reports_store (valid : heap.table.Valid) (location : Location) (handle : Handle)
    (op : StoreOp) (value : Value) : heap.Reports (heap.store location handle op value) := by
  rcases op with op | _
  · simp only [store]
    split
    · refine reports_run (KeyTable.reports_writeWith valid handle _ ?_) _
        fun _ => List.forall_mem_nil _
      exact Segment.key_of_write
    · exact heap.reports_trap _
  · rcases value with v | v | v | v | value
    iterate 4 exact heap.reports_trap _
    refine reports_run (KeyTable.reports_writeWith valid handle _ ?_) _
      fun _ => List.forall_mem_nil _
    exact Segment.key_of_writeWord

/-- Every request reports what it does, and the trap that it ends in. -/
theorem reports_perform (valid : heap.table.Valid) (location : Location) (request : Request) :
    heap.Reports (heap.perform location request) := by
  cases request with
  | alloc size =>
    refine Reports.mapAnswer (Reports.mapAnswer (reports_run ?_ _ ?_) _) _
    · exact KeyTable.reports_allocate valid _ size
    · exact fun key => aside_singleton ⟨rfl, rfl⟩
  | free handle =>
    refine Reports.mapAnswer (reports_run (KeyTable.reports_free valid handle) _ ?_) _
    exact fun _ => aside_singleton ⟨rfl, rfl⟩
  | slice handle lo hi =>
    refine Reports.mapAnswer (heap.reports_look _ ?_) _
    exact fun part => aside_singleton ⟨rfl, rfl⟩
  | load op handle => exact Reports.mapAnswer (heap.reports_load location handle op) _
  | store op handle value =>
    exact Reports.mapAnswer (reports_store valid location handle op value) _
  | decode word => exact heap.reports_asides _ asides_ofWord
  | reset => exact ⟨KeyTable.posts_clear valid, nofun, fun _ => heap.table.traps_clear⟩
  | grow extra => exact Reports.mapAnswer (heap.reports_trap _) _
  | copy target source len => exact Reports.mapAnswer (heap.reports_trap _) _
  | flatten => exact Reports.mapAnswer (heap.reports_trap _) _
  | add handle delta | sub handle delta | dup handle | mark handle | encode handle =>
    exact heap.reports_asides _ (List.forall_mem_nil _)

end Heap

/-! ## After every run -/

namespace World

/-- A world that came of another by requests to its engines, and the events of all of them.  A
    source of keys may become any other one at any time. -/
inductive Journal (start : World) : List Event → World → Prop
  | start : Journal start [] start
  | rekey {events : List Event} {world : World} {engine : Nat} {heap : Heap}
      (earlier : Journal start events world) (here : world.heap? engine = some heap)
      (keys : KeySource) :
      Journal start events (world.setHeap engine { heap with table := { heap.table with keys } })
  | duplicate {events : List Event} {world : World} (earlier : Journal start events world)
      (engine : Nat) : Journal start events (world.duplicate engine)
  | perform {events : List Event} {world : World} {step : Step World (Except Trap Reply)}
      {engine : Nat} {location : Location} {request : Request}
      (earlier : Journal start events world)
      (performed : world.perform engine location request = some step) :
      Journal start (events ++ step.events) step.state

variable {config : Config} {keys : KeySource} {start world : World} {heap : Heap}
  {events : List Event} {engine : Nat} {location : Location} {request : Request}
  {step : Step World (Except Trap Reply)}

/-- An engine tells what its heap tells. -/
theorem OneHeap.events_perform (one : world.OneHeap heap)
    (performed : world.perform engine location request = some step) :
    step.events = (heap.perform location request).events := by
  unfold World.perform at performed
  obtain ⟨other, here, done⟩ := Option.map_eq_some_iff.1 performed
  rw [one.heap?_eq here] at done
  rw [← done]
  rfl

/-- The events of a run lead from the ledger of its heap at first to that of its heap at last. -/
theorem Journal.posts (journal : Journal start events world) (one : start.OneHeap heap)
    (valid : heap.Valid) :
    ∃ final, world.OneHeap final ∧ final.Valid ∧
      heap.table.ledger.postAll events = some final.table.ledger := by
  induction journal with
  | start => exact ⟨heap, one, valid, rfl⟩
  | rekey earlier here keys ih =>
    obtain ⟨final, one', valid', posted⟩ := ih
    obtain rfl := one'.heap?_eq here
    exact ⟨_, one'.setHeap here _, ⟨valid'.table.withKeys keys, valid'.standing⟩, posted⟩
  | duplicate earlier engine ih =>
    obtain ⟨final, one', valid', posted⟩ := ih
    exact ⟨final, one'.duplicate engine, valid', posted⟩
  | perform earlier performed ih =>
    obtain ⟨final, one', valid', posted⟩ := ih
    obtain ⟨_, one''⟩ := one'.perform performed
    refine ⟨_, one'', valid'.perform _ _, ?_⟩
    rw [Ledger.postAll_append posted, one'.events_perform performed]
    exact (Heap.reports_perform valid'.table _ _).posts

/-- The events and the world after engines were asked in turn, the latest first. -/
def chronicle (start : World) : List (Nat × Request) → List Event × World
  | [] => ([], start)
  | (engine, request) :: earlier =>
    let before := start.chronicle earlier
    match before.2.perform engine .unknown request with
    | some step => (before.1 ++ step.events, step.state)
    | none => before

theorem journal_chronicle (start : World) (asked : List (Nat × Request)) :
    Journal start (start.chronicle asked).1 (start.chronicle asked).2 := by
  induction asked with
  | nil => exact .start
  | cons ask earlier ih =>
    rw [chronicle]
    split
    · rename_i step performed
      exact ih.perform performed
    · exact ih

/-- The events of all operations on a key table, of which some fail, keep the books of the table:
    posted to blank books in their order they all agree with what is there, and give the live keys,
    the retired keys, their numbers and the capacity of the table.  So do the events of all requests
    to the engines of a heap, for its table.  And a request tells of its trap by one event that has
    all of the trap; a request that succeeds tells of none. -/
theorem events_keep_books (config : Config) :
    (∀ {events table}, KeyTable.Journal config events table →
      ∃ books, (Ledger.blank config.initialCapacity).postAll events = some books ∧
        table.Agrees books) ∧
    (∀ {keys fresh events world engine heap}, Heap.ofConfig config keys = .ok fresh →
      Journal (.ofHeap fresh) events world → world.heap? engine = some heap →
      (∃ books, (Ledger.blank config.initialCapacity).postAll events = some books ∧
        heap.table.Agrees books) ∧
      ∀ {location request step}, world.perform engine location request = some step →
        (∀ {trap}, step.answer = .error trap → step.traps = [trap]) ∧
        ∀ {reply}, step.answer = .ok reply → step.traps = []) := by
  refine ⟨?_, ?_⟩
  · intro events table journal
    obtain ⟨valid, posted⟩ := journal.posts
    exact ⟨_, posted, KeyTable.agrees_ledger valid⟩
  · intro keys fresh events world engine heap made journal here
    obtain ⟨valid, _⟩ := Heap.fresh_of_ofConfig made
    obtain ⟨final, one, valid', posted⟩ := journal.posts (oneHeap_ofHeap fresh) valid
    obtain rfl := one.heap?_eq here
    have blank : fresh.table.ledger = .blank config.initialCapacity :=
      KeyTable.ledger_of_ofConfig (Heap.table_of_ofConfig made).1
    refine ⟨⟨_, blank ▸ posted, KeyTable.agrees_ledger valid'.table⟩, ?_⟩
    intro location request step performed
    obtain ⟨answer, _⟩ := one.perform performed
    obtain ⟨_, trapped, done⟩ := Heap.reports_perform valid'.table location request
    rw [Step.traps, one.events_perform performed, answer]
    exact ⟨trapped, done⟩

/-- A table grows and then refuses the segment all the same; so does the table of an engine, which
    goes on with a free and a reset.  The books have it all, and a free that traps afterwards is
    told of by one event. -/
theorem events_keep_books_of_refusals :
    let crowd : List Event := [.inserted 5 5 11, .expanded 11 23 1, .tableFull 23 23]
    let start : Heap := ⟨{ maxCapacity := 23 }, .ofDraws 23 [5, 258, 6]⟩
    let outcome := (ofHeap start).chronicle
      [(0, .reset), (0, .free (.whole 5 16)), (0, .alloc 2), (0, .alloc 8), (0, .alloc 16)]
    let trap : Trap := ⟨.useAfterFree, .free, .unknown, .whole 5 16, 0⟩
    ((Ledger.blank 11).postAll crowd = some ⟨{5}, ∅, 23⟩ ∧
      (KeyTable.crowded.2.insert KeyTable.oneByte).state.Agrees ⟨{5}, ∅, 23⟩) ∧
    ∃ heap step, outcome.2.heap? 0 = some heap ∧
      ((Ledger.blank 11).postAll outcome.1 = some ⟨∅, {5, 6}, 23⟩ ∧
        heap.table.Agrees ⟨∅, {5, 6}, 23⟩) ∧
      outcome.2.perform 0 .unknown (.free (.whole 5 16)) = some step ∧
      step.answer = .error trap ∧ step.traps = [trap] := by
  intro crowd start outcome trap
  obtain ⟨tables, engines⟩ := events_keep_books { maxCapacity := 23 }
  refine ⟨?_, ?_⟩
  · have made : KeyTable.ofConfig { maxCapacity := 23 } (.fixed [5, 258]) =
        .ok (.ofDraws 23 [5, 258]) := rfl
    have journal := ((KeyTable.Journal.fresh made).call (.insert KeyTable.oneByte)).call
      (.insert KeyTable.oneByte)
    have told : [] ++ ((KeyTable.ofDraws 23 [5, 258]).carryOut (.insert KeyTable.oneByte)).events ++
        (((KeyTable.ofDraws 23 [5, 258]).carryOut (.insert KeyTable.oneByte)).state.carryOut
          (.insert KeyTable.oneByte)).events = crowd := by
      decide +kernel
    rw [told] at journal
    obtain ⟨books, posted, agrees⟩ := tables journal
    have sum : (Ledger.blank 11).postAll crowd = some ⟨{5}, ∅, 23⟩ := by decide +kernel
    obtain rfl := Option.some.inj (posted.symm.trans sum)
    exact ⟨sum, agrees⟩
  · obtain ⟨heap, here⟩ := Option.isSome_iff_exists.1
      (by decide +kernel : (outcome.2.heap? 0).isSome = true)
    have refused : (outcome.2.perform 0 .unknown (.free (.whole 5 16))).map
        (fun step => step.answer) = some (.error trap) := by
      decide +kernel
    obtain ⟨step, performed, answer⟩ := Option.map_eq_some_iff.1 refused
    have made : Heap.ofConfig { maxCapacity := 23 } (.fixed [5, 258, 6]) = .ok start := rfl
    obtain ⟨⟨books, posted, agrees⟩, tells⟩ := engines made (journal_chronicle _ _) here
    have sum : (Ledger.blank 11).postAll outcome.1 = some ⟨∅, {5, 6}, 23⟩ := by decide +kernel
    obtain rfl := Option.some.inj (posted.symm.trans sum)
    exact ⟨heap, step, here, ⟨sum, agrees⟩, performed, answer, (tells performed).1 answer⟩

end World

end SegmentHeap
