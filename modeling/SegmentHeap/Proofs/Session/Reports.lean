/-
  What the report of a run says, and what the names stand for after it.

  A run that has a report is taken apart once: it is empty, it stops at a trap, or it goes on behind
  a statement that was executed (`Reports`).  All that is said of reports is one induction over
  these three cases.  The entry at each place is what the statement at that place came to when its
  turn came (`Reports.entry_at`); the counts are those of the entries; and a name stands for the
  value of the last entry that binds it (`Reports.bindings_eq`).

  A statement that binds a name yields a value unless it traps.  This is between the reader, which
  gives a name only to commands that produce a value (`producesValue_of_parse`), and the heap, which
  leaves no other requests without a value than those that never have one (`silent_of_done`).

  `reports_tell_truth` puts it together.
-/
import SegmentHeap.Proofs.Session.Flaws
import SegmentHeap.Proofs.Trace.Locality

namespace SegmentHeap

open Trace

/-! ## Commands that yield a value -/

/-- The requests that have no value to answer with. -/
inductive Request.Silent : Request → Prop
  | free (handle : Handle) : Silent (.free handle)
  | store (op : StoreOp) (handle : Handle) (value : Value) : Silent (.store op handle value)
  | reset : Silent .reset

/-- Any other request is answered with a value or traps. -/
theorem Heap.silent_of_done {heap : Heap} {location : Location} {request : Request}
    (done : (heap.perform location request).answer = .ok .done) : request.Silent := by
  cases request with
  | free handle => exact .free handle
  | store op handle value => exact .store op handle value
  | reset => exact .reset
  | alloc | slice | load => exact absurd done (map_ne_ok nofun _)
  | _ => cases done

/-- A command with a value is not resolved to a request without one. -/
theorem Bindings.not_silent_of_producesValue {bindings : Bindings} {command : Command}
    {request : Request} (produces : command.producesValue = true)
    (resolved : bindings.resolve command = .ok (.perform request)) : ¬ request.Silent := by
  intro silent
  cases silent <;> cases command <;> cases produces <;>
    simp [resolve, bind_eq_ok_iff, pure, Except.pure] at resolved

theorem Session.done_of_act {session : Session} {line : UInt32} {action : Action}
    (done : (session.act line action).answer = .done) :
    ∃ request, action = .perform request ∧ request.Silent := by
  cases action with
  | print value => cases done
  | perform request =>
    refine ⟨request, rfl, ?_⟩
    change Result.ofReply (session.heap.perform _ request).answer = .done at done
    rcases answer : (session.heap.perform ⟨0, line⟩ request).answer with trap | reply
    · rw [answer] at done
      cases done
    · rw [answer] at done
      cases reply with
      | done => exact Heap.silent_of_done answer
      | _ => cases done

/-! ## Names are given to commands with a value -/

namespace Trace

/-- The reader gives a name only to a command with a value. -/
theorem producesValue_of_readLines {n : Nat} {lines : List (List Char)}
    {statements : List Statement} (read : readLines n lines = .ok statements) :
    ∀ statement ∈ statements, statement.bind.isSome = true →
      statement.command.producesValue = true := by
  induction lines generalizing n statements with
  | nil =>
    rw [← Except.ok.inj read]
    exact List.forall_mem_nil _
  | cons line rest ih =>
    rw [readLines] at read
    split at read
    · cases read
    split at read
    · cases read
    · exact ih read
    · rename_i first here
      rcases later : readLines (n + 1) rest with error | others
      · rw [later] at read
        cases read
      · rw [later] at read
        rw [← Except.ok.inj read]
        exact List.forall_mem_cons.2 ⟨(of_readStatement here).2, ih later⟩

theorem producesValue_of_parse {text : String} {statements : List Statement}
    (parsed : parse text = .ok statements) {statement : Statement} (listed : statement ∈ statements)
    (bound : statement.bind.isSome = true) : statement.command.producesValue = true :=
  producesValue_of_readLines parsed statement listed bound

end Trace

/-! ## Entries -/

namespace Entry

variable {entry : Entry} {name : String} {value : Value}

/-- The value that the entry binds to the name, if it does. -/
def bound? (name : String) (entry : Entry) : Option Value :=
  match entry.bind, entry.result with
  | some bound, .value value => if bound = name then some value else none
  | _, _ => none

theorem bound?_eq_some_iff :
    entry.bound? name = some value ↔ entry.bind = some name ∧ entry.result = .value value := by
  rcases entry with ⟨line, _ | bound, _ | _ | _⟩ <;> simp [bound?]

/-- A trap binds nothing. -/
theorem bound?_eq_none (traps : entry.bind = some name → entry.result.isTrap = true) :
    entry.bound? name = none := by
  rcases found : entry.bound? name with _ | value
  · rfl
  · obtain ⟨named, valued⟩ := bound?_eq_some_iff.1 found
    have trapped : entry.result.isTrap = true := traps named
    rw [valued] at trapped
    cases trapped

/-- The entry tells what the statement comes to in the session. -/
structure Tells (entry : Entry) (session : Session) (statement : Statement) : Prop where
  done : (session.execute statement).answer = .ok entry
  /-- The line of output starts with the number of the statement's line. -/
  numbered : ∃ outcome, entry.text = s!"line {statement.line}: " ++ outcome
  /-- A statement with a name yields a value or traps. -/
  bound : ∀ name, statement.bind = some name →
    statement.command.producesValue = true ∧ entry.bind = some name ∧
      ((∃ value, entry.result = .value value ∧
          entry.text = s!"line {statement.line}: {name} = {value.text}") ∨
        ∃ trap, entry.result = .trap trap ∧
          entry.text = s!"line {statement.line}: trap: {trap.text}")

end Entry

/-- What a report tells of a run, and of the names in the session that the run leaves. -/
structure Report.Truthful (report : Report) (session : Session) (statements : List Statement) :
    Prop where
  length : report.entries.length = report.executed ∧ report.output.length = report.executed
  /-- The statements that are executed are the first ones, and the entries are in their order. -/
  told : report.executed ≤ statements.length ∧
    ∀ i < report.executed, ∃ statement entry, statements[i]? = some statement ∧
      report.entries[i]? = some entry ∧ report.output[i]? = some entry.text ∧
      entry.Tells (session.run (statements.take i)).state statement
  traps : report.traps = report.entries.countP (·.result.isTrap)
  complete : session.failFast = false ∨ report.traps = 0 → report.executed = statements.length
  stopped_iff : report.stoppedEarly = true ↔ session.failFast = true ∧ 0 < report.traps
  last : report.stoppedEarly = true → ∃ quiet entry, report.entries = quiet ++ [entry] ∧
    entry.result.isTrap = true ∧ ∀ earlier ∈ quiet, earlier.result.isTrap = false
  /-- A name stands for the value that the last entry that binds it has come to, and has printed. -/
  bound : ∀ name before entry after, report.entries = before ++ entry :: after →
    entry.bind = some name → entry.result.isTrap = false →
    (∀ later ∈ after, later.bind = some name → later.result.isTrap = true) →
    ∃ value, entry.result = .value value ∧
      entry.text = s!"line {entry.line}: {name} = {value.text}" ∧
      (session.run statements).state.bindings[name]? = some value
  /-- A name that is not bound anew keeps its value. -/
  kept : ∀ name,
    (∀ entry ∈ report.entries, entry.bind = some name → entry.result.isTrap = true) →
    (session.run statements).state.bindings[name]? = session.bindings[name]?

namespace Session

variable {session final : Session} {statement : Statement} {statements rest : List Statement}
  {entry : Entry} {report : Report} {name : String} {value : Value}

/-- What it takes to have executed a statement. -/
theorem execute_eq_ok_iff :
    (session.execute statement).answer = .ok entry ↔
      ∃ action, session.bindings.resolve statement.command = .ok action ∧
        entry = ⟨statement.line, statement.bind, (session.act statement.line action).answer⟩ := by
  unfold execute
  rcases session.bindings.resolve statement.command with cause | action
  · simp
  · simp [eq_comm]

/-- The entry of a statement carries its line and its name. -/
theorem line_bind_of_execute (done : (session.execute statement).answer = .ok entry) :
    entry.line = statement.line ∧ entry.bind = statement.bind := by
  obtain ⟨action, _, rfl⟩ := execute_eq_ok_iff.1 done
  exact ⟨rfl, rfl⟩

/-- A command with a value has come to that value or to a trap. -/
theorem ne_done_of_execute (done : (session.execute statement).answer = .ok entry)
    (produces : statement.command.producesValue = true) : entry.result ≠ .done := by
  obtain ⟨action, resolved, rfl⟩ := execute_eq_ok_iff.1 done
  intro quiet
  obtain ⟨request, rfl, silent⟩ := done_of_act quiet
  exact Bindings.not_silent_of_producesValue produces resolved silent

theorem failFast_bind (session : Session) (name? : Option String) (result : Result) :
    (session.bind name? result).failFast = session.failFast := by
  unfold bind
  split <;> rfl

theorem failFast_act (session : Session) (line : UInt32) (action : Action) :
    (session.act line action).state.failFast = session.failFast := by
  cases action <;> rfl

theorem bindings_act (session : Session) (line : UInt32) (action : Action) :
    (session.act line action).state.bindings = session.bindings := by
  cases action <;> rfl

theorem failFast_execute (session : Session) (statement : Statement) :
    (session.execute statement).state.failFast = session.failFast := by
  unfold execute
  split
  · rfl
  · rw [failFast_bind, failFast_act]

/-- After a statement, a name stands for what the statement has bound it to, or for what it stood
    for. -/
theorem bindings_execute (done : (session.execute statement).answer = .ok entry) :
    (session.execute statement).state.bindings[name]? =
      (entry.bound? name).or session.bindings[name]? := by
  obtain ⟨action, resolved, rfl⟩ := execute_eq_ok_iff.1 done
  have state : (session.execute statement).state =
      (session.act statement.line action).state.bind statement.bind
        (session.act statement.line action).answer := by
    rw [execute, resolved]
  rw [state, ← bindings_act session statement.line action, Entry.bound?]
  rcases statement.bind with _ | bound
  · rfl
  rcases (session.act statement.line action).answer with _ | value | trap
  · rfl
  · simp only [bind, Std.ExtTreeMap.getElem?_insert, Std.LawfulEqCmp.compare_eq_iff_eq]
    split <;> rfl
  · rfl

/-! ## Runs with a report -/

/-- A run that has a report: from a session, with its statements, to the report and the session that
    is left. -/
inductive Reports : Session → List Statement → Report → Session → Prop
  | empty (session : Session) : Reports session [] {} session
  | stop {session : Session} {statement : Statement} {entry : Entry} (rest : List Statement)
      (done : (session.execute statement).answer = .ok entry)
      (stops : (session.failFast && entry.result.isTrap) = true) :
      Reports session (statement :: rest) (Report.cons entry { stoppedEarly := true })
        (session.execute statement).state
  | go {session final : Session} {statement : Statement} {entry : Entry} {rest : List Statement}
      {report : Report} (done : (session.execute statement).answer = .ok entry)
      (goes : (session.failFast && entry.result.isTrap) = false)
      (later : Reports (session.execute statement).state rest report final) :
      Reports session (statement :: rest) (Report.cons entry report) final

theorem reports_of_run (ran : (session.run statements).answer = .ok report) :
    Reports session statements report (session.run statements).state := by
  induction statements generalizing session report with
  | nil =>
    rw [← Except.ok.inj ran]
    exact .empty session
  | cons statement rest ih =>
    rcases done : (session.execute statement).answer with error | entry
    · rw [run_cons_of_error done] at ran
      cases ran
    rcases stops : (session.failFast && entry.result.isTrap) with _ | _
    · rw [answer_run_cons_of_go done stops] at ran
      obtain ⟨report', later, rfl⟩ := map_eq_ok_iff.1 ran
      rw [run_cons_of_go done stops]
      exact .go done stops (ih later)
    · rw [run_cons_of_stop done stops] at ran ⊢
      rw [← Except.ok.inj ran]
      exact .stop rest done stops

namespace Reports

theorem length_entries (reports : Reports session statements report final) :
    report.entries.length = report.executed := by
  induction reports with
  | empty | stop => rfl
  | go _ _ _ ih => exact congrArg (· + 1) ih

theorem executed_le (reports : Reports session statements report final) :
    report.executed ≤ statements.length := by
  induction reports with
  | empty => exact Nat.le_refl 0
  | stop => exact Nat.succ_le_succ (Nat.zero_le _)
  | go _ _ _ ih => exact Nat.succ_le_succ ih

/-- A run executes all statements unless it stops. -/
theorem executed_eq (reports : Reports session statements report final)
    (unstopped : report.stoppedEarly = false) : report.executed = statements.length := by
  induction reports with
  | empty => rfl
  | stop => cases unstopped
  | go _ _ _ ih => exact congrArg (· + 1) (ih unstopped)

/-- An entry is what the statement in its place has come to behind the statements before it. -/
theorem entry_at (reports : Reports session statements report final) {i : Nat}
    (executed : i < report.executed) :
    ∃ statement entry, statements[i]? = some statement ∧ report.entries[i]? = some entry ∧
      ((session.run (statements.take i)).state.execute statement).answer = .ok entry := by
  induction reports generalizing i with
  | empty => cases executed
  | @stop session statement entry rest done =>
    obtain rfl : i = 0 := Nat.lt_one_iff.1 executed
    exact ⟨statement, entry, rfl, rfl, done⟩
  | @go session final statement entry rest report done goes _ ih =>
    rcases i with _ | i
    · exact ⟨statement, entry, rfl, rfl, done⟩
    · obtain ⟨statement', entry', here, told, done'⟩ := ih (Nat.lt_of_succ_lt_succ executed)
      refine ⟨statement', entry', here, told, ?_⟩
      rw [List.take_succ_cons, run_cons_of_go done goes]
      exact done'

/-- An entry stands behind as many as were executed before it. -/
theorem place_of_split (reports : Reports session statements report final)
    {before after : List Entry} (split : report.entries = before ++ entry :: after) :
    before.length < report.executed ∧ report.entries[before.length]? = some entry := by
  have place : report.entries[before.length]? = some entry := by
    rw [split, List.getElem?_append_right (Nat.le_refl _), Nat.sub_self]
    rfl
  refine ⟨?_, place⟩
  rw [← reports.length_entries]
  exact (List.getElem?_eq_some_iff.1 place).1

theorem traps_eq (reports : Reports session statements report final) :
    report.traps = report.entries.countP (·.result.isTrap) := by
  induction reports with
  | empty => rfl
  | @stop session statement entry =>
    simp only [Report.cons, List.countP_cons, List.countP_nil]
    cases entry.result.isTrap <;> rfl
  | @go session final statement entry _ _ _ _ _ ih =>
    simp only [Report.cons, List.countP_cons, ih]
    cases entry.result.isTrap <;> rfl

/-- A run that stops has come to its first trap. -/
theorem last_of_stopped (reports : Reports session statements report final)
    (stopped : report.stoppedEarly = true) :
    session.failFast = true ∧ ∃ quiet entry, report.entries = quiet ++ [entry] ∧
      entry.result.isTrap = true ∧ ∀ earlier ∈ quiet, earlier.result.isTrap = false := by
  induction reports with
  | empty => cases stopped
  | @stop session statement entry rest done stops =>
    obtain ⟨fast, trapped⟩ := (Bool.and_eq_true _ _).mp stops
    exact ⟨fast, [], entry, rfl, trapped, List.forall_mem_nil _⟩
  | @go session final statement entry rest report done goes _ ih =>
    obtain ⟨fast, quiet, last, split, trapped, before⟩ := ih stopped
    rw [failFast_execute] at fast
    rw [fast, Bool.true_and] at goes
    exact ⟨fast, entry :: quiet, last, congrArg (entry :: ·) split, trapped,
      List.forall_mem_cons.2 ⟨goes, before⟩⟩

/-- A session that stops at traps meets none without stopping. -/
theorem stopped_of_trap (reports : Reports session statements report final)
    (fast : session.failFast = true) (trapped : 0 < report.traps) : report.stoppedEarly = true := by
  induction reports with
  | empty => cases trapped
  | stop => rfl
  | @go session final statement entry rest report done goes _ ih =>
    refine ih ((failFast_execute session statement).trans fast) ?_
    rw [fast, Bool.true_and] at goes
    change 0 < report.traps + entry.result.isTrap.toNat at trapped
    rw [goes] at trapped
    exact trapped

theorem stopped_iff (reports : Reports session statements report final) :
    report.stoppedEarly = true ↔ session.failFast = true ∧ 0 < report.traps := by
  refine ⟨fun stopped => ?_, fun ⟨fast, trapped⟩ => reports.stopped_of_trap fast trapped⟩
  obtain ⟨fast, quiet, entry, split, trapped, _⟩ := reports.last_of_stopped stopped
  have listed : entry ∈ report.entries := by
    rw [split]
    exact List.mem_append_right quiet (List.mem_singleton_self entry)
  rw [reports.traps_eq, List.countP_pos_iff]
  exact ⟨fast, entry, listed, trapped⟩

/-- After a run, a name stands for what the last entry that binds it has bound it to. -/
theorem bindings_eq (reports : Reports session statements report final) (name : String) :
    final.bindings[name]? =
      (report.entries.reverse.findSome? (Entry.bound? name)).or session.bindings[name]? := by
  induction reports with
  | empty => rfl
  | stop rest done =>
    rw [bindings_execute done]
    simp only [Report.cons, List.reverse_singleton, List.findSome?_singleton]
  | go done _ _ ih =>
    rw [ih, bindings_execute done, ← Option.or_assoc]
    simp only [Report.cons, List.reverse_cons, List.findSome?_append, List.findSome?_singleton]

/-- A name stands for the value of an entry if only traps would bind it behind the entry. -/
theorem bindings_of_last (reports : Reports session statements report final)
    {before after : List Entry} (split : report.entries = before ++ entry :: after)
    (binds : entry.bound? name = some value)
    (later : ∀ other ∈ after, other.bind = some name → other.result.isTrap = true) :
    final.bindings[name]? = some value := by
  have unbound : after.reverse.findSome? (Entry.bound? name) = none := by
    rw [List.findSome?_eq_none_iff]
    intro other listed
    exact Entry.bound?_eq_none (later other (List.mem_reverse.1 listed))
  rw [reports.bindings_eq, split, List.reverse_append, List.reverse_cons, List.append_assoc,
    List.findSome?_append, unbound, List.singleton_append, List.findSome?_cons, binds]
  rfl

/-- A name that only traps would bind keeps its value. -/
theorem bindings_of_unbound (reports : Reports session statements report final)
    (unbound : ∀ entry ∈ report.entries, entry.bind = some name → entry.result.isTrap = true) :
    final.bindings[name]? = session.bindings[name]? := by
  rw [reports.bindings_eq, List.findSome?_eq_none_iff.2, Option.none_or]
  intro entry listed
  exact Entry.bound?_eq_none (unbound entry (List.mem_reverse.1 listed))

end Reports

/-! ## Truthful reports -/

theorem tells_of_execute (done : (session.execute statement).answer = .ok entry)
    (produces : statement.bind.isSome = true → statement.command.producesValue = true) :
    entry.Tells session statement := by
  obtain ⟨line, named⟩ := line_bind_of_execute done
  refine ⟨done, ?_, ?_⟩
  · rw [Entry.text, line]
    exact ⟨_, rfl⟩
  intro name has_name
  have yields : statement.command.producesValue = true := produces (by rw [has_name]; rfl)
  refine ⟨yields, named.trans has_name, ?_⟩
  rw [Entry.text, line, named, has_name]
  rcases came : entry.result with _ | value | trap
  · exact absurd came (ne_done_of_execute done yields)
  · exact Or.inl ⟨value, rfl, by simp [String.append_assoc]⟩
  · refine Or.inr ⟨trap, rfl, ?_⟩
    have merged : toString ": trap: " = toString ": " ++ toString "trap: " := rfl
    simp only [merged, String.append_assoc]

/-- A run of a trace that has a report has told what each statement came to, in their order; it has
    executed all of them, unless it stopped at the first trap, as it was set to; and each name
    stands for the value that was last printed for it, or for what it stood for before the run. -/
theorem reports_tell_truth {text : String} (parsed : parse text = .ok statements)
    (ran : (session.run statements).answer = .ok report) : report.Truthful session statements := by
  have reports : Reports session statements report (session.run statements).state :=
    reports_of_run ran
  have tells {i : Nat} (executed : i < report.executed) :
      ∃ statement entry, statements[i]? = some statement ∧ report.entries[i]? = some entry ∧
        entry.Tells (session.run (statements.take i)).state statement := by
    obtain ⟨statement, entry, here, told, done⟩ := reports.entry_at executed
    exact ⟨statement, entry, here, told, tells_of_execute done
      (producesValue_of_parse parsed (List.mem_of_getElem? here))⟩
  refine ⟨⟨reports.length_entries, ?_⟩, ⟨reports.executed_le, ?_⟩, reports.traps_eq, ?_,
    reports.stopped_iff, fun stopped => (reports.last_of_stopped stopped).2, ?_,
    fun name => reports.bindings_of_unbound⟩
  · rw [Report.output, List.length_map]
    exact reports.length_entries
  · intro i executed
    obtain ⟨statement, entry, here, told, tells⟩ := tells executed
    exact ⟨statement, entry, here, told, by rw [Report.output, List.getElem?_map, told]; rfl, tells⟩
  · intro goes_on
    refine reports.executed_eq (Bool.eq_false_iff.2 fun stopped => ?_)
    obtain ⟨fast, trapped⟩ := reports.stopped_iff.1 stopped
    rcases goes_on with slow | none
    · rw [slow] at fast
      cases fast
    · omega
  · intro name before entry after split named quiet later
    obtain ⟨executed, place⟩ := reports.place_of_split split
    obtain ⟨statement, entry', _, told, tells⟩ := tells executed
    obtain rfl : entry' = entry := Option.some.inj (told.symm.trans place)
    obtain ⟨line, same⟩ := line_bind_of_execute tells.done
    obtain ⟨_, _, ⟨value, valued, printed⟩ | ⟨trap, trapped, _⟩⟩ :=
      tells.bound name (same.symm.trans named)
    · have binds : entry'.bound? name = some value := Entry.bound?_eq_some_iff.2 ⟨named, valued⟩
      exact ⟨value, valued, line ▸ printed, reports.bindings_of_last split binds later⟩
    · rw [trapped] at quiet
      cases quiet

/-- Binds a name, binds it anew to what is behind the segment, and traps where it would be bound
    once more. -/
def rebinding : List Statement :=
  [⟨1, some "h", .alloc (.int 8)⟩, ⟨2, some "x", .load (.data (.full .i32)) (.var "h")⟩,
    ⟨3, some "x", .add (.var "h") (.int 8)⟩, ⟨4, some "x", .load (.data (.full .i32)) (.var "x")⟩,
    ⟨5, none, .print (.var "x")⟩]

/-- What the run of these statements has told when it stops at the trap. -/
def rebindingOutput : List String :=
  ["line 1: h = handle(key 0x5, window [0, 8), offset 0)", "line 2: x = i32:0",
    "line 3: x = handle(key 0x5, window [0, 8), offset 8)",
    "line 4: trap: out-of-bounds handle in i32.load at func[0]+0x4: " ++
      "handle(key 0x5, window [0, 8), offset 8), access of 4 bytes"]

/-- A run that stops at the trap does not print the name, which stands for the value of its third
    entry. -/
theorem reports_tell_truth_of_rebinding :
    parse "h = alloc 8\nx = load.i32 h\nx = add h 8\nx = load.i32 x\nprint x" = .ok rebinding ∧
    ∃ report, (fresh.eager.run rebinding).answer = .ok report ∧
      report.Truthful fresh.eager rebinding ∧
      report.executed = 4 ∧ report.traps = 1 ∧ report.stoppedEarly = true ∧
      report.output = rebindingOutput ∧
      (fresh.eager.run rebinding).state.bindings["x"]? =
        report.entries[2]?.bind (Entry.bound? "x") := by
  have parsed :
      parse "h = alloc 8\nx = load.i32 h\nx = add h 8\nx = load.i32 x\nprint x" = .ok rebinding :=
    rfl
  have counts : (fresh.eager.run rebinding).answer.toOption.map (fun report =>
      (report.executed, report.traps, report.stoppedEarly, report.output,
        decide ((fresh.eager.run rebinding).state.bindings["x"]? =
          report.entries[2]?.bind (Entry.bound? "x")))) =
        some (4, 1, true, rebindingOutput, true) := by
    decide +kernel
  rcases ran : (fresh.eager.run rebinding).answer with error | report
  · rw [ran] at counts
    cases counts
  rw [ran] at counts
  simp only [Except.toOption, Option.map_some, Option.some.injEq, Prod.mk.injEq,
    decide_eq_true_eq] at counts
  exact ⟨parsed, report, rfl, reports_tell_truth parsed ran, counts⟩

end Session

end SegmentHeap
