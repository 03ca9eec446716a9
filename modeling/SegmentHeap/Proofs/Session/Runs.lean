/-
  Runs of a session, one after another and up to a trap.

  A run ends in one of three ways: it has executed all statements, it has stopped at a trap, or it
  met a statement that cannot be executed.  Only in the first case is there anything to go on with,
  and then the statements that follow are run as if they had been given to the session by themselves
  (`run_append`).  So a trace may be cut anywhere into parts.

  A session that stops at the first trap is an `eager` one, one that goes on a `patient` one.  No
  single statement tells them apart (`execute_eager`, `execute_patient`).  An eager run is thus the
  patient run of all its statements, or of those up to the first one that traps (`eager_cases`).

  `runs_compose` puts both together.
-/
import SegmentHeap.Replay

namespace SegmentHeap

open Trace

/-! ## Answers that are carried on -/

theorem map_eq_ok_iff {ε α β : Type} {x : Except ε α} {f : α → β} {b : β} :
    x.map f = .ok b ↔ ∃ a, x = .ok a ∧ f a = b := by
  rcases x with error | a <;> simp [Except.map]

theorem map_eq_error_iff {ε α β : Type} {x : Except ε α} {f : α → β} {error : ε} :
    x.map f = .error error ↔ x = .error error := by
  rcases x with error' | a <;> simp [Except.map]

/-! ## Reports in parts -/

namespace Report

variable {entry : Entry} {earlier later report : Report}

/-- The report of one run with that of the run after it. -/
def append (earlier later : Report) : Report where
  entries := earlier.entries ++ later.entries
  executed := earlier.executed + later.executed
  traps := earlier.traps + later.traps
  stoppedEarly := later.stoppedEarly

/-- The report of a run that stopped after its last statement. -/
def halted (report : Report) : Report := { report with stoppedEarly := true }

theorem empty_append (report : Report) : append {} report = report := by
  simp only [append, List.nil_append, Nat.zero_add]

theorem cons_append (entry : Entry) (earlier later : Report) :
    (cons entry earlier).append later = cons entry (earlier.append later) := by
  simp only [append, cons, List.cons_append, mk.injEq, true_and, and_true]
  omega

end Report

namespace Session

/-- What a run comes to. -/
abbrev Ran := Step Session (Except RunError Report)

/-- Goes on with more statements, if the run before has executed all of its own. -/
def resume (statements : List Statement) (ran : Ran) : Ran :=
  match ran.answer with
  | .error _ => ran
  | .ok report =>
    if report.stoppedEarly then ran
    else ((ran.state.run statements).mapAnswer (·.map report.append)).after ran.events

variable {session : Session} {statement : Statement} {statements rest first second : List Statement}
  {error : RunError} {entry : Entry} {report : Report}

/-! ## The first statement of a run -/

theorem run_cons_of_error (failed : (session.execute statement).answer = .error error) :
    session.run (statement :: rest) =
      ⟨.error error, (session.execute statement).state, (session.execute statement).events⟩ := by
  simp only [run, failed]

theorem run_cons_of_stop (done : (session.execute statement).answer = .ok entry)
    (stop : (session.failFast && entry.result.isTrap) = true) :
    session.run (statement :: rest) =
      ⟨.ok (Report.cons entry { stoppedEarly := true }), (session.execute statement).state,
        (session.execute statement).events⟩ := by
  simp only [run, done, stop, if_true]

theorem run_cons_of_go (done : (session.execute statement).answer = .ok entry)
    (go : (session.failFast && entry.result.isTrap) = false) :
    session.run (statement :: rest) =
      (((session.execute statement).state.run rest).mapAnswer (·.map (Report.cons entry))).after
        (session.execute statement).events := by
  simp only [run, done, go, Bool.false_eq_true, if_false]

theorem answer_run_cons_of_go (done : (session.execute statement).answer = .ok entry)
    (go : (session.failFast && entry.result.isTrap) = false) :
    (session.run (statement :: rest)).answer =
      ((session.execute statement).state.run rest).answer.map (Report.cons entry) := by
  rw [run_cons_of_go done go]
  rfl

/-! ## One run after another -/

/-- To go on with a run and to put an entry in front of it can be done in either order. -/
theorem resume_cons (statements : List Statement) (ran : Ran) (entry : Entry)
    (events : List Event) :
    resume statements ((ran.mapAnswer (·.map (Report.cons entry))).after events) =
      ((resume statements ran).mapAnswer (·.map (Report.cons entry))).after events := by
  obtain ⟨answer, state, own⟩ := ran
  rcases answer with error | report
  · rfl
  rcases stopped : report.stoppedEarly with _ | _
  · have kept : (Report.cons entry report).stoppedEarly = false := stopped
    simp only [resume, Step.mapAnswer, Step.after, Except.map, stopped, kept, Bool.false_eq_true,
      if_false, List.append_assoc]
    rcases (state.run statements).answer with error | later
    · rfl
    · simp only [Report.cons_append]
  · have kept : (Report.cons entry report).stoppedEarly = true := stopped
    simp only [resume, Step.mapAnswer, Step.after, Except.map, stopped, kept, if_true]

/-- A run of two lists is the run of the second, resumed where the run of the first has ended. -/
theorem run_append (session : Session) (first second : List Statement) :
    session.run (first ++ second) = resume second (session.run first) := by
  induction first generalizing session with
  | nil =>
    show session.run second =
      ((session.run second).mapAnswer (·.map (Report.append {}))).after []
    rcases session.run second with ⟨error | report, state, events⟩
    · rfl
    · simp only [Step.mapAnswer, Step.after, Except.map, Report.empty_append, List.nil_append]
  | cons statement rest ih =>
    rw [List.cons_append]
    rcases done : (session.execute statement).answer with error | entry
    · rw [run_cons_of_error done, run_cons_of_error done]
      rfl
    rcases stop : (session.failFast && entry.result.isTrap) with _ | _
    · rw [run_cons_of_go done stop, run_cons_of_go done stop, ih, resume_cons]
    · rw [run_cons_of_stop done stop, run_cons_of_stop done stop]
      rfl

/-- Statements after a run that has executed its own. -/
theorem run_append_of_completed (ran : (session.run first).answer = .ok report)
    (completed : report.stoppedEarly = false) :
    session.run (first ++ second) =
      (((session.run first).state.run second).mapAnswer (·.map report.append)).after
        (session.run first).events := by
  rw [run_append, resume, ran]
  simp only [completed, Bool.false_eq_true, if_false]

/-- Statements after a run that has stopped or failed. -/
theorem run_append_of_not_completed
    (ended : ∀ report, (session.run first).answer = .ok report → report.stoppedEarly = true) :
    session.run (first ++ second) = session.run first := by
  rw [run_append, resume]
  rcases ran : (session.run first).answer with error | report
  · rfl
  · simp only [ended report ran, if_true]

/-! ## Eager and patient sessions -/

/-- The session that stops at the first trap. -/
def eager (session : Session) : Session := { session with failFast := true }

/-- The session that goes on after a trap. -/
def patient (session : Session) : Session := { session with failFast := false }

theorem execute_withFailFast (session : Session) (statement : Statement) (failFast : Bool) :
    execute { session with failFast } statement =
      (session.execute statement).mapState fun after => { after with failFast } := by
  have bound (session : Session) (name? : Option String) (result : Result) :
      bind { session with failFast } name? result =
        { session.bind name? result with failFast } := by
    unfold bind
    split <;> rfl
  have acted (action : Action) :
      act { session with failFast } statement.line action =
        (session.act statement.line action).mapState fun after => { after with failFast } := by
    cases action <;> rfl
  unfold execute
  rcases session.bindings.resolve statement.command with cause | action
  · rfl
  · simp only [acted, Step.mapState, bound]

theorem execute_eager (session : Session) (statement : Statement) :
    session.eager.execute statement = (session.execute statement).mapState eager :=
  execute_withFailFast session statement true

theorem execute_patient (session : Session) (statement : Statement) :
    session.patient.execute statement = (session.execute statement).mapState patient :=
  execute_withFailFast session statement false

/-- The given statements execute without a trap, and the one after them traps. -/
structure TrapsFirstAt (session : Session) (before : List Statement) (statement : Statement) :
    Prop where
  quiet : ∃ report, (session.run before).answer = .ok report ∧ report.traps = 0
  trapped : ∃ entry, ((session.run before).state.execute statement).answer = .ok entry ∧
    entry.result.isTrap = true

/-! ## Eager and patient runs, statement by statement -/

theorem patient_run_cons (done : (session.execute statement).answer = .ok entry)
    (rest : List Statement) :
    session.patient.run (statement :: rest) =
      (((session.execute statement).state.patient.run rest).mapAnswer
        (·.map (Report.cons entry))).after (session.execute statement).events := by
  have same : (session.patient.execute statement).answer = .ok entry := by
    rw [execute_patient]
    exact done
  rw [run_cons_of_go same rfl, execute_patient]
  rfl

theorem eager_run_cons (done : (session.execute statement).answer = .ok entry)
    (quiet : entry.result.isTrap = false) (rest : List Statement) :
    session.eager.run (statement :: rest) =
      (((session.execute statement).state.eager.run rest).mapAnswer
        (·.map (Report.cons entry))).after (session.execute statement).events := by
  have same : (session.eager.execute statement).answer = .ok entry := by
    rw [execute_eager]
    exact done
  rw [run_cons_of_go same (by rw [quiet, Bool.and_false]), execute_eager]
  rfl

theorem eager_run_cons_of_trap (done : (session.execute statement).answer = .ok entry)
    (trapped : entry.result.isTrap = true) (rest : List Statement) :
    session.eager.run (statement :: rest) =
      ⟨.ok (Report.cons entry { stoppedEarly := true }), (session.execute statement).state.eager,
        (session.execute statement).events⟩ := by
  have same : (session.eager.execute statement).answer = .ok entry := by
    rw [execute_eager]
    exact done
  rw [run_cons_of_stop same (by rw [trapped]; rfl), execute_eager]
  rfl

theorem eager_run_cons_of_error (failed : (session.execute statement).answer = .error error)
    (rest : List Statement) :
    session.eager.run (statement :: rest) =
      (session.patient.run (statement :: rest)).mapState eager := by
  have eagerly : (session.eager.execute statement).answer = .error error := by
    rw [execute_eager]
    exact failed
  have patiently : (session.patient.execute statement).answer = .error error := by
    rw [execute_patient]
    exact failed
  rw [run_cons_of_error eagerly, run_cons_of_error patiently, execute_eager, execute_patient]
  rfl

/-- A patient run does not stop early. -/
theorem unstopped_of_patient (ran : (session.patient.run statements).answer = .ok report) :
    report.stoppedEarly = false := by
  induction statements generalizing session report with
  | nil =>
    injection ran with same
    rw [← same]
  | cons statement rest ih =>
    rcases done : (session.execute statement).answer with error | entry
    · have failed : (session.patient.execute statement).answer = .error error := by
        rw [execute_patient]
        exact done
      rw [run_cons_of_error failed] at ran
      cases ran
    · rw [patient_run_cons done] at ran
      obtain ⟨report', later, rfl⟩ := map_eq_ok_iff.1 ran
      have unstopped : report'.stoppedEarly = false := ih later
      exact unstopped

theorem TrapsFirstAt.cons {before : List Statement} {last : Statement}
    (traps : (session.execute statement).state.patient.TrapsFirstAt before last)
    (done : (session.execute statement).answer = .ok entry)
    (quiet : entry.result.isTrap = false) :
    session.patient.TrapsFirstAt (statement :: before) last := by
  obtain ⟨⟨report, ran, none⟩, trapped⟩ := traps
  refine ⟨⟨Report.cons entry report, ?_, ?_⟩, ?_⟩
  · rw [patient_run_cons done]
    show Except.map _ ((session.execute statement).state.patient.run before).answer = _
    rw [ran]
    rfl
  · show report.traps + entry.result.isTrap.toNat = 0
    rw [none, quiet]
    rfl
  · rw [patient_run_cons done]
    exact trapped

theorem answer_run_singleton (done : (session.execute statement).answer = .ok entry) :
    ∃ report, (session.run [statement]).answer = .ok report := by
  rcases stop : (session.failFast && entry.result.isTrap) with _ | _
  · exact ⟨Report.cons entry {}, by rw [run_cons_of_go done stop]; rfl⟩
  · exact ⟨_, by rw [run_cons_of_stop done stop]⟩

/-- Up to its first trap, a patient run has a report. -/
theorem TrapsFirstAt.answer {before : List Statement} {last : Statement}
    (traps : session.patient.TrapsFirstAt before last) :
    ∃ report, (session.patient.run (before ++ [last])).answer = .ok report := by
  obtain ⟨⟨quiet, ran, _⟩, entry, done, _⟩ := traps
  obtain ⟨final, ran'⟩ := answer_run_singleton done
  rw [run_append_of_completed ran (unstopped_of_patient ran)]
  refine ⟨quiet.append final, ?_⟩
  show Except.map _ ((session.patient.run before).state.run [last]).answer = _
  rw [ran']
  rfl

/-- An eager run stops behind the first statement that traps, with what a patient run has come to by
    then; or no statement traps, and it is a patient run. -/
theorem eager_cases (session : Session) (statements : List Statement) :
    (∃ before last after, statements = before ++ last :: after ∧
      session.patient.TrapsFirstAt before last ∧
      session.eager.run statements =
        ((session.patient.run (before ++ [last])).mapAnswer (·.map Report.halted)).mapState eager) ∨
    session.eager.run statements = (session.patient.run statements).mapState eager := by
  induction statements generalizing session with
  | nil => exact Or.inr rfl
  | cons statement rest ih =>
    rcases done : (session.execute statement).answer with error | entry
    · exact Or.inr (eager_run_cons_of_error done rest)
    rcases trapped : entry.result.isTrap with _ | _
    · rw [eager_run_cons done trapped]
      rcases ih (session.execute statement).state with
        ⟨before, last, after, rfl, traps, stops⟩ | same
      · -- the entry of this statement comes in front of the report, stopped or not
        refine Or.inl ⟨statement :: before, last, after, rfl, traps.cons done trapped, ?_⟩
        rw [List.cons_append, patient_run_cons done, stops]
        rcases ran : ((session.execute statement).state.patient.run (before ++ [last])).answer
        all_goals
          simp only [Step.mapAnswer, Step.mapState, Step.after, ran]
          rfl
      · rw [patient_run_cons done, same]
        exact Or.inr rfl
    · refine Or.inl ⟨[], statement, rest, rfl, ⟨⟨{}, rfl, rfl⟩, entry, ?_, trapped⟩, ?_⟩
      · show (session.patient.execute statement).answer = _
        rw [execute_patient]
        exact done
      · rw [eager_run_cons_of_trap done trapped, List.nil_append, patient_run_cons done]
        simp only [run, Step.mapAnswer, Step.mapState, Step.after, List.append_nil]
        rfl

/-! ## Runs compose -/

/-- A run that has executed its statements can be continued, with the events and the report that the
    statements after it have by themselves; after any other run, nothing that follows matters.  The
    same session set to stop at the first trap stops behind the first statement that traps, with the
    state and the report that it would have come to there; if it does not stop, nothing differs. -/
theorem runs_compose (session : Session) (first second : List Statement) :
    (∀ report, (session.run first).answer = .ok report → report.stoppedEarly = false →
      session.run (first ++ second) =
        (((session.run first).state.run second).mapAnswer (·.map report.append)).after
          (session.run first).events) ∧
    ((∀ report, (session.run first).answer = .ok report → report.stoppedEarly = true) →
      session.run (first ++ second) = session.run first) ∧
    (∀ report, (session.eager.run first).answer = .ok report → report.stoppedEarly = true →
      ∃ before last after, first = before ++ last :: after ∧
        session.patient.TrapsFirstAt before last ∧
        session.eager.run first =
          ((session.patient.run (before ++ [last])).mapAnswer (·.map Report.halted)).mapState
            eager) ∧
    ((∀ report, (session.eager.run first).answer = .ok report → report.stoppedEarly = false) →
      session.eager.run first = (session.patient.run first).mapState eager) := by
  refine ⟨fun report => run_append_of_completed, run_append_of_not_completed, ?_, ?_⟩
  · intro report ran stopped
    rcases eager_cases session first with stops | same
    · exact stops
    · rw [same] at ran
      rw [unstopped_of_patient ran] at stopped
      cases stopped
  · intro unstopped
    rcases eager_cases session first with ⟨before, last, after, _, traps, stops⟩ | same
    · -- such a run has a report, and that one is marked as stopped
      obtain ⟨report, ran⟩ := traps.answer
      have answer : (session.eager.run first).answer = .ok report.halted := by
        rw [stops]
        show Except.map _ (session.patient.run (before ++ [last])).answer = _
        rw [ran]
        rfl
      cases unstopped _ answer
    · exact same

/-- A session on an empty table, which gives out one key. -/
def fresh : Session :=
  { heap := { config := {}, table := ⟨11, ∅, 0, ∅, 11, 1 <<< 40, .fixed [5]⟩ } }

/-- Binds a handle, and then traps, since there are no empty segments. -/
def trapping : List Statement :=
  [⟨1, some "h", .alloc (.int 8)⟩, ⟨2, none, .alloc (.int 0)⟩]

/-- Prints the handle. -/
def printing : List Statement := [⟨3, none, .print (.var "h")⟩]

/-- A run is cut behind a trap, and the statement behind the cut still finds what was bound before
    it.  A run that stops at the trap does not come that far. -/
theorem runs_compose_of_trapping :
    (∃ report, (fresh.run trapping).answer = .ok report ∧ report.traps = 1 ∧
      fresh.run (trapping ++ printing) =
        (((fresh.run trapping).state.run printing).mapAnswer (·.map report.append)).after
          (fresh.run trapping).events) ∧
    ((fresh.run (trapping ++ printing)).answer.toOption.map (·.entries.length)) = some 3 ∧
    ∃ before last after, trapping ++ printing = before ++ last :: after ∧
      fresh.patient.TrapsFirstAt before last ∧
      fresh.eager.run (trapping ++ printing) =
        ((fresh.patient.run (before ++ [last])).mapAnswer
          (·.map Report.halted)).mapState eager := by
  have counts : (fresh.run trapping).answer.toOption.map (fun r => (r.traps, r.stoppedEarly)) =
      some (1, false) := by
    decide +kernel
  have stops : (fresh.eager.run (trapping ++ printing)).answer.toOption.map (·.stoppedEarly) =
      some true := by
    decide +kernel
  refine ⟨?_, by decide +kernel, ?_⟩
  · rcases ran : (fresh.run trapping).answer with error | report
    · rw [ran] at counts
      cases counts
    rw [ran] at counts
    obtain ⟨trap, completed⟩ := Prod.mk.inj (Option.some.inj counts)
    exact ⟨report, rfl, trap, (runs_compose fresh trapping printing).1 report ran completed⟩
  · rcases ran : (fresh.eager.run (trapping ++ printing)).answer with error | report
    · rw [ran] at stops
      cases stops
    rw [ran] at stops
    exact (runs_compose fresh (trapping ++ printing) []).2.2.1 report ran (Option.some.inj stops)

end Session

end SegmentHeap
