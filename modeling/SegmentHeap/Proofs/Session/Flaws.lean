/-
  Statements that cannot be executed.

  What a command wants of its operands is a table, from left to right (`Command.demands`).  An
  operand has a flaw if it is a name without a value, if it has a value of another kind, or if it is
  a bare integer where none is wanted or one that does not fit (`Flaw`).  Each of the ways in which
  operands are looked up fails just on a flaw (`value_isOk_iff`, `handle_isOk_iff`,
  `int32_isOk_iff`, `int64_isOk_iff`, `stored_isOk_iff`), so a command can be resolved just if none
  of its operands has one (`resolve_isOk_iff`).

  A flawed statement is given up before anything is asked of the heap (`execute_of_flawed`).  By
  induction over the statements a run fails exactly at the first flawed one, and leaves what those
  before it have left (`flawed_statements_do_nothing`).
-/
import SegmentHeap.Proofs.Heap.Access
import SegmentHeap.Proofs.Session.Runs
import SegmentHeap.Proofs.Trace.Classes

namespace SegmentHeap

open Trace

/-! ## What commands want -/

/-- What a command wants of an operand. -/
inductive Wanted where
  | any
  | handle
  | int32
  | int64
  /-- The operand of a store, which is checked by the store unless it is a bare integer. -/
  | stored (op : StoreOp)

namespace Wanted

/-- The values that will do. -/
def Takes : Wanted → Value → Prop
  | any, _ | stored _, _ => True
  | handle, value => ∃ handle, value = .handle handle
  | int32, value => ∃ n, value = .i32 n
  | int64, value => ∃ n, value = .i64 n

/-- The bits that a bare integer has to fit in, where one is wanted. -/
def bits? : Wanted → Option Nat
  | any | int64 => some 64
  | int32 => some 32
  | handle => none
  | stored op =>
    match op.scalar? with
    | some .i32 => some 32
    | some .i64 => some 64
    | some .f32 | some .f64 | none => none

end Wanted

/-- What a command wants of its operands, from left to right. -/
def Trace.Command.demands : Command → List (Wanted × Operand)
  | .alloc size => [(.int32, size)]
  | .free handle => [(.handle, handle)]
  | .slice handle lo hi => [(.handle, handle), (.int32, lo), (.int32, hi)]
  | .add handle delta => [(.handle, handle), (.int32, delta)]
  | .sub handle delta => [(.handle, handle), (.int32, delta)]
  | .dup handle => [(.handle, handle)]
  | .load _ handle => [(.handle, handle)]
  | .store op handle value => [(.handle, handle), (.stored op, value)]
  | .encode handle => [(.handle, handle)]
  | .decode word => [(.int64, word)]
  | .grow extra => [(.int32, extra)]
  | .copy target source len => [(.handle, target), (.handle, source), (.int32, len)]
  | .reset => []
  | .print value => [(.any, value)]

/-- The integer fits so many bits, with a sign or without. -/
def FitsBits (n : Int) (bits : Nat) : Prop := -2 ^ (bits - 1) ≤ n ∧ n < 2 ^ bits

/-- What is wrong with an operand. -/
inductive Flaw (bindings : Bindings) : Wanted → Operand → Prop
  | unbound {wanted : Wanted} {name : String} (absent : bindings[name]? = none) :
      Flaw bindings wanted (.var name)
  | wrongBinding {wanted : Wanted} {name : String} {value : Value}
      (bound : bindings[name]? = some value) (wrong : ¬ wanted.Takes value) :
      Flaw bindings wanted (.var name)
  | wrongLiteral {wanted : Wanted} {value : Value} (wrong : ¬ wanted.Takes value) :
      Flaw bindings wanted (.value value)
  | wrongInteger {wanted : Wanted} (n : Int) (wrong : wanted.bits? = none) :
      Flaw bindings wanted (.int n)
  | unfit {wanted : Wanted} {n : Int} {bits : Nat} (sized : wanted.bits? = some bits)
      (wide : ¬ FitsBits n bits) : Flaw bindings wanted (.int n)

/-- An operand of the command has a flaw. -/
def Trace.Command.Flawed (command : Command) (bindings : Bindings) : Prop :=
  ∃ demand ∈ command.demands, Flaw bindings demand.1 demand.2

/-! ## One answer after another -/

theorem bind_eq_ok_iff {ε α β : Type} {x : Except ε α} {f : α → Except ε β} {b : β} :
    x >>= f = .ok b ↔ ∃ a, x = .ok a ∧ f a = .ok b := by
  rcases x with error | a <;> simp [bind, Except.bind]

theorem bind_isOk_iff {ε α β : Type} {x : Except ε α} {f : α → Except ε β} :
    (∃ b, x >>= f = .ok b) ↔ ∃ a, x = .ok a ∧ ∃ b, f a = .ok b := by
  simp only [bind_eq_ok_iff]
  exact ⟨fun ⟨b, a, first, last⟩ => ⟨a, first, b, last⟩,
    fun ⟨a, first, b, last⟩ => ⟨b, a, first, last⟩⟩

theorem map_isOk_iff {ε α β : Type} {x : Except ε α} {f : α → β} :
    (∃ b, x.map f = .ok b) ↔ ∃ a, x = .ok a := by
  simp only [map_eq_ok_iff]
  exact ⟨fun ⟨_, a, found, _⟩ => ⟨a, found⟩, fun ⟨a, found⟩ => ⟨f a, a, found, rfl⟩⟩

/-! ## Flaws by the form of the operand -/

section

variable {bindings : Bindings} {wanted : Wanted} {operand : Operand} {name : String} {value : Value}
  {n : Int}

theorem not_flaw_var_iff :
    ¬ Flaw bindings wanted (.var name) ↔
      ∃ value, bindings[name]? = some value ∧ wanted.Takes value := by
  constructor
  · intro sound
    rcases found : bindings[name]? with _ | value
    · exact absurd (.unbound found) sound
    · exact ⟨value, rfl, Classical.byContradiction fun wrong => sound (.wrongBinding found wrong)⟩
  · rintro ⟨value, found, takes⟩ flaw
    cases flaw with
    | unbound absent => rw [absent] at found; cases found
    | wrongBinding bound wrong =>
      rw [bound] at found
      injection found with same
      exact wrong (same ▸ takes)

theorem not_flaw_value_iff : ¬ Flaw bindings wanted (.value value) ↔ wanted.Takes value := by
  constructor
  · exact fun sound => Classical.byContradiction fun wrong => sound (.wrongLiteral wrong)
  · rintro takes (_ | _ | wrong)
    exact wrong takes

theorem not_flaw_int_iff :
    ¬ Flaw bindings wanted (.int n) ↔ ∃ bits, wanted.bits? = some bits ∧ FitsBits n bits := by
  constructor
  · intro sound
    rcases sized : wanted.bits? with _ | bits
    · exact absurd (.wrongInteger n sized) sound
    · exact ⟨bits, rfl, Classical.byContradiction fun wide => sound (.unfit sized wide)⟩
  · rintro ⟨bits, sized, fits⟩ flaw
    cases flaw with
    | wrongInteger _ wrong => rw [wrong] at sized; cases sized
    | unfit sized' wide =>
      rw [sized'] at sized
      injection sized with same
      exact wide (same ▸ fits)

/-! ## Looking up operands -/

theorem fitsBits_32_iff : FitsBits n 32 ↔ ∃ v, toInt32? n = some v := by
  simp only [toInt32?_eq_some_iff, FitsBits]
  exact ⟨fun fits => ⟨_, fits, rfl⟩, fun ⟨_, fits, _⟩ => fits⟩

theorem fitsBits_64_iff : FitsBits n 64 ↔ ∃ v, toInt64? n = some v := by
  simp only [toInt64?_eq_some_iff, FitsBits]
  exact ⟨fun fits => ⟨_, fits, rfl⟩, fun ⟨_, fits, _⟩ => fits⟩

namespace Bindings

/-- A bare integer has a value of some type if it fits 64 bits. -/
theorem value_int_iff : (∃ v, bindings.value (.int n) = .ok v) ↔ FitsBits n 64 := by
  rw [fitsBits_64_iff, value]
  rcases small : toInt32? n with _ | v
  · rcases toInt64? n with _ | v
    · simp
    · simp
  · -- what fits 32 bits fits 64 of them
    obtain ⟨v', wide⟩ : ∃ v', toInt64? n = some v' := by
      have fits := fitsBits_32_iff.2 ⟨v, small⟩
      rw [← fitsBits_64_iff]
      unfold FitsBits at *
      omega
    simp [wide]

theorem value_isOk_iff :
    (∃ v, bindings.value operand = .ok v) ↔ ¬ Flaw bindings .any operand := by
  cases operand with
  | var name =>
    rw [not_flaw_var_iff, value]
    rcases bindings[name]? with _ | v <;> simp [Wanted.Takes]
  | value v =>
    rw [not_flaw_value_iff, value]
    simp [Wanted.Takes]
  | int n => simp only [value_int_iff, not_flaw_int_iff, Wanted.bits?, Option.some.injEq,
      exists_eq_left']

/-- A value that is looked up and then taken apart will do just if its kind is the wanted one. -/
theorem value_bind_isOk_iff {α : Type} {pick : Value → Except ResolveError α}
    (picks : ∀ v, (∃ a, pick v = .ok a) ↔ wanted.Takes v) (typed : ∀ n, operand ≠ .int n) :
    (∃ a, bindings.value operand >>= pick = .ok a) ↔ ¬ Flaw bindings wanted operand := by
  cases operand with
  | var name =>
    rw [not_flaw_var_iff, value]
    rcases bindings[name]? with _ | v
    · simp [bind, Except.bind]
    · simp [bind, Except.bind, picks]
  | value v =>
    rw [not_flaw_value_iff]
    exact picks v
  | int n => exact absurd rfl (typed n)

theorem handle_isOk_iff :
    (∃ handle, bindings.handle operand = .ok handle) ↔ ¬ Flaw bindings .handle operand := by
  cases operand with
  | var | value =>
    refine value_bind_isOk_iff (fun v => ?_) (fun n same => by cases same)
    cases v <;> simp [pure, Except.pure, throw, throwThe, MonadExceptOf.throw, Wanted.Takes]
  | int n =>
    -- a bare integer has a number type, if any
    rw [not_flaw_int_iff, handle, value]
    rcases toInt32? n with _ | v <;> rcases toInt64? n with _ | v <;>
      simp [bind, Except.bind, throw, throwThe, MonadExceptOf.throw, Wanted.bits?]

theorem int32_int_iff : (∃ v, bindings.int32 (.int n) = .ok v) ↔ FitsBits n 32 := by
  rw [fitsBits_32_iff, int32]
  rcases toInt32? n with _ | v <;> simp

theorem int64_int_iff : (∃ v, bindings.int64 (.int n) = .ok v) ↔ FitsBits n 64 := by
  rw [fitsBits_64_iff, int64]
  rcases toInt64? n with _ | v <;> simp

theorem int32_isOk_iff :
    (∃ v, bindings.int32 operand = .ok v) ↔ ¬ Flaw bindings .int32 operand := by
  cases operand with
  | var | value =>
    refine value_bind_isOk_iff (fun v => ?_) (fun n same => by cases same)
    cases v <;> simp [pure, Except.pure, throw, throwThe, MonadExceptOf.throw, Wanted.Takes]
  | int n =>
    simp only [int32_int_iff, not_flaw_int_iff, Wanted.bits?, Option.some.injEq, exists_eq_left']

theorem int64_isOk_iff :
    (∃ v, bindings.int64 operand = .ok v) ↔ ¬ Flaw bindings .int64 operand := by
  cases operand with
  | var | value =>
    refine value_bind_isOk_iff (fun v => ?_) (fun n same => by cases same)
    cases v <;> simp [pure, Except.pure, throw, throwThe, MonadExceptOf.throw, Wanted.Takes]
  | int n =>
    simp only [int64_int_iff, not_flaw_int_iff, Wanted.bits?, Option.some.injEq, exists_eq_left']

/-- A bare integer has the type of the store, if that is one of integers. -/
theorem stored_int_iff {op : StoreOp} :
    (∃ v, bindings.stored op (.int n) = .ok v) ↔
      ∃ bits, (Wanted.stored op).bits? = some bits ∧ FitsBits n bits := by
  rcases op with op | _
  · show (∃ v, stored bindings (.data op) (.int n) = .ok v) ↔ _
    simp only [stored, Wanted.bits?, StoreOp.scalar?]
    rcases op.operand with _ | _ | _ | _
    · simp [map_isOk_iff, int32_int_iff]
    · simp [map_isOk_iff, int64_int_iff]
    · simp
    · simp
  · simp [stored, Wanted.bits?, StoreOp.scalar?]

theorem stored_isOk_iff {op : StoreOp} :
    (∃ v, bindings.stored op operand = .ok v) ↔ ¬ Flaw bindings (.stored op) operand := by
  cases operand with
  | var name =>
    show (∃ v, bindings.value (.var name) = .ok v) ↔ _
    rw [value_isOk_iff, not_flaw_var_iff, not_flaw_var_iff]
    rfl
  | value v =>
    show (∃ v', bindings.value (.value v) = .ok v') ↔ _
    rw [value_isOk_iff, not_flaw_value_iff, not_flaw_value_iff]
    rfl
  | int n => rw [stored_int_iff, not_flaw_int_iff]

/-! ## Resolving commands -/

/-- A command can be resolved just if none of its operands has a flaw. -/
theorem resolve_isOk_iff {command : Command} :
    (∃ action, bindings.resolve command = .ok action) ↔ ¬ command.Flawed bindings := by
  unfold Command.Flawed
  cases command <;>
    simp [resolve, Command.demands, size, bind_isOk_iff, map_isOk_iff, pure, Except.pure,
      ← value_isOk_iff, ← handle_isOk_iff, ← int32_isOk_iff, ← int64_isOk_iff, ← stored_isOk_iff]

end Bindings

end

/-! ## Statements with a flaw -/

namespace Session

variable {session : Session} {statement : Statement} {statements : List Statement}
  {error : RunError} {entry : Entry} {report : Report}

/-- A statement with a flaw is given up with its line, before anything has happened. -/
theorem execute_of_flawed (flawed : statement.command.Flawed session.bindings) :
    ∃ cause, session.execute statement = ⟨.error ⟨statement.line, cause⟩, session, []⟩ := by
  rcases resolved : session.bindings.resolve statement.command with cause | action
  · exact ⟨cause, by rw [execute, resolved]⟩
  · exact absurd flawed (Bindings.resolve_isOk_iff.1 ⟨action, resolved⟩)

/-- Any other statement is executed. -/
theorem execute_of_sound (sound : ¬ statement.command.Flawed session.bindings) :
    ∃ entry, (session.execute statement).answer = .ok entry := by
  obtain ⟨action, resolved⟩ := Bindings.resolve_isOk_iff.2 sound
  exact ⟨_, by rw [execute, resolved]⟩

/-- A run has executed all its statements, and each of them was without a flaw when its turn
    came. -/
structure Completes (session : Session) (statements : List Statement) : Prop where
  answer : ∃ report, (session.run statements).answer = .ok report ∧
    report.stoppedEarly = false ∧ report.executed = statements.length
  sound : ∀ before statement after, statements = before ++ statement :: after →
    ¬ statement.command.Flawed (session.run before).state.bindings

theorem Completes.nil : session.Completes [] := by
  refine ⟨⟨{}, rfl, rfl, rfl⟩, ?_⟩
  intro before statement after split
  cases before <;> cases split

/-- What completes after a statement that goes on completes with it in front. -/
theorem Completes.cons (completes : (session.execute statement).state.Completes statements)
    (done : (session.execute statement).answer = .ok entry)
    (go : (session.failFast && entry.result.isTrap) = false) :
    session.Completes (statement :: statements) := by
  obtain ⟨⟨report, answer, going, executed⟩, sound⟩ := completes
  refine ⟨⟨Report.cons entry report, ?_, going, congrArg (· + 1) executed⟩, ?_⟩
  · rw [answer_run_cons_of_go done go, answer]
    rfl
  · intro before last after split
    rcases before with _ | ⟨first, before⟩
    · injection split with same _
      subst same
      intro flawed
      change statement.command.Flawed session.bindings at flawed
      obtain ⟨cause, failed⟩ := execute_of_flawed flawed
      rw [failed] at done
      cases done
    · injection split with same split
      subst same
      rw [run_cons_of_go done go]
      exact sound before last after split

/-- A run that fails has completed some statements, and the next one has a flaw. -/
theorem cases_of_failed (failed : (session.run statements).answer = .error error) :
    ∃ before statement after, statements = before ++ statement :: after ∧
      session.Completes before ∧
      statement.command.Flawed (session.run before).state.bindings ∧
      error.line = statement.line ∧
      (session.run statements).state = (session.run before).state ∧
      (session.run statements).events = (session.run before).events := by
  induction statements generalizing session with
  | nil => cases failed
  | cons statement rest ih =>
    by_cases flawed : statement.command.Flawed session.bindings
    · obtain ⟨cause, given_up⟩ := execute_of_flawed flawed
      have ran : session.run (statement :: rest) =
          ⟨.error ⟨statement.line, cause⟩, session, []⟩ := by
        rw [run_cons_of_error (by rw [given_up]), given_up]
      rw [ran] at failed ⊢
      injection failed with same
      exact ⟨[], statement, rest, rfl, .nil, flawed, same ▸ rfl, rfl, rfl⟩
    obtain ⟨entry, done⟩ := execute_of_sound flawed
    rcases stop : (session.failFast && entry.result.isTrap) with _ | _
    · -- the statement goes on, and the failure is one of the rest
      rw [answer_run_cons_of_go done stop, map_eq_error_iff] at failed
      obtain ⟨before, last, after, rfl, completes, bad, line, state, events⟩ := ih failed
      refine ⟨statement :: before, last, after, rfl, completes.cons done stop, ?_, line, ?_, ?_⟩
      · rw [run_cons_of_go done stop]
        exact bad
      · rw [run_cons_of_go done stop, run_cons_of_go done stop]
        exact state
      · rw [run_cons_of_go done stop, run_cons_of_go done stop]
        exact congrArg ((session.execute statement).events ++ ·) events
    · rw [run_cons_of_stop done stop] at failed
      cases failed

/-- A run does not get past a statement with a flaw. -/
theorem failed_of_flawed {before after : List Statement} (completes : session.Completes before)
    (flawed : statement.command.Flawed (session.run before).state.bindings) :
    ∃ error, (session.run (before ++ statement :: after)).answer = .error error := by
  obtain ⟨report, answer, going, _⟩ := completes.answer
  obtain ⟨cause, given_up⟩ := execute_of_flawed flawed
  refine ⟨⟨statement.line, cause⟩, ?_⟩
  rw [run_append_of_completed answer going, run_cons_of_error (by rw [given_up])]
  rfl

/-! ## Failed runs -/

/-- A run fails just at the first statement with a flaw: a name without a value, an operand of the
    wrong kind or an integer that does not fit, be it in the last operand.  The outermost message of
    the failure is the line of that statement.  The session, with its heap and its names, is what
    the statements before it have left, and nothing but their events has been reported. -/
theorem flawed_statements_do_nothing (session : Session) (statements : List Statement) :
    (∀ error, (session.run statements).answer = .error error →
      ∃ before statement after, statements = before ++ statement :: after ∧
        session.Completes before ∧
        statement.command.Flawed (session.run before).state.bindings ∧
        error.chain.head? = some s!"line {statement.line}" ∧
        (session.run statements).state = (session.run before).state ∧
        (session.run statements).events = (session.run before).events) ∧
    (∀ before statement after, statements = before ++ statement :: after →
      session.Completes before →
      statement.command.Flawed (session.run before).state.bindings →
      ∃ error, (session.run statements).answer = .error error) := by
  refine ⟨?_, ?_⟩
  · intro error failed
    obtain ⟨before, statement, after, split, completes, flawed, line, state, events⟩ :=
      cases_of_failed failed
    exact ⟨before, statement, after, split, completes, flawed, by rw [← line]; rfl, state, events⟩
  · rintro before statement after rfl completes flawed
    exact failed_of_flawed completes flawed

/-- The bound of the slice has no value; the segment is there, the statement behind has not freed
    it, and the store before has gone through. -/
theorem flawed_statements_do_nothing_of_unbound :
    let statements : List Statement :=
      [⟨1, some "h", .alloc (.int 8)⟩, ⟨2, none, .store .handle (.var "h") (.var "h")⟩,
        ⟨4, some "s", .slice (.var "h") (.int 0) (.var "n")⟩, ⟨5, none, .free (.var "h")⟩]
    (∃ error, (fresh.run statements).answer = .error error ∧
      error.chain = ["line 4", "`n` is not bound"] ∧
      ∃ before statement after, statements = before ++ statement :: after ∧
        fresh.Completes before ∧
        statement.command.Flawed (fresh.run before).state.bindings ∧
        error.chain.head? = some s!"line {statement.line}" ∧
        (fresh.run statements).state = (fresh.run before).state ∧
        (fresh.run statements).events = (fresh.run before).events) ∧
    (fresh.run statements).state.heap.table.entries.map Segment.taggedSlots = [1] := by
  intro statements
  have failed : (fresh.run statements).answer = .error ⟨4, .unbound "n"⟩ := by decide +kernel
  exact ⟨⟨_, failed, rfl, (flawed_statements_do_nothing fresh statements).1 _ failed⟩,
    by decide +kernel⟩

end Session

end SegmentHeap
