/-
  Replaying traces on a heap.

  A session holds a heap and the values bound to names.  A statement is first resolved: its operands
  are looked up and brought to the types that its command wants.  If that fails the run ends with an
  error and the statement has had no effect.  A resolved statement is performed.  A trap is a result
  like any other: it is reported on its line, binds nothing, and the run goes on, unless the session
  stops at the first trap.
-/
import Std.Data.ExtTreeMap
import SegmentHeap.Heap
import SegmentHeap.Trace.Statement

namespace SegmentHeap

open Trace

/-! ## Resolving statements -/

/-- Why a statement cannot be executed. -/
inductive ResolveError where
  | unbound (name : String)
  /-- An integer that fits no type at all. -/
  | tooWide (n : Int)
  | notInt32 (n : Int)
  | notInt64 (n : Int)
  | expectedHandle (found : Value)
  | expectedInt32 (found : Value)
  | expectedInt64 (found : Value)
  /-- A store that cannot give a bare integer its type. -/
  | untyped (op : StoreOp)
deriving DecidableEq, Repr

def ResolveError.message : ResolveError → String
  | unbound name => s!"`{name}` is not bound"
  | tooWide n => s!"integer {n} does not fit in 64 bits"
  | notInt32 n => s!"integer {n} does not fit in i32"
  | notInt64 n => s!"integer {n} does not fit in i64"
  | expectedHandle found => s!"expected a handle, found {found.text}"
  | expectedInt32 found => s!"expected an i32, found {found.text}"
  | expectedInt64 found => s!"expected an i64, found {found.text}"
  | untyped op => s!"`{op.name}` needs a typed operand, not a bare integer"

/-- The values of names. -/
abbrev Bindings := Std.ExtTreeMap String Value

/-- What is left of a statement when its operands are known. -/
inductive Action where
  | perform (request : Request)
  | print (value : Value)
deriving DecidableEq, Repr

namespace Bindings

variable (bindings : Bindings)

/-- Any value.  A bare integer is an `i32` if it fits, else an `i64`. -/
def value : Operand → Except ResolveError Value
  | .var name =>
    match bindings[name]? with
    | some value => .ok value
    | none => .error (.unbound name)
  | .value value => .ok value
  | .int n =>
    match toInt32? n, toInt64? n with
    | some v, _ => .ok (.i32 v)
    | none, some v => .ok (.i64 v)
    | none, none => .error (.tooWide n)

def handle (operand : Operand) : Except ResolveError Handle := do
  match ← bindings.value operand with
  | .handle handle => return handle
  | other => throw (.expectedHandle other)

/-- An `i32`; a bare integer has to fit. -/
def int32 : Operand → Except ResolveError Int32
  | .int n =>
    match toInt32? n with
    | some v => .ok v
    | none => .error (.notInt32 n)
  | operand => do
    match ← bindings.value operand with
    | .i32 v => return v
    | other => throw (.expectedInt32 other)

/-- An `i32` taken as a size, without sign. -/
def size (operand : Operand) : Except ResolveError UInt32 :=
  (bindings.int32 operand).map (·.toUInt32)

/-- An `i64`; a bare integer has to fit. -/
def int64 : Operand → Except ResolveError Int64
  | .int n =>
    match toInt64? n with
    | some v => .ok v
    | none => .error (.notInt64 n)
  | operand => do
    match ← bindings.value operand with
    | .i64 v => return v
    | other => throw (.expectedInt64 other)

/-- The operand of a store.  A bare integer takes the type of the store; anything else is left for
    the store to check. -/
def stored (op : StoreOp) : Operand → Except ResolveError Value
  | .int n =>
    match op with
    | .handle => .error (.untyped op)
    | .data data =>
      match data.operand with
      | .i32 => (bindings.int32 (.int n)).map .i32
      | .i64 => (bindings.int64 (.int n)).map .i64
      | .f32 | .f64 => .error (.untyped op)
  | operand => bindings.value operand

/-- The action of a command.  Operands are resolved from left to right. -/
def resolve : Command → Except ResolveError Action
  | .alloc size => return .perform (.alloc (← bindings.size size))
  | .free handle => return .perform (.free (← bindings.handle handle))
  | .slice handle lo hi => do
    let handle ← bindings.handle handle
    let lo ← bindings.int32 lo
    let hi ← bindings.int32 hi
    return .perform (.slice handle lo hi)
  | .add handle delta => do
    let handle ← bindings.handle handle
    let delta ← bindings.int32 delta
    return .perform (.add handle delta)
  | .sub handle delta => do
    let handle ← bindings.handle handle
    let delta ← bindings.int32 delta
    return .perform (.sub handle delta)
  | .dup handle => return .perform (.dup (← bindings.handle handle))
  | .load op handle => return .perform (.load op (← bindings.handle handle))
  | .store op handle value => do
    let handle ← bindings.handle handle
    let value ← bindings.stored op value
    return .perform (.store op handle value)
  | .encode handle => return .perform (.encode (← bindings.handle handle))
  | .decode word => return .perform (.decode (← bindings.int64 word).toUInt64)
  | .grow extra => return .perform (.grow (← bindings.size extra))
  | .copy target source len => do
    let target ← bindings.handle target
    let source ← bindings.handle source
    let len ← bindings.size len
    return .perform (.copy target source len)
  | .reset => return .perform .reset
  | .print value => return .print (← bindings.value value)

end Bindings

/-! ## Reports -/

/-- What a statement came to. -/
inductive Result where
  | done
  | value (value : Value)
  | trap (trap : Trap)
deriving DecidableEq, Repr

namespace Result

/-- The result of a reply.  A word is shown as an `i64`. -/
def ofReply : Except Trap Reply → Result
  | .error raised => .trap raised
  | .ok .done => .done
  | .ok (.handle handle) => .value (.handle handle)
  | .ok (.word word) => .value (.i64 word.toInt64)
  | .ok (.value loaded) => .value loaded

def isTrap : Result → Bool
  | .trap _ => true
  | .done | .value _ => false

end Result

/-- A line of a report. -/
structure Entry where
  line : UInt32
  /-- The name that the statement binds. -/
  bind : Option String
  result : Result
deriving DecidableEq, Repr

/-- A line of a report as text.  The name is shown only if it was bound. -/
def Entry.text (entry : Entry) : String :=
  s!"line {entry.line}: " ++
    match entry.result, entry.bind with
    | .done, _ => "ok"
    | .value value, some name => s!"{name} = {value.text}"
    | .value value, none => value.text
    | .trap trap, _ => s!"trap: {trap.text}"

/-- The outcome of a run. -/
structure Report where
  entries : List Entry := []
  /-- Statements executed. -/
  executed : Nat := 0
  /-- Statements that trapped. -/
  traps : Nat := 0
  /-- Whether the run stopped at a trap. -/
  stoppedEarly : Bool := false
deriving DecidableEq, Repr

namespace Report

/-- The report with an entry in front. -/
def cons (entry : Entry) (report : Report) : Report :=
  { report with
    entries := entry :: report.entries
    executed := report.executed + 1
    traps := report.traps + entry.result.isTrap.toNat }

/-- The lines of the report. -/
def output (report : Report) : List String := report.entries.map Entry.text

end Report

/-! ## Running -/

/-- A statement that cannot be executed, and why. -/
structure RunError where
  line : UInt32
  cause : ResolveError
deriving DecidableEq, Repr

/-- A heap with names for values. -/
structure Session where
  heap : Heap
  bindings : Bindings := ∅
  /-- Whether a run stops at the first trap. -/
  failFast : Bool := false

namespace Session

/-- Carries out an action of the statement in the given line. -/
def act (session : Session) (line : UInt32) : Action → Step Session Result
  | .print value => ⟨.value value, session, []⟩
  | .perform request =>
    ((session.heap.perform ⟨0, line⟩ request).mapAnswer Result.ofReply).mapState
      fun heap => { session with heap }

/-- Binds the name of a statement to its value, if it has both. -/
def bind (session : Session) : Option String → Result → Session
  | some name, .value value => { session with bindings := session.bindings.insert name value }
  | _, _ => session

/-- The journal lines of a result beyond those of the heap. -/
def report (line : UInt32) : Result → List Event
  | .trap trap => [.statementTrapped line trap]
  | .done | .value _ => []

/-- Executes one statement. -/
def execute (session : Session) (statement : Statement) : Step Session (Except RunError Entry) :=
  match session.bindings.resolve statement.command with
  | .error cause => ⟨.error ⟨statement.line, cause⟩, session, []⟩
  | .ok action =>
    let acted := session.act statement.line action
    { answer := .ok ⟨statement.line, statement.bind, acted.answer⟩
      state := acted.state.bind statement.bind acted.answer
      events := acted.events ++ report statement.line acted.answer }

/-- Executes statements in order, up to an error, or up to a trap if the session stops there. -/
def run (session : Session) : List Statement → Step Session (Except RunError Report)
  | [] => ⟨.ok {}, session, []⟩
  | statement :: rest =>
    let first := session.execute statement
    match first.answer with
    | .error error => ⟨.error error, first.state, first.events⟩
    | .ok entry =>
      if session.failFast && entry.result.isTrap then
        ⟨.ok (Report.cons entry { stoppedEarly := true }), first.state, first.events⟩
      else
        ((first.state.run rest).mapAnswer (·.map (Report.cons entry))).after first.events

end Session

/-! ## From text to report -/

/-- Why a trace gives no report. -/
inductive Failure where
  | syntaxError (error : ParseError)
  | construction (error : ConfigError)
  | statement (error : RunError)
deriving DecidableEq, Repr

def Trace.ParseError.chain : ParseError → List String
  | atLine line cause => [s!"line {line}", cause.message]
  | tooManyLines =>
      ["trace has too many lines", "out of range integral type conversion attempted"]

def RunError.chain (error : RunError) : List String :=
  [s!"line {error.line}", error.cause.message]

/-- The messages of a failure, from the outermost to the cause. -/
def Failure.chain : Failure → List String
  | syntaxError error => "failed to parse trace" :: error.chain
  | construction error => ["failed to build memory engine", error.message]
  | statement error => error.chain

/-- Replays a trace on a fresh heap. -/
def replay (config : Config) (keys : KeySource) (failFast : Bool) (source : String) :
    Except Failure Report × List Event :=
  match Trace.parse source with
  | .error error => (.error (.syntaxError error), [])
  | .ok statements =>
    match Heap.ofConfig config keys with
    | .error error => (.error (.construction error), [])
    | .ok heap =>
      let ran := Session.run { heap, failFast } statements
      (ran.answer.mapError .statement, ran.events)

end SegmentHeap
