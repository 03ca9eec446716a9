/-
  The journal: what operations report while they run, and what they leave.

  A `Step` is the outcome of one operation: its answer, the state after it and the events it
  emitted, in order.  An operation that fails answers with an error and still has a state and
  events.
-/
import SegmentHeap.Trap

namespace SegmentHeap

/-- Something worth a line in the journal. -/
inductive Event where
  /-- The key table grew, after trying the given number of capacities. -/
  | expanded (before after attempts : Nat)
  | inserted (key : UInt32) (slot capacity : Nat)
  | removed (key : UInt32) (slot : Nat)
  /-- The key table dropped that many segments at once. -/
  | cleared (entries : Nat)
  | allocated (key size : UInt32) (location : Location)
  | freed (key : UInt32) (location : Location)
  | sliced (key : UInt32) (lo hi : Int32) (location : Location)
  /-- A word was decoded whose key was never issued. -/
  | unknownKey (word : UInt64)
  /-- A handle was loaded from bytes that no handle store left as they are. -/
  | alteredSlot (word : UInt64) (location : Location)
  | trapped (trap : Trap)
  /-- A statement of a trace trapped. -/
  | statementTrapped (line : UInt32) (trap : Trap)
  /-- The key table would have to grow beyond its maximum. -/
  | tableFull (capacity max : Nat)
  /-- The key source gave no usable key within the allowed draws. -/
  | noUsableKey (draws : Nat)
deriving DecidableEq, Repr

/-- A line of the journal: the level, the message and the fields. -/
def Event.text : Event → String
  | expanded before after attempts =>
      s!"DEBUG expanded key table from={before} to={after} attempts={attempts}"
  | inserted key slot capacity =>
      s!"DEBUG inserted segment key={key.toNat} slot={slot} capacity={capacity}"
  | removed key slot => s!"DEBUG removed segment key={key.toNat} slot={slot}"
  | cleared entries => s!"DEBUG cleared key table entries={entries}"
  | allocated key size location =>
      s!"TRACE allocated segment key={key.toNat} size={size.toNat} loc={location.text}"
  | freed key location => s!"TRACE freed segment key={key.toNat} loc={location.text}"
  | sliced key lo hi location =>
      s!"TRACE sliced segment key={key.toNat} base={lo.toInt} bound={hi.toInt} "
        ++ s!"loc={location.text}"
  | unknownKey word =>
      s!"DEBUG decoded handle with unknown key word={Numeral.hexPadded 16 word.toNat}"
  | alteredSlot word location =>
      s!"DEBUG handle slot altered by a data store word={Numeral.hexPadded 16 word.toNat} "
        ++ s!"loc={location.text}"
  | trapped trap =>
      s!"DEBUG trap kind={trap.fault.text} op={trap.operation.name} "
        ++ s!"location={trap.location.text} handle={trap.handle.text} size={trap.size.toNat}"
  | statementTrapped line trap => s!"INFO trace trapped line={line} trap={trap.text}"
  | tableFull capacity max =>
      s!"WARN key table cannot grow further capacity={capacity} max={max}"
  | noUsableKey draws => s!"WARN key source produced no usable key draws={draws}"

/-- The outcome of an operation on a state. -/
structure Step (State Answer : Type) where
  answer : Answer
  state : State
  events : List Event := []

namespace Step

variable {State State' Answer Answer' : Type}

/-- The same outcome with events that came before it. -/
def after (earlier : List Event) (step : Step State Answer) : Step State Answer :=
  { step with events := earlier ++ step.events }

/-- The same outcome with its answer changed. -/
def mapAnswer (f : Answer → Answer') (step : Step State Answer) : Step State Answer' :=
  { answer := f step.answer, state := step.state, events := step.events }

/-- The same outcome seen in a larger state. -/
def mapState (f : State → State') (step : Step State Answer) : Step State' Answer :=
  { answer := step.answer, state := f step.state, events := step.events }

end Step

end SegmentHeap
