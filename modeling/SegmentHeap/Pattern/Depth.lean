/-
  How deep a pattern is nested.

  Everything that is built from parts counts as one level: classes, unions and set operations,
  repetitions, groups, sequences and alternatives.  The first part beyond the limit is an error.
  The limit is the documented default.
-/
import SegmentHeap.Pattern.Error
import SegmentHeap.Pattern.Syntax

namespace SegmentHeap.Pattern

/-- Goes one level deeper. -/
def deeper (depth : Nat) (span : Span) : Except Error Nat :=
  if depth < nestLimit then .ok (depth + 1) else .error { cause := .nestedTooDeep, span }

mutual

/-- Checks the levels in a set. -/
def CharSet.checkDepth (depth : Nat) : CharSet → Except Error Unit
  | .bracketed span _ set => do set.checkDepth (← deeper depth span)
  | .union span sets => do checkSetDepths (← deeper depth span) sets
  | .combined span _ left right => do
    let depth ← deeper depth span
    left.checkDepth depth
    right.checkDepth depth
  | .nothing _ | .letter _ | .range _ _ | .named _ _ | .shorthand _ _ | .property _ => .ok ()

def checkSetDepths (depth : Nat) : List CharSet → Except Error Unit
  | [] => .ok ()
  | set :: sets => do
    set.checkDepth depth
    checkSetDepths depth sets

end

mutual

/-- Checks the levels in a pattern. -/
def Node.checkDepth (depth : Nat) : Node → Except Error Unit
  | .bracketed span _ set => do set.checkDepth (← deeper depth span)
  | .repetition span body | .group span _ body => do body.checkDepth (← deeper depth span)
  | .sequence span nodes | .alternation span nodes => do checkNodeDepths (← deeper depth span) nodes
  | .nothing _ | .atom _ | .flags _ _ => .ok ()

def checkNodeDepths (depth : Nat) : List Node → Except Error Unit
  | [] => .ok ()
  | node :: nodes => do
    node.checkDepth depth
    checkNodeDepths depth nodes

end

end SegmentHeap.Pattern
