/-
  The parts that a pattern is made of, as the documented grammar has them.

  Every part knows its span.  An atom matches one character or a place between two; a class is a set
  of characters in brackets, built from unions and three set operations; a node is a pattern or a
  piece of one.  Only what the checks of this library look at is kept: not which repetition is
  meant, nor which anchor, nor the name of a property.
-/
import SegmentHeap.Pattern.Cursor

namespace SegmentHeap.Pattern

/-! ## Flags -/

/-- A way to read a pattern, as the letters after `(?` name them. -/
inductive Flag where
  | anyCase
  | multiLine
  | dotAll
  | swapGreed
  | unicode
  | carriageReturns
  | loose
deriving DecidableEq, Repr

def Flag.ofChar? : Char → Option Flag
  | 'i' => some anyCase
  | 'm' => some multiLine
  | 's' => some dotAll
  | 'U' => some swapGreed
  | 'u' => some unicode
  | 'R' => some carriageReturns
  | 'x' => some loose
  | _ => none

/-- A flag, or the minus sign that turns off the flags after it. -/
inductive FlagItem where
  | minus
  | flag (flag : Flag)
deriving DecidableEq, Repr

/-- Whether flags turn a flag on or off, if they name it. -/
def Flag.state (flag : Flag) (items : List FlagItem) : Option Bool :=
  if (items.takeWhile (· ≠ .minus)).contains (.flag flag) then some true
  else if items.contains (.flag flag) then some false
  else none

/-! ## Atoms and classes -/

inductive Atom where
  | letter (letter : Letter)
  /-- Any character. -/
  | dot (span : Span)
  /-- The start or the end of the text or of a line. -/
  | anchor (span : Span)
  /-- A place between a word and what is none, or some other place that words tell apart. -/
  | wordBoundary (span : Span)
  /-- Digits, blanks or word characters, or all others. -/
  | shorthand (span : Span) (negated : Bool)
  /-- The characters with a Unicode property. -/
  | property (span : Span)
deriving DecidableEq, Repr

def Atom.span : Atom → Span
  | letter item => item.span
  | dot span | anchor span | wordBoundary span | shorthand span _ | property span => span

inductive SetOperation where
  | intersection
  | difference
  | symmetricDifference
deriving DecidableEq, Repr

/-- What stands between brackets. -/
inductive CharSet where
  | nothing (span : Span)
  | letter (letter : Letter)
  | range (first last : Letter)
  /-- A class of ASCII characters with a name. -/
  | named (span : Span) (negated : Bool)
  | shorthand (span : Span) (negated : Bool)
  | property (span : Span)
  | bracketed (span : Span) (negated : Bool) (set : CharSet)
  | union (span : Span) (sets : List CharSet)
  | combined (span : Span) (operation : SetOperation) (left right : CharSet)

def CharSet.span : CharSet → Span
  | letter item => item.span
  | range first last => ⟨first.span.first, last.span.past⟩
  | nothing span | named span _ | shorthand span _ | property span | bracketed span _ _
  | union span _ | combined span _ _ _ => span

/-- The names of the classes of ASCII characters. -/
def classNames : List String :=
  ["alnum", "alpha", "ascii", "blank", "cntrl", "digit", "graph", "lower", "print", "punct",
    "space", "upper", "word", "xdigit"]

/-! ## Patterns -/

inductive Node where
  | nothing (span : Span)
  | atom (atom : Atom)
  | bracketed (span : Span) (negated : Bool) (set : CharSet)
  /-- Flags for what follows in the same group. -/
  | flags (span : Span) (items : List FlagItem)
  | repetition (span : Span) (body : Node)
  /-- A group, with the flags for its body. -/
  | group (span : Span) (items : List FlagItem) (body : Node)
  | sequence (span : Span) (nodes : List Node)
  | alternation (span : Span) (branches : List Node)

def Node.span : Node → Span
  | atom item => item.span
  | nothing span | bracketed span _ _ | flags span _ | repetition span _ | group span _ _
  | sequence span _ | alternation span _ => span

end SegmentHeap.Pattern
