/-
  Whether a pattern that is well formed can be given a meaning here.  The documentation tells what a
  build without tables of Unicode refuses.

  A pattern is about Unicode characters unless a flag says that it is about bytes.  About
  characters, shorthands and properties are unknown, and so are the two cases of a letter: where
  case does not count, only sets of nothing or of everything are known.  About bytes, a class must
  not hold what is no text on its own, so that no class is negated there and no byte beyond ASCII is
  named.
-/
import SegmentHeap.Pattern.Error
import SegmentHeap.Pattern.Syntax

namespace SegmentHeap.Pattern

/-- How a place of a pattern is read. -/
structure Mode where
  anyCase : Bool := false
  unicode : Bool := true
  /-- Whether the boundary of a word of Unicode characters occurs before. -/
  boundary : Bool := false
deriving DecidableEq, Repr

/-- The mode after flags. -/
def Mode.set (mode : Mode) (items : List FlagItem) : Mode :=
  { mode with
    anyCase := (Flag.anyCase.state items).getD mode.anyCase
    unicode := (Flag.unicode.state items).getD mode.unicode }

/-! ## Sets -/

/-- How much a set holds.  That some sets may turn out to hold nothing or everything does not
    matter: a set of some characters is an error where the extent counts. -/
inductive Extent where
  | nothing
  | everything
  | some
deriving DecidableEq, Repr

namespace Extent

def complement : Extent → Extent
  | nothing => everything
  | everything => nothing
  | some => some

def union : Extent → Extent → Extent
  | nothing, extent | extent, nothing => extent
  | everything, everything => everything
  | _, _ => some

def intersection : Extent → Extent → Extent
  | nothing, _ | _, nothing => nothing
  | everything, extent | extent, everything => extent
  | some, some => some

def combine : SetOperation → Extent → Extent → Extent
  | .intersection, a, b => a.intersection b
  | .difference, a, b => a.intersection b.complement
  | .symmetricDifference, a, b =>
    (a.intersection b.complement).union (b.intersection a.complement)

end Extent

namespace Mode

/-- Adds the other case of each letter to a set. -/
def fold (mode : Mode) (span : Span) (extent : Extent) : Except Error Unit :=
  if mode.unicode && mode.anyCase && extent = .some then .error { cause := .caseUnknown, span }
  else .ok ()

/-- A class with given contents. -/
def close (mode : Mode) (span : Span) (negated : Bool) (extent : Extent) : Except Error Extent := do
  mode.fold span extent
  if negated && !mode.unicode then throw { cause := .invalidText, span }
  return if negated then extent.complement else extent

/-- A byte by its number. -/
def checkByte (mode : Mode) (letter : Letter) : Except Error Unit :=
  if !mode.unicode && letter.isByte && 0x80 ≤ letter.char.toNat then
    .error { cause := .invalidText, span := letter.span }
  else .ok ()

/-- A letter in a class. -/
def checkMember (mode : Mode) (letter : Letter) : Except Error Unit := do
  mode.checkByte letter
  if !mode.unicode && 0x80 ≤ letter.char.toNat then
    throw { cause := .unicodeNotAllowed, span := letter.span }

def checkShorthand (mode : Mode) (span : Span) (negated : Bool) : Except Error Unit :=
  if mode.unicode then .error { cause := .shorthandUnknown, span }
  else if negated then .error { cause := .invalidText, span }
  else .ok ()

/-- No property is known. -/
def propertyError (mode : Mode) (span : Span) : Error :=
  { cause := if mode.unicode then .propertyUnknown else .unicodeNotAllowed, span }

end Mode

mutual

/-- Checks a set, and tells how much it holds. -/
def CharSet.check (mode : Mode) : CharSet → Except Error Extent
  | .nothing _ => .ok .nothing
  | .letter item => do
    mode.checkMember item
    return .some
  | .range first last => do
    mode.checkMember first
    mode.checkMember last
    return .some
  | .named span negated => mode.close span negated .some
  | .shorthand span negated => do
    mode.checkShorthand span negated
    return .some
  | .property span => .error (mode.propertyError span)
  | .bracketed span negated set => do mode.close span negated (← set.check mode)
  | .union _ sets => checkSets mode sets
  | .combined _ operation left right => do
    let leftExtent ← left.check mode
    let rightExtent ← right.check mode
    mode.fold right.span rightExtent
    mode.fold left.span leftExtent
    return .combine operation leftExtent rightExtent

/-- Checks the members of a union. -/
def checkSets (mode : Mode) : List CharSet → Except Error Extent
  | [] => .ok .nothing
  | set :: sets => do
    let extent ← set.check mode
    return extent.union (← checkSets mode sets)

end

/-! ## Patterns -/

/-- Checks an atom. -/
def Atom.check (mode : Mode) : Atom → Except Error Mode
  | .letter item => do
    mode.checkByte item
    mode.fold item.span .some
    return mode
  | .dot span => if mode.unicode then .ok mode else .error { cause := .invalidText, span }
  | .anchor _ => .ok mode
  | .wordBoundary _ => .ok { mode with boundary := mode.boundary || mode.unicode }
  | .shorthand span negated => do
    mode.checkShorthand span negated
    return mode
  | .property span => .error (mode.propertyError span)

mutual

/-- Checks a pattern, and tells how what follows is read.  Flags hold to the end of their group. -/
def Node.check (mode : Mode) : Node → Except Error Mode
  | .nothing _ => .ok mode
  | .atom atom => atom.check mode
  | .bracketed span negated set => do
    let _ ← mode.close span negated (← set.check mode)
    return mode
  | .flags _ items => .ok (mode.set items)
  | .repetition _ body => body.check mode
  | .group _ items body => do
    let inner ← body.check (mode.set items)
    return { mode with boundary := inner.boundary }
  | .sequence _ nodes | .alternation _ nodes => checkNodes mode nodes

def checkNodes (mode : Mode) : List Node → Except Error Mode
  | [] => .ok mode
  | node :: nodes => do checkNodes (← node.check mode) nodes

end

end SegmentHeap.Pattern
