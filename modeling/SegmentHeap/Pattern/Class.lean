/-
  Reading a class of characters in brackets, by the documented syntax for classes and for the
  operations on them.

  A class is open from its `[`, with an optional `^`, and with minus signs or one closing bracket
  that stand for themselves there.  It holds letters, ranges, escapes, named classes as `[:alpha:]`
  and other classes in brackets; `&&`, `--` and `~~` combine what comes before with what comes
  after, from left to right.  A class that is not closed is an error at the start of the innermost
  one.
-/
import SegmentHeap.Pattern.Escape

namespace SegmentHeap.Pattern

/-- A class that is still open. -/
structure Bracket where
  /-- The part that opens it. -/
  span : Span
  negated : Bool
  /-- What the next sets are combined with. -/
  left : Option (SetOperation × CharSet) := none
  /-- Where the sets since then begin. -/
  place : Place
  /-- The sets since then, the last one first. -/
  sets : List CharSet := []

namespace Bracket

def push (bracket : Bracket) (set : CharSet) : Bracket :=
  { bracket with sets := set :: bracket.sets }

/-- The union of the sets since the last operation. -/
def union (bracket : Bracket) : CharSet :=
  match bracket.sets.reverse, bracket.sets with
  | first :: _ :: _, last :: _ =>
    .union ⟨first.span.first, last.span.past⟩ bracket.sets.reverse
  | [set], _ => set
  | _, _ => .nothing bracket.place.point

/-- All sets so far. -/
def set (bracket : Bracket) : CharSet :=
  match bracket.left with
  | none => bracket.union
  | some (operation, left) =>
    .combined ⟨left.span.first, bracket.union.span.past⟩ operation left bracket.union

/-- Opens a class at its bracket. -/
def start (cursor : Cursor) : Except Error (Bracket × Cursor) :=
  let first := cursor.place
  let unclosed := fun (past : Place) =>
    Except.error { cause := .classUnclosed, span := ⟨first, past⟩ }
  let inner := cursor.next
  let negated := inner.rest.head? = some '^'
  let begin := if negated then inner.next else inner
  if begin.atEnd then unclosed begin.place
  else
    let (minuses, behind) := begin.takeWhile (· = '-')
    let bracket : Bracket :=
      { span := ⟨first, behind.place⟩, negated, place := begin.place
        sets := (minuses.map CharSet.letter).reverse }
    if behind.atEnd then unclosed first
    else
      match minuses, behind.rest with
      | [], ']' :: _ =>
        let past := behind.next
        if past.atEnd then unclosed past.place
        else
          let letter := CharSet.letter ⟨behind.charSpan ']', ']', false⟩
          .ok ({ bracket with span := ⟨first, past.place⟩, sets := [letter] }, past)
      | _, _ => .ok (bracket, behind)

end Bracket

/-- How far a class has been read. -/
inductive ClassState where
  /-- Some classes are open, one in another. -/
  | inside (cursor : Cursor) (inner : Bracket) (outer : List Bracket)
  | closed (cursor : Cursor) (node : Node)

/-- The character after a minus sign, past the blanks where they mean nothing; of a comment, only
    the sign and the blanks after it are passed over. -/
def Cursor.peek? (cursor : Cursor) : Option Char :=
  let rest := cursor.rest.drop 1
  if cursor.loose then
    match rest.dropWhile Trace.isBlank with
    | '#' :: comment => (comment.dropWhile Trace.isBlank).head?
    | behind => behind.head?
  else rest.head?

/-- A named class at its bracket, and how many characters it takes up. -/
def namedClass? (text : List Char) : Option (Bool × Nat) :=
  match text with
  | '[' :: ':' :: inner =>
    let negated := inner.head? = some '^'
    let text := if negated then inner.drop 1 else inner
    let name := text.takeWhile (· ≠ ':')
    match text.dropWhile (· ≠ ':') with
    | ':' :: ']' :: _ =>
      if classNames.contains (String.ofList name) then
        some (negated, name.length + if negated then 5 else 4)
      else none
    | _ => none
  | _ => none

/-- A letter or an escape in a class. -/
def readClassAtom (cursor : Cursor) (c : Char) : Except Error (Atom × Cursor) :=
  if c = '\\' then readEscape cursor
  else .ok (.letter ⟨cursor.charSpan c, c, false⟩, cursor.step)

/-- An atom as a set. -/
def Atom.asSet : Atom → Except Error CharSet
  | letter item => .ok (.letter item)
  | shorthand span negated => .ok (.shorthand span negated)
  | property span => .ok (.property span)
  | atom => .error { cause := .classEscape, span := atom.span }

/-- An atom as the end of a range. -/
def Atom.asRangeEnd : Atom → Except Error Letter
  | letter item => .ok item
  | atom => .error { cause := .classRangeEnd, span := atom.span }

/-- A single atom of a class or a range of letters. -/
def readRange (inner : Bracket) (cursor : Cursor) (c : Char) :
    Except Error (CharSet × Cursor) := do
  let unclosed : Error := { cause := .classUnclosed, span := inner.span }
  let (atom, behind) ← readClassAtom cursor c
  let minus := behind.skip
  match minus.rest with
  | [] => throw unclosed
  | '-' :: _ =>
    if minus.peek? = some ']' ∨ minus.peek? = some '-' then return (← atom.asSet, minus)
    else
      let last := minus.next
      match last.rest with
      | [] => throw unclosed
      | d :: _ =>
        let (lastAtom, past) ← readClassAtom last d
        let first ← atom.asRangeEnd
        let last ← lastAtom.asRangeEnd
        if first.char ≤ last.char then return (.range first last, past)
        else throw { cause := .classRange, span := ⟨first.span.first, last.span.past⟩ }
  | _ => return (← atom.asSet, minus)

/-- Combines all sets so far with those that follow. -/
def Bracket.operate (bracket : Bracket) (operation : SetOperation) (place : Place) : Bracket :=
  { bracket with left := some (operation, bracket.set), place, sets := [] }

/-- Closes the innermost class. -/
def closeClass (cursor : Cursor) (inner : Bracket) : List Bracket → ClassState
  | [] =>
    .closed cursor.step (.bracketed ⟨inner.span.first, cursor.step.place⟩ inner.negated inner.set)
  | parent :: outer =>
    let set := .bracketed ⟨inner.span.first, cursor.step.place⟩ inner.negated inner.set
    .inside cursor.step (parent.push set) outer

/-- Reads one part of a class: a bracket, an operation, a range or a single atom. -/
def ClassState.step : ClassState → Except Error ClassState
  | closed cursor node => .ok (closed cursor node)
  | inside cursor inner outer =>
    let cursor := cursor.skip
    let operate := fun operation =>
      let behind := cursor.steps 2
      Except.ok (inside behind (inner.operate operation behind.place) outer)
    match cursor.rest with
    | [] => .error { cause := .classUnclosed, span := inner.span }
    | '[' :: _ =>
      match namedClass? cursor.rest with
      | some (negated, length) =>
        let behind := cursor.steps length
        let set := CharSet.named ⟨cursor.place, behind.place⟩ negated
        .ok (inside behind (inner.push set) outer)
      | none => do
        let (bracket, behind) ← Bracket.start cursor
        return inside behind bracket (inner :: outer)
    | ']' :: _ => .ok (closeClass cursor inner outer)
    | '&' :: '&' :: _ => operate .intersection
    | '-' :: '-' :: _ => operate .difference
    | '~' :: '~' :: _ => operate .symmetricDifference
    | c :: _ => do
      let (set, behind) ← readRange inner cursor c
      return inside behind (inner.push set) outer

/-- A class, from its bracket.  Each step reads one character or more, so there are enough steps. -/
def readClass (cursor : Cursor) : Except Error (Node × Cursor) := do
  let (bracket, behind) ← Bracket.start cursor
  match ← behind.rest.foldlM (fun state _ => state.step) (ClassState.inside behind bracket []) with
  | .closed cursor node => return (node, cursor)
  | .inside _ inner _ => throw { cause := .classUnclosed, span := inner.span }

end SegmentHeap.Pattern
