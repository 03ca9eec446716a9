/-
  Reading a pattern as a whole.

  The grammar is the documented one (`SegmentHeap.Pattern`).  A pattern is read from left to right.
  What is read so far is a stack of groups that are still open, and the branches of the innermost
  one.  A group that is not closed is an error at its parenthesis, the innermost one first.
-/
import SegmentHeap.Pattern.Class
import SegmentHeap.Pattern.Group

namespace SegmentHeap.Pattern

/-! ## Open groups -/

/-- The branches of a group while it is open. -/
structure Branches where
  /-- Where the first branch begins. -/
  start : Place
  /-- The branches before the last one, the nearest first. -/
  earlier : List Node := []
  /-- Where the last branch begins. -/
  place : Place := start
  /-- The nodes of the last branch, the last one first. -/
  nodes : List Node := []

namespace Branches

def push (branches : Branches) (node : Node) : Branches :=
  { branches with nodes := node :: branches.nodes }

/-- The last branch, which ends at a place. -/
def last (branches : Branches) (past : Place) : Node :=
  match branches.nodes with
  | [] => .nothing ⟨branches.place, past⟩
  | [node] => node
  | nodes => .sequence ⟨branches.place, past⟩ nodes.reverse

/-- Ends the last branch and begins the next one behind a bar. -/
def divide (branches : Branches) (past next : Place) : Branches :=
  { start := branches.start, earlier := branches.last past :: branches.earlier, place := next }

/-- All branches, the last of which ends at a place. -/
def node (branches : Branches) (past : Place) : Node :=
  match branches.earlier with
  | [] => branches.last past
  | earlier => .alternation ⟨branches.start, past⟩ (branches.last past :: earlier).reverse

end Branches

/-- A group that is still open, and what is around it. -/
structure OpenGroup where
  parenthesis : Span
  items : List FlagItem
  around : Branches
  /-- Whether blanks mean nothing around it. -/
  loose : Bool

/-- How far a pattern has been read. -/
structure Parse where
  cursor : Cursor
  branches : Branches
  groups : List OpenGroup := []
  /-- The names of groups, each with its place. -/
  names : List (List Char × Span) := []

namespace Parse

def push (parse : Parse) (node : Node) (cursor : Cursor) : Parse :=
  { parse with cursor, branches := parse.branches.push node }

/-! ## Parts -/

/-- Opens a group with its flags. -/
def openGroup (parse : Parse) (parenthesis : Span) (items : List FlagItem) (cursor : Cursor) :
    Parse :=
  let group : OpenGroup :=
    { parenthesis, items, around := parse.branches, loose := parse.cursor.loose }
  { parse with
    cursor := { cursor with loose := (Flag.loose.state items).getD parse.cursor.loose }
    branches := { start := cursor.place }
    groups := group :: parse.groups }

/-- Opens what a parenthesis begins.  No two groups have one name. -/
def readGroup (parse : Parse) : Except Error Parse := do
  match ← readOpening parse.cursor with
  | (.flags span items, cursor) =>
    let loose := (Flag.loose.state items).getD parse.cursor.loose
    return parse.push (.flags span items) { cursor with loose }
  | (.group parenthesis items, cursor) => return parse.openGroup parenthesis items cursor
  | (.named parenthesis name span, cursor) =>
    match parse.names.lookup name with
    | some earlier => throw { cause := .nameRepeated, span, earlier := some earlier }
    | none =>
      return { parse.openGroup parenthesis [] cursor with names := (name, span) :: parse.names }

/-- Closes the innermost group. -/
def closeGroup (parse : Parse) : Except Error Parse :=
  let behind := parse.cursor.step
  match parse.groups with
  | [] => .error { cause := .groupUnopened, span := ⟨parse.cursor.place, behind.place⟩ }
  | group :: groups =>
    let span := ⟨group.parenthesis.first, behind.place⟩
    let node := .group span group.items (parse.branches.node parse.cursor.place)
    .ok { parse with
      cursor := { behind with loose := group.loose }
      branches := group.around.push node
      groups }

/-- Begins the next branch. -/
def readBar (parse : Parse) : Parse :=
  let behind := parse.cursor.step
  { parse with
    cursor := behind
    branches := parse.branches.divide parse.cursor.place behind.place }

/-- Takes away the node before a repetition.  There has to be one, and flags are none. -/
def popNode (parse : Parse) : Except Error (Node × Branches) :=
  match parse.branches.nodes with
  | .flags _ _ :: _ | [] =>
    .error { cause := .repetitionAlone, span := parse.cursor.place.point }
  | node :: nodes => .ok (node, { parse.branches with nodes })

/-- A repetition by one sign, which a question mark may follow. -/
def readRepetition (parse : Parse) : Except Error Parse := do
  let (node, branches) ← parse.popNode
  let sign := parse.cursor.step
  let behind := if sign.rest.head? = some '?' then sign.step else sign
  let repetition := .repetition ⟨node.span.first, behind.place⟩ node
  return { parse with cursor := behind, branches := branches.push repetition }

/-- What is wrong with a count in braces.  A pattern holds no closing brace, so that no count is
    ever complete. -/
def countError (cursor : Cursor) : Error :=
  let inner := cursor.next
  let start :=
    if inner.atEnd then inner else inner.steps (inner.rest.takeWhile Trace.isBlank).length
  let (digits, past) := start.takeWhile Char.isDigit
  let behind := past.skipWhile Trace.isBlank
  let number := (Numeral.read? 10 (digits.map Letter.char)).getD 0
  if behind.atEnd then { cause := .countUnclosed, span := ⟨cursor.place, behind.place⟩ }
  else if digits.isEmpty then { cause := .countEmpty, span := start.place.point }
  else if UInt32.size ≤ number then { cause := .numberTooLarge, span := ⟨start.place, past.place⟩ }
  else { cause := .countUnclosed, span := ⟨cursor.place, behind.place⟩ }

/-! ## The whole -/

/-- Reads one part of a pattern. -/
def step (parse : Parse) : Except Error Parse :=
  let cursor := parse.cursor.skip
  let parse := { parse with cursor }
  match cursor.rest with
  | [] => .ok parse
  | '(' :: _ => parse.readGroup
  | ')' :: _ => parse.closeGroup
  | '|' :: _ => .ok parse.readBar
  | '[' :: _ => do
    let (node, behind) ← readClass cursor
    return parse.push node behind
  | '?' :: _ | '*' :: _ | '+' :: _ => parse.readRepetition
  | '{' :: _ => do
    let _ ← parse.popNode
    throw (countError cursor)
  | '\\' :: _ => do
    let (atom, behind) ← readEscape cursor
    return parse.push (.atom atom) behind
  | c :: _ =>
    let span := cursor.charSpan c
    let atom :=
      if c = '.' then .dot span
      else if c = '^' ∨ c = '$' then .anchor span
      else .letter ⟨span, c, false⟩
    .ok (parse.push (.atom atom) cursor.step)

end Parse

/-- Reads a pattern.  Each step reads one character or more, so there are enough steps. -/
def parse (text : List Char) : Except Error Node := do
  let cursor : Cursor := { rest := text }
  let start : Parse := { cursor, branches := { start := cursor.place } }
  let parse ← text.foldlM (fun parse _ => parse.step) start
  match parse.groups with
  | [] => return parse.branches.node parse.cursor.skip.place
  | group :: _ => throw { cause := .groupUnclosed, span := group.parenthesis }

end SegmentHeap.Pattern
