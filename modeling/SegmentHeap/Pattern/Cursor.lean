/-
  Walking through the text of a pattern.

  A place is a line and a column, both counted from one, as the documented errors show it.  A cursor
  is a place and the text from there on.  It moves by single characters (`step`), or by a character
  and the blanks after it (`next`).  Blanks and comments, from `#` to the end of a line, are skipped
  only where the cursor is loose.
-/
import SegmentHeap.Trace.Text

namespace SegmentHeap.Pattern

/-! ## Places and spans -/

/-- Where a character of a pattern stands. -/
structure Place where
  line : Nat := 1
  column : Nat := 1
deriving DecidableEq, Repr

/-- The place behind a character that stands here. -/
def Place.after (place : Place) (c : Char) : Place :=
  if c = '\n' then ⟨place.line + 1, 1⟩ else ⟨place.line, place.column + 1⟩

/-- Whether a place comes before another. -/
def Place.before (a b : Place) : Bool :=
  a.line < b.line || (a.line == b.line && a.column < b.column)

/-- A part of a pattern: its first place and the place behind it. -/
structure Span where
  first : Place
  past : Place
deriving DecidableEq, Repr

/-- The empty part at a place. -/
def Place.point (place : Place) : Span := ⟨place, place⟩

/-- A character of a pattern that stands for itself or for another one. -/
structure Letter where
  span : Span
  char : Char
  /-- Whether it is written as two hexadecimal digits, which name a byte where a pattern is about
      bytes. -/
  isByte : Bool := false
deriving DecidableEq, Repr

/-! ## Cursors -/

/-- Text without the blanks and comments in front, and its place. -/
def skipBlanks (inComment : Bool) (place : Place) : List Char → Place × List Char
  | [] => (place, [])
  | c :: rest =>
    if inComment then skipBlanks (c ≠ '\n') (place.after c) rest
    else if Trace.isBlank c then skipBlanks false (place.after c) rest
    else if c = '#' then skipBlanks true (place.after c) rest
    else (place, c :: rest)

theorem length_skipBlanks (inComment : Bool) (place : Place) (text : List Char) :
    (skipBlanks inComment place text).2.length ≤ text.length := by
  induction text generalizing inComment place with
  | nil => simp [skipBlanks]
  | cons c rest ih =>
    simp only [skipBlanks, List.length_cons]
    split
    · exact Nat.le_succ_of_le (ih _ _)
    · split
      · exact Nat.le_succ_of_le (ih _ _)
      · split
        · exact Nat.le_succ_of_le (ih _ _)
        · exact Nat.le_refl _

/-- A place in a pattern and the text that begins there. -/
structure Cursor where
  place : Place := {}
  rest : List Char
  /-- Whether blanks and comments mean nothing. -/
  loose : Bool := false
deriving DecidableEq, Repr

namespace Cursor

def atEnd (cursor : Cursor) : Bool := cursor.rest.isEmpty

/-- The part that the next character takes up. -/
def charSpan (cursor : Cursor) (c : Char) : Span := ⟨cursor.place, cursor.place.after c⟩

/-- Behind the blanks and comments, if they mean nothing. -/
def skip (cursor : Cursor) : Cursor :=
  if cursor.loose then
    let (place, rest) := skipBlanks false cursor.place cursor.rest
    { cursor with place, rest }
  else cursor

/-- Behind the next character. -/
def step (cursor : Cursor) : Cursor :=
  match cursor.rest with
  | [] => cursor
  | c :: rest => { cursor with place := cursor.place.after c, rest }

/-- Behind the next character and the blanks after it. -/
def next (cursor : Cursor) : Cursor := cursor.step.skip

/-- Behind some characters. -/
def steps : Nat → Cursor → Cursor
  | 0, cursor => cursor
  | n + 1, cursor => steps n cursor.step

theorem length_skip (cursor : Cursor) : cursor.skip.rest.length ≤ cursor.rest.length := by
  unfold skip
  split
  · exact length_skipBlanks _ _ _
  · exact Nat.le_refl _

theorem length_next {cursor : Cursor} {c : Char} {rest : List Char} (h : cursor.rest = c :: rest) :
    cursor.next.rest.length < cursor.rest.length := by
  refine Nat.lt_of_le_of_lt (length_skip _) ?_
  simp [step, h]

/-- Reads characters as long as they are of a kind, and the blanks after each. -/
def takeWhile (kind : Char → Bool) (cursor : Cursor) : List Letter × Cursor :=
  match _h : cursor.rest with
  | [] => ([], cursor)
  | c :: _ =>
    if kind c then
      let (letters, behind) := takeWhile kind cursor.next
      (⟨cursor.charSpan c, c, false⟩ :: letters, behind)
    else ([], cursor)
termination_by cursor.rest.length
decreasing_by exact length_next _h

/-- Behind the characters of a kind. -/
def skipWhile (kind : Char → Bool) (cursor : Cursor) : Cursor := (cursor.takeWhile kind).2

end Cursor

end SegmentHeap.Pattern
