/-
  Escapes: a backslash and what it makes of the characters after it, by the documented list of them.

  `\x`, `\u` and `\U` are followed by two, four or eight hexadecimal digits, and `\p` by the letter
  of a property; the forms of these with braces never end, since a pattern holds no closing brace.
  Any ASCII character that is no letter, no digit and no angle bracket stands for itself.
-/
import SegmentHeap.Numeral
import SegmentHeap.Pattern.Error
import SegmentHeap.Pattern.Syntax

namespace SegmentHeap.Pattern

/-- Whether a character is a hexadecimal digit. -/
def isHex (c : Char) : Bool := (Numeral.digit? c).isSome

/-- Whether a backslash before a character makes it stand for itself. -/
def isEscapable (c : Char) : Bool := c.toNat < 128 && !c.isAlphanum && c ≠ '<' && c ≠ '>'

/-- As many hexadecimal digits as are wanted. -/
def readHexDigits : Nat → Cursor → Except Error (List Char × Cursor)
  | 0, cursor => .ok ([], cursor)
  | n + 1, cursor =>
    match cursor.rest with
    | [] => .error { cause := .escapeUnfinished, span := cursor.place.point }
    | c :: _ =>
      if isHex c then do
        let (digits, behind) ← readHexDigits n cursor.next
        return (c :: digits, behind)
      else .error { cause := .hexDigit, span := cursor.charSpan c }

/-- What is wrong with a hexadecimal number in braces: it is not closed, or something else is in the
    way. -/
def hexBraceError (cursor : Cursor) : Error :=
  let behind := cursor.next.skipWhile isHex
  match behind.rest with
  | [] => { cause := .escapeUnfinished, span := ⟨cursor.place, behind.place⟩ }
  | c :: _ => { cause := .hexDigit, span := behind.charSpan c }

/-- A character by its number, from the letter that says how many digits it has. -/
def readHex (start : Place) (width : Nat) (cursor : Cursor) : Except Error (Atom × Cursor) :=
  let digits := cursor.next
  match digits.rest with
  | [] => .error { cause := .escapeUnfinished, span := digits.place.point }
  | '{' :: _ => .error (hexBraceError digits)
  | _ => do
    let (text, behind) ← readHexDigits width digits
    let number := (Numeral.read? 16 text).getD 0
    if number.isValidChar then
      let letter := ⟨⟨start, behind.place⟩, Char.ofNat number, width = 2⟩
      return (.letter letter, behind)
    else .error { cause := .hexNumber, span := ⟨digits.place, behind.place⟩ }

/-- A property, from the letter `p`. -/
def readProperty (start : Place) (cursor : Cursor) : Except Error (Atom × Cursor) :=
  let name := cursor.next
  match name.rest with
  | [] => .error { cause := .escapeUnfinished, span := name.place.point }
  | '{' :: _ =>
    .error { cause := .escapeUnfinished, span := (name.skipWhile fun _ => true).place.point }
  | '\\' :: _ => .error { cause := .propertyName, span := name.charSpan '\\' }
  | _ => .ok (.property ⟨start, name.next.place⟩, name.next)

/-- What is wrong with the brace after a word boundary, unless it may start a count. -/
def boundaryError? (start : Place) (cursor : Cursor) : Option Error :=
  let isNameChar := fun (c : Char) => c.isAlpha || c = '-'
  match cursor.rest with
  | '{' :: _ =>
    let name := cursor.next
    match name.rest with
    | [] => some { cause := .boundaryUnfinished, span := ⟨start, name.place⟩ }
    | c :: _ =>
      if isNameChar c then
        let span := ⟨cursor.place, (name.skipWhile isNameChar).place⟩
        some { cause := .boundaryUnclosed, span }
      else none
  | _ => none

/-- The control character that a letter names. -/
def controlChar? : Char → Option Char
  | 'a' => some '\x07'
  | 'f' => some '\x0c'
  | 't' => some '\t'
  | 'n' => some '\n'
  | 'r' => some '\r'
  | 'v' => some '\x0b'
  | _ => none

/-- How many hexadecimal digits follow a letter. -/
def hexWidth? : Char → Option Nat
  | 'x' => some 2
  | 'u' => some 4
  | 'U' => some 8
  | _ => none

/-- An escape, from its backslash. -/
def readEscape (cursor : Cursor) : Except Error (Atom × Cursor) :=
  let start := cursor.place
  let inner := cursor.step
  match inner.rest with
  | [] => .error { cause := .escapeUnfinished, span := ⟨start, inner.place⟩ }
  | c :: _ =>
    let behind := inner.step
    let span : Span := ⟨start, behind.place⟩
    if c.isDigit then .error { cause := .backreference, span }
    else if c = 'p' ∨ c = 'P' then readProperty start inner
    else if ['d', 's', 'w'].contains c then .ok (.shorthand span false, behind)
    else if ['D', 'S', 'W'].contains c then .ok (.shorthand span true, behind)
    else if ['A', 'z'].contains c then .ok (.anchor span, behind)
    else if ['B', '<', '>'].contains c then .ok (.wordBoundary span, behind)
    else if isEscapable c then .ok (.letter ⟨span, c, false⟩, behind)
    else if c = 'b' then
      match boundaryError? start behind with
      | some error => .error error
      | none => .ok (.wordBoundary span, behind)
    else
      match hexWidth? c, controlChar? c with
      | some width, _ => readHex start width inner
      | none, some control => .ok (.letter ⟨span, control, false⟩, behind)
      | none, none => .error { cause := .escapeUnknown, span }

end SegmentHeap.Pattern
