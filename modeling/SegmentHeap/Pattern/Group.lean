/-
  What may stand after an opening parenthesis, by the documented syntax for groups and flags.

  `(?i)` sets flags for the rest of the group around it, `(?i:` opens a group with flags, `(?<name>`
  or `(?P<name>` opens a group with a name, and anything else belongs to the body of a plain group.
  A flag is named at most once.  A name starts with a letter or an underscore.
-/
import SegmentHeap.Pattern.Error
import SegmentHeap.Pattern.Syntax
import SegmentHeap.Text.Alphanumeric

namespace SegmentHeap.Pattern

/-- The start of a group, or a change of flags. -/
inductive Opening where
  | flags (span : Span) (items : List FlagItem)
  /-- A group, at its parenthesis. -/
  | group (span : Span) (items : List FlagItem)
  /-- A group with a name, which has a place too. -/
  | named (span : Span) (name : List Char) (nameSpan : Span)

/-! ## Flags -/

/-- Reads flags up to the character that ends them, after those that are read. -/
def readFlags (read : List (FlagItem × Span)) (place : Place) :
    List Char → Except Error (List (FlagItem × Span) × Place × List Char)
  | [] => .error { cause := .flagUnfinished, span := place.point }
  | c :: rest =>
    let span : Span := ⟨place, place.after c⟩
    if c = ':' ∨ c = ')' then
      match read.getLast? with
      | some (.minus, dash) => .error { cause := .flagDangling, span := dash }
      | _ => .ok (read, place, c :: rest)
    else
      let item? := if c = '-' then some .minus else (Flag.ofChar? c).map .flag
      match item? with
      | none => .error { cause := .flagUnknown, span }
      | some item =>
        match read.find? (·.1 = item) with
        | some (_, earlier) =>
          let cause := if item = .minus then Cause.flagMinusRepeated else .flagRepeated
          .error { cause, span, earlier := some earlier }
        | none => readFlags (read ++ [(item, span)]) (place.after c) rest

/-- What flags open, from behind their question mark.  No flags at all are taken for the repetition
    of nothing. -/
def readFlagOpening (parenthesis question : Place) (cursor : Cursor) :
    Except Error (Opening × Cursor) := do
  let (read, place, rest) ← readFlags [] cursor.place cursor.rest
  let items := read.map Prod.fst
  let behind := Cursor.step { cursor with place, rest }
  if rest.head? = some ')' then
    if items.isEmpty then throw { cause := .repetitionAlone, span := question.point }
    return (.flags ⟨parenthesis, behind.place⟩ items, behind)
  else return (.group ⟨parenthesis, parenthesis.after '('⟩ items, behind)

/-! ## Names -/

/-- Whether a name may start with a character. -/
def isNameStart (c : Char) : Bool := c = '_' || Text.isLetter c

/-- Whether a name may go on with a character. -/
def isNameRest (c : Char) : Bool := ['_', '.', '[', ']'].contains c || Text.isAlphanumeric c

/-- The longest name at the start of a text. -/
def takeName : List Char → List Char
  | [] => []
  | c :: rest => if isNameStart c then c :: rest.takeWhile isNameRest else []

/-- A name and the angle bracket that ends it. -/
def readName (parenthesis : Span) (cursor : Cursor) : Except Error (Opening × Cursor) :=
  let name := takeName cursor.rest
  let behind := cursor.steps name.length
  match behind.rest with
  | [] => .error { cause := .nameUnfinished, span := behind.place.point }
  | '>' :: _ =>
    if name.isEmpty then .error { cause := .nameEmpty, span := cursor.place.point }
    else .ok (.named parenthesis name ⟨cursor.place, behind.place⟩, behind.step)
  | c :: _ => .error { cause := .nameCharacter, span := behind.charSpan c }

/-! ## Openings -/

/-- How looking ahead and looking behind begin. -/
def lookArounds : List (List Char) := ["?=", "?!", "?<=", "?<!"].map String.toList

/-- What an opening parenthesis begins. -/
def readOpening (cursor : Cursor) : Except Error (Opening × Cursor) :=
  let parenthesis : Span := ⟨cursor.place, cursor.place.after '('⟩
  let inner := cursor.next
  match lookArounds.find? (·.isPrefixOf inner.rest) with
  | some sign =>
    .error { cause := .lookAround, span := ⟨cursor.place, (inner.steps sign.length).place⟩ }
  | none =>
    match inner.rest with
    | '?' :: 'P' :: '<' :: _ => readName parenthesis (inner.steps 3)
    | '?' :: '<' :: _ => readName parenthesis (inner.steps 2)
    | ['?'] => .error { cause := .groupUnclosed, span := parenthesis }
    | '?' :: _ => readFlagOpening cursor.place inner.place inner.step
    | _ => .ok (.group parenthesis [], inner)

end SegmentHeap.Pattern
