/-
  What can be wrong with a pattern.

  A pattern is refused for the first thing that is wrong with it, and in the documented words.  The
  error points at a part of the pattern, and at an earlier one that it repeats.  Characters are
  Unicode, but no tables of Unicode classes and no case pairs are at hand, so what would need one of
  them is an error too.
-/
import SegmentHeap.Pattern.Cursor

namespace SegmentHeap.Pattern

/-- How deep a pattern may be nested. -/
def nestLimit : Nat := 250

/-- Why a pattern is refused. -/
inductive Cause where
  /-- An escape that stands for no character in a class. -/
  | classEscape
  /-- A range that ends before it starts. -/
  | classRange
  /-- A range with an end that is no single character. -/
  | classRangeEnd
  | classUnclosed
  | numberTooLarge
  /-- A hexadecimal number of no character. -/
  | hexNumber
  | hexDigit
  | escapeUnfinished
  | escapeUnknown
  /-- A minus sign with no flag after it. -/
  | flagDangling
  | flagRepeated
  | flagMinusRepeated
  | flagUnfinished
  | flagUnknown
  | nameRepeated
  | nameEmpty
  | nameCharacter
  | nameUnfinished
  | groupUnclosed
  | groupUnopened
  | nestedTooDeep
  | countEmpty
  | countUnclosed
  /-- A repetition of nothing. -/
  | repetitionAlone
  /-- A special word boundary that is not closed. -/
  | boundaryUnclosed
  /-- A brace after a word boundary and nothing more. -/
  | boundaryUnfinished
  | propertyName
  | backreference
  | lookAround
  /-- A Unicode class or character where a pattern is about bytes. -/
  | unicodeNotAllowed
  /-- A set of bytes that are no text on their own. -/
  | invalidText
  | propertyUnknown
  /-- A class of digits, blanks or word characters in Unicode. -/
  | shorthandUnknown
  /-- Disregard of case in Unicode. -/
  | caseUnknown
deriving DecidableEq, Repr

def Cause.message : Cause → String
  | classEscape => "invalid escape sequence found in character class"
  | classRange => "invalid character class range, the start must be <= the end"
  | classRangeEnd => "invalid range boundary, must be a literal"
  | classUnclosed => "unclosed character class"
  | numberTooLarge => "decimal literal invalid"
  | hexNumber => "hexadecimal literal is not a Unicode scalar value"
  | hexDigit => "invalid hexadecimal digit"
  | escapeUnfinished => "incomplete escape sequence, reached end of pattern prematurely"
  | escapeUnknown => "unrecognized escape sequence"
  | flagDangling => "dangling flag negation operator"
  | flagRepeated => "duplicate flag"
  | flagMinusRepeated => "flag negation operator repeated"
  | flagUnfinished => "expected flag but got end of regex"
  | flagUnknown => "unrecognized flag"
  | nameRepeated => "duplicate capture group name"
  | nameEmpty => "empty capture group name"
  | nameCharacter => "invalid capture group character"
  | nameUnfinished => "unclosed capture group name"
  | groupUnclosed => "unclosed group"
  | groupUnopened => "unopened group"
  | nestedTooDeep => s!"exceed the maximum number of nested parentheses/brackets ({nestLimit})"
  | countEmpty => "repetition quantifier expects a valid decimal"
  | countUnclosed => "unclosed counted repetition"
  | repetitionAlone => "repetition operator missing expression"
  | boundaryUnclosed =>
    "special word boundary assertion is either unclosed or contains an invalid character"
  | boundaryUnfinished =>
    "found either the beginning of a special word boundary or a bounded repetition on a \\b with "
      ++ "an opening brace, but no closing brace"
  | propertyName => "invalid Unicode character class"
  | backreference => "backreferences are not supported"
  | lookAround => "look-around, including look-ahead and look-behind, is not supported"
  | unicodeNotAllowed => "Unicode not allowed here"
  | invalidText => "pattern can match invalid UTF-8"
  | propertyUnknown => "Unicode property not found"
  | shorthandUnknown =>
    "Unicode-aware Perl class not found (make sure the unicode-perl feature is enabled)"
  | caseUnknown =>
    "Unicode-aware case insensitivity matching is not available (make sure the unicode-case "
      ++ "feature is enabled)"

/-- A wrong pattern: why, where, and the earlier part that is repeated there. -/
structure Error where
  cause : Cause
  span : Span
  earlier : Option Span := none
deriving DecidableEq, Repr

/-! ## The report of an error -/

/-- The lines of a text; a carriage return at the end of a line belongs to the line end, and a line
    feed at the end of the text ends its last line. -/
def lines (text : List Char) : List (List Char) :=
  let parts := Trace.lines text
  let ended := parts.dropLast.map fun line =>
    if line.getLast? = some '\r' then line.dropLast else line
  match parts.getLast? with
  | some [] => ended
  | some last => ended ++ [last]
  | none => ended

/-- Whether a part of a pattern comes before another. -/
def Span.before (a b : Span) : Bool :=
  a.first.before b.first || (a.first == b.first && a.past.before b.past)

/-- The parts that an error points at, in order. -/
def Error.spans (error : Error) : List Span :=
  match error.earlier with
  | none => [error.span]
  | some earlier =>
    if error.span.before earlier then [error.span, earlier] else [earlier, error.span]

/-- Marks under the parts of one line, from a column on: at least one mark for each part. -/
def marks (column : Nat) : List Span → String
  | [] => ""
  | span :: spans =>
    let blanks := span.first.column - 1 - column
    let width := max 1 (span.past.column - span.first.column)
    "".pushn ' ' blanks ++ "".pushn '^' width ++ marks (column + blanks + width) spans

/-- The lines of a pattern, each with the marks below it.  The `i`-th line begins with
    `label i`, and the marks are moved by as much. -/
def Error.marked (error : Error) (text : List Char) (label : Nat → String) : List String :=
  let spans := error.spans.filter fun span => span.first.line = span.past.line
  ((lines text).mapIdx fun i line =>
    let line := label (i + 1) ++ String.ofList line
    match spans.filter fun span => span.first.line = i + 1 with
    | [] => [line]
    | here => [line, "".pushn ' ' (label (i + 1)).length ++ marks 0 here]).flatten

/-- The extent of a part that goes over several lines. -/
def Span.extent (span : Span) : String :=
  s!"on line {span.first.line} (column {span.first.column}) " ++
    s!"through line {span.past.line} (column {span.past.column - 1})"

/-- A report of an error: the pattern with the parts marked that the error points at, and the cause.
    The lines of a pattern of several lines are numbered and stand between rules. -/
def Error.report (error : Error) (text : List Char) : String :=
  let cause := "error: " ++ error.cause.message
  let parts :=
    if text.contains '\n' then
      let lineCount := (Trace.lines text).length
      let width := (toString lineCount).length
      let label := fun n => String.ofList ((toString n).toList.leftpad width ' ') ++ ": "
      let rule := "".pushn '~' 79
      [rule] ++ error.marked text label ++ [rule] ++
        (error.spans.filter fun span => span.first.line ≠ span.past.line).map Span.extent
    else error.marked text fun _ => "    "
  "\n".intercalate (["regex parse error:"] ++ parts ++ [cause])

end SegmentHeap.Pattern
