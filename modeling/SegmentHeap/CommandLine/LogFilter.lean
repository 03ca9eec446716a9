/-
  The filter of the log, as the option `--log` takes it.

  The program leaves this text to a library outside of it, and what is followed here is the
  documented syntax of directives of that library.  A filter is a list of directives between commas;
  empty ones say nothing.  A directive is a level, or a target, or a target or a span or both with a
  level behind an equals sign:

      debug     heap     heap=debug     [step]=debug     heap[step{line=3}]=debug

  A target starts with a letter, a digit, `-`, `:` or `_`.  A level is one of six words in any case,
  or a number from 0 to 5; it may be left out after the equals sign.  A span may name a field in
  braces, and after an equals sign its value, which is a number or a pattern.

  Blanks around a directive are left out when it is taken apart.  The level and the field are then
  cut out of the directive with its blanks, at the bytes where they stand without them; so a level
  behind which there are blanks is none, and blanks in front shift both.

  Only whether a filter is well formed matters here, since this program keeps its journal to itself.
-/
import SegmentHeap.Decimal.Reading
import SegmentHeap.Pattern

namespace SegmentHeap.CommandLine

/-- What is wrong with a filter. -/
inductive FilterError where
  | malformed
  /-- What stands behind the equals sign is no level. -/
  | invalidLevel
  /-- The value of a field is no pattern. -/
  | invalidField (refusal : Pattern.Refusal)
deriving DecidableEq, Repr

/-- The messages of a wrong filter: what is wrong with the directive, and the causes of that. -/
def FilterError.chain : FilterError → List String
  | malformed => ["invalid filter directive"]
  | invalidLevel => [levelMessage, levelMessage]
  | invalidField refusal =>
    ["invalid field filter: " ++ refusal.chain.headD ""] ++ refusal.chain
where
  levelMessage : String :=
    "error parsing level filter: expected one of \"off\", \"error\", \"warn\", \"info\", "
      ++ "\"debug\", \"trace\", or a number 0-5"

namespace LogFilter

/-! ## Parts of a directive -/

/-- The text without the blanks around it. -/
def trim (text : List Char) : List Char :=
  ((text.dropWhile Trace.isBlank).reverse.dropWhile Trace.isBlank).reverse

/-- How many bytes a text takes up. -/
def byteSize : List Char → Nat
  | [] => 0
  | c :: rest => c.utf8Size + byteSize rest

/-- A text without its first bytes. -/
def dropBytes : Nat → List Char → List Char
  | 0, text => text
  | _ + 1, [] => []
  | n + 1, c :: rest => dropBytes (n + 1 - c.utf8Size) rest

/-- The first bytes of a text. -/
def takeBytes : Nat → List Char → List Char
  | 0, _ => []
  | _ + 1, [] => []
  | n + 1, c :: rest => c :: takeBytes (n + 1 - c.utf8Size) rest

/-- A directive with the blanks around it. -/
structure Directive where
  text : List Char

namespace Directive

/-- What is cut out for a part of the trimmed directive from `rest` on. -/
def partFrom (directive : Directive) (rest : List Char) : List Char :=
  dropBytes (byteSize (trim directive.text) - byteSize rest) directive.text

/-! ## Levels -/

/-- The names of the levels. -/
def levelNames : List String := ["off", "error", "warn", "info", "debug", "trace"]

/-- Whether a text is a level. -/
def isLevel (text : List Char) : Bool :=
  let digits := match text with
    | '+' :: rest => rest
    | _ => text
  levelNames.contains (String.ofList (text.map Char.toLower)) ||
    (Numeral.read? 10 digits).any (· ≤ 5)

/-- What may stand behind the equals sign: a level, or nothing. -/
def checkLevel (directive : Directive) (text : List Char) : Except FilterError Unit :=
  let level := directive.partFrom text
  if level.isEmpty || isLevel level then .ok () else .error .invalidLevel

/-! ## Spans -/

/-- The value of a field: a number or a pattern. -/
def checkValue (value : List Char) : Except FilterError Unit :=
  if (Decimal.read? .double value).isSome then .ok ()
  else (Pattern.check value).mapError .invalidField

/-- A field: a name, and a value between the first equals sign and the second, if there is one. -/
def checkField (field : List Char) : Except FilterError Unit :=
  match field.dropWhile (· ≠ '=') with
  | [] => .ok ()
  | _ :: value => checkValue (value.takeWhile (· ≠ '='))

/-- What may stand behind a span. -/
def checkAfterSpan (directive : Directive) : List Char → Except FilterError Unit
  | [] => .ok ()
  | '=' :: level => directive.checkLevel level
  | _ => .error .malformed

/-- The field of a span, and what follows. -/
def checkFields (directive : Directive) (text : List Char) : Except FilterError Unit :=
  let field := text.takeWhile (· ≠ '}')
  match field, text.dropWhile (· ≠ '}') with
  | _ :: _, _ :: rest => do
    checkField (takeBytes (byteSize field) (directive.partFrom text))
    match rest with
    | ']' :: rest => directive.checkAfterSpan rest
    | _ => throw .malformed
  | _, _ => .error .malformed

/-- A span after its opening bracket, and what follows. -/
def checkSpan (directive : Directive) (text : List Char) : Except FilterError Unit :=
  match text.dropWhile (fun c => c ≠ ']' && c ≠ '{') with
  | ']' :: rest => directive.checkAfterSpan rest
  | '{' :: rest => directive.checkFields rest
  | _ => .error .malformed

/-! ## Directives -/

/-- Whether a target or a level may start with the character. -/
def isStart (c : Char) : Bool := Text.isAlphanumeric c || c = '-' || c = ':' || c = '_'

/-- A directive, without the blanks around it. -/
def check (directive : Directive) : Except FilterError Unit :=
  match trim directive.text with
  | [] => .error .malformed
  | '[' :: rest => directive.checkSpan rest
  | c :: rest =>
    if isStart c then
      match rest.dropWhile (fun c => c ≠ '=' && c ≠ '[') with
      | '=' :: level => directive.checkLevel level
      | '[' :: span => directive.checkSpan span
      | _ => .ok ()
    else .error .malformed

end Directive

/-- The directives between commas. -/
def directives (text : List Char) : List Directive :=
  ((text.splitOn ',').filter (!·.isEmpty)).map Directive.mk

/-- A filter.  The first wrong directive counts. -/
def check (filter : String) : Except FilterError Unit :=
  (directives filter.toList).forM Directive.check

end LogFilter

end SegmentHeap.CommandLine
