/-
  The text of a trace: lines, comments, words and names.

  A line feed ends a line, and so does the end of the text if there is something before it.  What
  follows the first `#` of a line is a comment.  The rest is split into words at blanks, which are
  the characters with the Unicode property White_Space; a carriage return is one of them, so the two
  usual line ends make no difference.  A name is made of ASCII letters, digits and `_`, does not
  start with a digit, and is not `null`.
-/

namespace SegmentHeap.Trace

/-! ## Blanks -/

/-- The characters with the property White_Space. -/
def isBlank (c : Char) : Bool :=
  let n := c.toNat
  (0x09 ≤ n && n ≤ 0x0D) || n == 0x20 || n == 0x85 || n == 0xA0 || n == 0x1680 ||
    (0x2000 ≤ n && n ≤ 0x200A) || n == 0x2028 || n == 0x2029 || n == 0x202F || n == 0x205F ||
    n == 0x3000

/-! ## Lines and words -/

/-- The lines of a text, without their line feeds.  No line begins behind the last line feed if
    nothing is there. -/
def lines (text : List Char) : List (List Char) :=
  text.foldr
    (fun c lines => if c = '\n' then [] :: lines else (c :: lines.headD []) :: lines.tail) []

/-- A line without its comment. -/
def code (line : List Char) : List Char := line.takeWhile (· ≠ '#')

/-- A word put before others, unless it is empty. -/
def consWord (word : List Char) (words : List (List Char)) : List (List Char) :=
  if word.isEmpty then words else word :: words

/-- A text cut at every blank: the first word, which is empty if a blank comes first, and the
    others. -/
def splitWords (text : List Char) : List Char × List (List Char) :=
  text.foldr
    (fun c (first, others) =>
      if isBlank c then ([], consWord first others) else (c :: first, others))
    ([], [])

/-- The words of a line. -/
def words (line : List Char) : List (List Char) :=
  consWord (splitWords line).1 (splitWords line).2

/-! ## Names -/

/-- Whether a word is a name. -/
def isName : List Char → Bool
  | [] => false
  | c :: cs =>
    (c.isAlpha || c == '_') && cs.all (fun c => c.isAlphanum || c == '_') &&
      c :: cs != ['n', 'u', 'l', 'l']

end SegmentHeap.Trace
