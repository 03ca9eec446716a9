/-
  Patterns for text, as the fields of a log filter take them.

  The filter is read by a library outside of this program, and its patterns by another one.  What is
  followed here is the documented syntax of these patterns and the way their errors are told, in the
  build that the filter uses: regular expressions with flags, named groups and set operations in
  classes, with neither look-around nor references back, and with no tables of Unicode.

  A pattern is taken if it is well formed, not nested too deep, has a meaning, and needs no look at
  the boundaries of words of Unicode characters.  Only that is decided here; nothing is matched.
-/
import SegmentHeap.Pattern.Depth
import SegmentHeap.Pattern.Meaning
import SegmentHeap.Pattern.Parse

namespace SegmentHeap.Pattern

/-- Why a pattern is not taken. -/
inductive Refusal where
  | wrong (text : List Char) (error : Error)
  /-- There are boundaries of Unicode words in it. -/
  | wordBoundary
deriving DecidableEq, Repr

/-- The messages of a refusal, from the outside in. -/
def Refusal.chain : Refusal → List String
  | wrong text error => ["error building NFA", "error parsing regex", error.report text]
  | wordBoundary =>
    ["unsupported regex feature for DFAs: cannot build DFAs for regexes with Unicode word "
      ++ "boundaries; switch to ASCII word boundaries, or heuristically enable Unicode word "
      ++ "boundaries or use a different regex engine"]

/-- The mode after a pattern, if it is right. -/
def mode (text : List Char) : Except Error Mode := do
  let node ← parse text
  node.checkDepth 0
  node.check {}

/-- Whether a pattern is taken. -/
def check (text : List Char) : Except Refusal Unit :=
  match mode text with
  | .error error => .error (.wrong text error)
  | .ok mode => if mode.boundary then .error .wordBoundary else .ok ()

end SegmentHeap.Pattern
