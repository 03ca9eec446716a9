/-
  The lines of a trace are read apart.

  A line is read by itself: its number is all that the lines above it give to it.  So a text that
  begins further down is read as before, with larger numbers (`readLines_lowered`), and of two texts
  with a line feed between them the first is read as if it stood alone and the second as if it began
  that much further down (`parse_append`).  This goes as far as there are numbers for lines.

  `faults` reads each line of a text by itself and lists what is wrong.  The reader stops at the
  first of these faults (`fault?_parse`).  The others are not lost: when a line is mended, all other
  faults are listed as before (`faults_withLine`), so the reader comes to the next one.
-/
import Mathlib.Data.List.Basic
import SegmentHeap.Proofs.Trace.Layout
import SegmentHeap.Trace.Statement

namespace SegmentHeap.Trace

/-! ## Further down -/

/-- The statement below so many other lines. -/
def Statement.lowered (statement : Statement) (above : Nat) : Statement :=
  { statement with line := statement.line + UInt32.ofNat above }

/-- The fault below so many other lines. -/
def ParseError.lowered (error : ParseError) (above : Nat) : ParseError :=
  match error with
  | atLine line cause => atLine (line + UInt32.ofNat above) cause
  | tooManyLines => tooManyLines

/-- What reading a text comes to. -/
abbrev Reading := Except ParseError (List Statement)

namespace Reading

/-- The same below so many other lines. -/
def lowered (above : Nat) : Reading → Reading
  | .error error => .error (error.lowered above)
  | .ok statements => .ok (statements.map (·.lowered above))

/-- What reading two texts comes to, if reading ends at the first fault. -/
def followedBy (first rest : Reading) : Reading :=
  match first with
  | .error error => .error error
  | .ok statements => rest.map (statements ++ ·)

/-- What is wrong, if anything is. -/
def fault? : Reading → Option ParseError
  | .error error => some error
  | .ok _ => none

/-- What is wrong with a line. -/
def cause? : Reading → Option SyntaxError
  | .error (.atLine _ cause) => some cause
  | _ => none

/-- The numbers that are told. -/
def told : Reading → List UInt32
  | .error (.atLine line _) => [line]
  | .error .tooManyLines => []
  | .ok statements => statements.map (·.line)

variable {reading first second third : Reading} {error : ParseError} {above : Nat} {line : UInt32}

theorem fault?_eq_some_iff : reading.fault? = some error ↔ reading = .error error := by
  rcases reading with found | statements
  · rw [fault?, Option.some.injEq, Except.error.injEq]
  · exact ⟨nofun, nofun⟩

theorem fault?_eq_none_iff :
    reading.fault? = none ↔ ∃ statements, reading = .ok statements := by
  rcases reading with found | statements
  · exact ⟨nofun, nofun⟩
  · exact ⟨fun _ => ⟨statements, rfl⟩, fun _ => rfl⟩

theorem fault?_lowered :
    (reading.lowered above).fault? = reading.fault?.map (·.lowered above) := by
  cases reading <;> rfl

theorem fault?_followedBy : (first.followedBy second).fault? = first.fault?.or second.fault? := by
  rcases first with _ | _
  · rfl
  · cases second <;> rfl

theorem followedBy_assoc :
    (first.followedBy second).followedBy third = first.followedBy (second.followedBy third) := by
  rcases first with _ | statements
  · rfl
  rcases second with _ | others
  · rfl
  rcases third with _ | last
  · rfl
  · exact congrArg Except.ok (List.append_assoc statements others last)

theorem lowered_followedBy :
    (first.followedBy second).lowered above =
      (first.lowered above).followedBy (second.lowered above) := by
  rcases first with _ | statements
  · rfl
  rcases second with _ | others
  · rfl
  · exact congrArg Except.ok List.map_append

theorem nil_followedBy : followedBy (.ok []) reading = reading := by
  cases reading <;> rfl

theorem followedBy_nil : reading.followedBy (.ok []) = reading := by
  rcases reading with _ | statements
  · rfl
  · exact congrArg Except.ok (List.append_nil statements)

theorem told_of_followedBy (told : line ∈ (first.followedBy second).told) :
    line ∈ first.told ∨ line ∈ second.told := by
  rcases first with _ | statements
  · exact Or.inl told
  rcases second with _ | others
  · exact Or.inr told
  · change line ∈ (statements ++ others).map (·.line) at told
    rw [List.map_append, List.mem_append] at told
    exact told

end Reading

/-! ## Lines -/

variable {line : List Char} {page : List (List Char)} {n above : Nat}

/-- The number of a line is no part of what its words say. -/
theorem readStatement_lowered (number : UInt32) (above : Nat) (words : List (List Char)) :
    readStatement (number + UInt32.ofNat above) words =
      (readStatement number words).map (Option.map (·.lowered above)) := by
  unfold readStatement
  split
  · rfl
  · rename_i name rest
    by_cases named : isName name = true
    · rw [if_pos named, if_pos named]
      rcases rest with _ | ⟨word, args⟩
      · rfl
      dsimp only
      rcases readCommand word args with cause | command
      · rfl
      simp only [bind, Except.bind]
      by_cases produces : command.producesValue = true
      · rw [if_pos produces, if_pos produces]
        rfl
      · rw [if_neg produces, if_neg produces]
        rfl
    · rw [if_neg named, if_neg named]
      rfl
  · rename_i word args _
    rcases readCommand word args with cause | command
    · rfl
    · rfl

/-- A statement has the number of its line, and a name only if its command has a value. -/
theorem of_readStatement {number : UInt32} {words : List (List Char)} {statement : Statement}
    (read : readStatement number words = .ok (some statement)) :
    statement.line = number ∧
      (statement.bind.isSome = true → statement.command.producesValue = true) := by
  unfold readStatement at read
  split at read
  · cases read
  · rename_i name rest
    split at read
    · rcases rest with _ | ⟨word, args⟩
      · cases read
      dsimp only at read
      rcases found : readCommand word args with cause | command
      · rw [found] at read
        cases read
      simp only [found, bind, Except.bind] at read
      split at read
      · rename_i produces
        cases read
        exact ⟨rfl, fun _ => produces⟩
      · cases read
    · cases read
  · -- a line without a name
    rename_i word args _
    rcases found : readCommand word args with cause | command
    · rw [found] at read
      cases read
    · rw [found] at read
      cases read
      exact ⟨rfl, nofun⟩

/-- The first line is read by itself, and then the others. -/
theorem readLines_cons (n : Nat) (line : List Char) (rest : List (List Char)) :
    readLines n (line :: rest) =
      Reading.followedBy (readLines n [line]) (readLines (n + 1) rest) := by
  rcases numbered : lineNumber? n with _ | number
  · simp only [readLines, numbered]
    rfl
  rcases read : readStatement number (words (code line)) with cause | _ | statement
  · simp only [readLines, numbered, read]
    rfl
  · simp only [readLines, numbered, read]
    rcases readLines (n + 1) rest with _ | _
    · rfl
    · rfl
  · simp only [readLines, numbered, read]
    rfl

theorem readLines_append (n : Nat) (first rest : List (List Char)) :
    readLines n (first ++ rest) =
      Reading.followedBy (readLines n first) (readLines (n + first.length) rest) := by
  induction first generalizing n with
  | nil => exact Reading.nil_followedBy.symm
  | cons line first ih =>
    rw [List.cons_append, readLines_cons, ih, readLines_cons n line first,
      Reading.followedBy_assoc, List.length_cons, Nat.add_right_comm, Nat.add_assoc]

/-- Lines that begin further down are read as before, if there are numbers for them. -/
theorem readLines_lowered (room : n + above + page.length ≤ UInt32.size) :
    readLines (n + above) page = Reading.lowered above (readLines n page) := by
  induction page generalizing n with
  | nil => rfl
  | cons line rest ih =>
    rw [List.length_cons] at room
    have later := ih (by omega : n + 1 + above + rest.length ≤ UInt32.size)
    rw [Nat.add_right_comm] at later
    rw [readLines_cons, readLines_cons n, Reading.lowered_followedBy, later]
    congr 1
    -- what is left is the first line, read by itself
    have low : n < UInt32.size := by omega
    have high : n + above < UInt32.size := by omega
    simp only [readLines, lineNumber?_of_lt low, lineNumber?_of_lt high, UInt32.ofNat_add,
      readStatement_lowered]
    rcases readStatement (UInt32.ofNat n) (words (code line)) with cause | _ | statement
    · rfl
    · rfl
    · rfl

/-- An empty line says nothing. -/
theorem readLines_append_blank (room : n + page.length < UInt32.size) :
    readLines n (page ++ [[]]) = readLines n page := by
  have blank : readLines (n + page.length) [[]] = .ok [] := by
    rw [readLines, lineNumber?_of_lt room]
    rfl
  rw [readLines_append, blank, Reading.followedBy_nil]

/-- The numbers that are told are those of the lines that were read. -/
theorem told_readLines {number : UInt32} (told : number ∈ Reading.told (readLines n page)) :
    n ≤ number.toNat ∧ number.toNat < n + page.length := by
  induction page generalizing n with
  | nil => cases told
  | cons line rest ih =>
    rw [readLines_cons] at told
    rw [List.length_cons]
    rcases Reading.told_of_followedBy told with here | later
    · have own : number.toNat = n := by
        by_cases small : n < UInt32.size
        · simp only [readLines, lineNumber?_of_lt small] at here
          have same : number = UInt32.ofNat n := by
            rcases read : readStatement (UInt32.ofNat n) (words (code line)) with
              cause | _ | statement
            · rw [read] at here
              exact List.mem_singleton.1 here
            · rw [read] at here
              cases here
            · rw [read] at here
              exact (List.mem_singleton.1 here).trans (of_readStatement read).1
          rw [same]
          exact UInt32.toNat_ofNat_of_lt' small
        · simp only [readLines, lineNumber?_of_le (Nat.le_of_not_lt small)] at here
          cases here
      omega
    · have := ih later
      omega

/-! ## Texts -/

theorem length_splitOn (text : List Char) :
    (text.splitOn '\n').length = text.count '\n' + 1 := by
  induction text with
  | nil => rfl
  | cons c rest ih =>
    rw [List.splitOn_cons_eq_if_modifyHead]
    by_cases ends : c = '\n'
    · rw [if_pos (beq_iff_eq.2 ends), ends, List.count_cons_self, List.length_cons, ih]
    · rw [if_neg (mt beq_iff_eq.1 ends), List.count_cons_of_ne ends, List.length_modifyHead, ih]

/-- A line feed between two texts keeps their lines apart. -/
theorem lines_joined (above below : String) :
    lines (above ++ "\n" ++ below).toList =
      above.toList.splitOn '\n' ++ lines below.toList := by
  have joined : (above ++ "\n" ++ below).toList = above.toList ++ '\n' :: below.toList := by
    rw [String.toList_append, String.toList_append, List.append_assoc]
    rfl
  rw [joined, lines_append]

theorem length_lines_joined (above below : String) :
    (lines (above ++ "\n" ++ below).toList).length =
      above.toList.count '\n' + 1 + (lines below.toList).length := by
  rw [lines_joined, List.length_append, length_splitOn]

/-- The line that a line feed begins says nothing as long as nothing stands in it. -/
theorem readLines_splitOn {text : List Char} (short : (text.splitOn '\n').length < UInt32.size) :
    readLines 1 (text.splitOn '\n') = readLines 1 (lines text) := by
  rcases splitOn_eq_lines text with same | same
  · rw [same]
  · rw [same, List.length_append] at short
    rw [same, readLines_append_blank (by rw [List.length_singleton] at short; omega)]

/-- What is wrong before a line feed is wrong whatever comes behind it. -/
theorem parse_append_of_error {above : String} {error : ParseError}
    (wrong : parse above = .error error) (below : String) :
    parse (above ++ "\n" ++ below) = .error error := by
  rw [parse] at wrong
  rw [parse, lines_joined, readLines_append]
  rcases splitOn_eq_lines above.toList with same | same
  · rw [same, wrong]
    rfl
  · rw [same, readLines_append, wrong]
    rfl

/-- The text before a line feed is read as if it stood alone, and the one behind it as if it began
    in the next line. -/
theorem parse_append {above below : String}
    (short : (lines (above ++ "\n" ++ below).toList).length < UInt32.size) :
    parse (above ++ "\n" ++ below) =
      Reading.followedBy (parse above)
        (Reading.lowered (above.toList.count '\n' + 1) (parse below)) := by
  rw [length_lines_joined, ← length_splitOn] at short
  rw [parse, lines_joined, readLines_append, readLines_splitOn (by omega),
    readLines_lowered (by omega), length_splitOn]
  rfl

/-- The numbers of lines stay numbers further down. -/
theorem told_parse {text : String} {number : UInt32}
    (told : number ∈ Reading.told (parse text)) :
    number.toNat ≤ (lines text.toList).length := by
  have := told_readLines told
  omega

theorem parse_of_unbroken (unbroken : '\n' ∉ line) :
    parse (String.ofList line) = readLines 1 [line] := by
  rw [parse, String.toList_ofList]
  by_cases none : line = []
  · rw [none]
    rfl
  · rw [lines_of_unbroken unbroken none]

/-! ## Faults -/

/-- What is wrong with a line that is read by itself, with its number if it stands below so many
    others. -/
def faultBelow? : List Char × Nat → Option (Nat × SyntaxError)
  | (line, above) => (Reading.cause? (parse (String.ofList line))).map (above + 1, ·)

/-- What is wrong with the lines of a text, each read by itself and numbered as it stands there. -/
def faults (text : String) : List (Nat × SyntaxError) :=
  (lines text.toList).zipIdx.filterMap faultBelow?

/-- How the fault of a line is reported. -/
def reported : Nat × SyntaxError → ParseError
  | (n, cause) => .atLine (UInt32.ofNat n) cause

/-- The text with another line in place of the one below so many others, and a line feed behind each
    of its lines. -/
def withLine (text : String) (above : Nat) (line : String) : String :=
  String.ofList (((lines text.toList).set above line.toList).flatMap (· ++ ['\n']))

variable {fault : Nat × SyntaxError}

theorem unbroken_of_mem_lines {text : List Char} (listed : line ∈ lines text) :
    '\n' ∉ line := by
  induction text generalizing line with
  | nil => cases listed
  | cons c rest ih =>
    rw [lines_cons] at listed
    by_cases ends : c = '\n'
    · rw [if_pos ends] at listed
      rcases List.mem_cons.1 listed with rfl | later
      · exact List.not_mem_nil
      · exact ih later
    · rw [if_neg ends] at listed
      rcases found : lines rest with _ | ⟨first, others⟩
      · rw [found] at listed
        rw [List.mem_singleton.1 listed]
        exact mt List.mem_singleton.1 (Ne.symm ends)
      · rw [found] at listed ih
        rcases List.mem_cons.1 listed with rfl | later
        · rw [List.mem_cons, not_or]
          exact ⟨Ne.symm ends, ih List.mem_cons_self⟩
        · exact ih (List.mem_cons_of_mem first later)

theorem lines_flatMap (unbroken : ∀ line ∈ page, '\n' ∉ line) :
    lines (page.flatMap (· ++ ['\n'])) = page := by
  induction page with
  | nil => rfl
  | cons line rest ih =>
    obtain ⟨here, later⟩ := List.forall_mem_cons.1 unbroken
    rw [List.flatMap_cons, List.append_assoc, List.singleton_append, lines_append_cons here,
      ih later]

theorem fault?_readLines_singleton (unbroken : '\n' ∉ line) (small : above + 1 < UInt32.size) :
    Reading.fault? (readLines (above + 1) [line]) = (faultBelow? (line, above)).map reported := by
  have number : UInt32.ofNat (above + 1) = UInt32.ofNat 1 + UInt32.ofNat above := by
    rw [← UInt32.ofNat_add, Nat.add_comm]
  have first : 1 < UInt32.size := by decide
  rw [faultBelow?, parse_of_unbroken unbroken]
  simp only [readLines, lineNumber?_of_lt small, lineNumber?_of_lt first, number,
    readStatement_lowered]
  rcases readStatement (UInt32.ofNat 1) (words (code line)) with cause | _ | statement
  · exact congrArg (fun line => some (ParseError.atLine line cause)) number.symm
  · rfl
  · rfl

theorem filterMap_faultBelow?_cons (line : List Char) (rest : List (List Char)) (above : Nat) :
    ((line :: rest).zipIdx above).filterMap faultBelow? =
      (faultBelow? (line, above)).toList ++ (rest.zipIdx (above + 1)).filterMap faultBelow? := by
  rw [List.zipIdx_cons, List.filterMap_eq_flatMap_toList, List.flatMap_cons,
    List.filterMap_eq_flatMap_toList]

/-- Reading stops at the first line that is wrong by itself. -/
theorem fault?_readLines (unbroken : ∀ line ∈ page, '\n' ∉ line)
    (room : above + page.length < UInt32.size) :
    Reading.fault? (readLines (above + 1) page) =
      ((page.zipIdx above).filterMap faultBelow?).head?.map reported := by
  induction page generalizing above with
  | nil => rfl
  | cons line rest ih =>
    rw [List.length_cons] at room
    obtain ⟨here, later⟩ := List.forall_mem_cons.1 unbroken
    rw [readLines_cons, Reading.fault?_followedBy, fault?_readLines_singleton here (by omega),
      ih later (by omega), filterMap_faultBelow?_cons, List.head?_append, Option.head?_toList,
      Option.map_or]

theorem fault?_parse {text : String} (short : (lines text.toList).length < UInt32.size) :
    Reading.fault? (parse text) = (faults text).head?.map reported :=
  fault?_readLines (fun _ listed => unbroken_of_mem_lines listed) (by omega)

theorem number_of_faultBelow? (wrong : faultBelow? (line, above) = some fault) :
    fault.1 = above + 1 := by
  obtain ⟨cause, _, rfl⟩ := Option.map_eq_some_iff.1 wrong
  rfl

/-- The faults of later lines have larger numbers. -/
theorem lt_number_of_mem (listed : fault ∈ (page.zipIdx above).filterMap faultBelow?) :
    above < fault.1 := by
  obtain ⟨⟨line, place⟩, there, wrong⟩ := List.mem_filterMap.1 listed
  obtain ⟨low, _⟩ := List.mk_mem_zipIdx_iff_le_and_getElem?_sub.1 there
  rw [number_of_faultBelow? wrong]
  exact Nat.lt_succ_of_le low

/-- A line that is right by itself has no fault in place of another, and changes no other fault. -/
theorem faults_set {start : Nat} (right : ∀ place, faultBelow? (line, place) = none) :
    ((page.set above line).zipIdx start).filterMap faultBelow? =
      ((page.zipIdx start).filterMap faultBelow?).filter (·.1 ≠ start + above + 1) := by
  induction page generalizing start above with
  | nil => rfl
  | cons first rest ih =>
    have own : ∀ fault ∈ (faultBelow? (first, start)).toList, fault.1 = start + 1 :=
      fun fault wrong => number_of_faultBelow? (Option.mem_toList.1 wrong)
    rcases above with _ | above
    · have gone : (faultBelow? (first, start)).toList.filter (·.1 ≠ start + 0 + 1) = [] := by
        refine List.filter_eq_nil_iff.2 fun fault wrong differs => ?_
        exact of_decide_eq_true differs (own fault wrong)
      -- the later faults have larger numbers, so none of them is filtered out
      have others : ((rest.zipIdx (start + 1)).filterMap faultBelow?).filter
          (·.1 ≠ start + 0 + 1) = (rest.zipIdx (start + 1)).filterMap faultBelow? := by
        refine List.filter_eq_self.2 fun fault listed => decide_eq_true ?_
        exact Nat.ne_of_gt (lt_number_of_mem listed)
      rw [List.set_cons_zero, filterMap_faultBelow?_cons, right, filterMap_faultBelow?_cons,
        List.filter_append, gone, others]
      rfl
    · have kept : (faultBelow? (first, start)).toList.filter (·.1 ≠ start + (above + 1) + 1) =
          (faultBelow? (first, start)).toList := by
        refine List.filter_eq_self.2 fun fault wrong => decide_eq_true ?_
        rw [own fault wrong]
        omega
      have below : ((rest.set above line).zipIdx (start + 1)).filterMap faultBelow? =
          ((rest.zipIdx (start + 1)).filterMap faultBelow?).filter
            (·.1 ≠ start + 1 + above + 1) := ih
      rw [List.set_cons_succ, filterMap_faultBelow?_cons, filterMap_faultBelow?_cons,
        List.filter_append, kept, below, Nat.add_right_comm start 1 above]
      rfl

/-- Mending a line takes its fault away and leaves all others. -/
theorem faults_withLine (text : String) (above : Nat) {line : String} {statements : List Statement}
    (unbroken : '\n' ∉ line.toList) (right : parse line = .ok statements) :
    faults (withLine text above line) = (faults text).filter (·.1 ≠ above + 1) := by
  have mended : lines (withLine text above line).toList =
      (lines text.toList).set above line.toList := by
    rw [withLine, String.toList_ofList, lines_flatMap]
    intro other listed
    rcases List.mem_or_eq_of_mem_set listed with old | rfl
    · exact unbroken_of_mem_lines old
    · exact unbroken
  rw [faults, mended, faults_set]
  · rw [Nat.zero_add]
    rfl
  · intro place
    rw [faultBelow?, String.ofList_toList, right]
    rfl

/-- The lines of a trace are read apart.  Two texts with a line feed between them are read as the
    first one and then the second one, with its lines numbered on, as long as there are numbers; and
    the first fault stands.  So the fault that is reported is that of the first line that is wrong
    by itself; and when any line is mended, the faults of all other lines stay what they were. -/
theorem lines_are_read_apart :
    (∀ above below : String,
      let joined := above ++ "\n" ++ below
      let height := above.toList.count '\n' + 1
      (∀ error, parse above = .error error → parse joined = .error error) ∧
      ((lines joined.toList).length < UInt32.size →
        ((∃ statements, parse joined = .ok statements) ↔
          (∃ first, parse above = .ok first) ∧ ∃ rest, parse below = .ok rest) ∧
        (∀ first rest, parse above = .ok first → parse below = .ok rest →
          parse joined = .ok (first ++ rest.map (·.lowered height))) ∧
        (∀ first error, parse above = .ok first → parse below = .error error →
          parse joined = .error (error.lowered height)) ∧
        ∀ line ∈ Reading.told (parse below),
          (line + UInt32.ofNat height).toNat = line.toNat + height)) ∧
    (∀ text error, (lines text.toList).length < UInt32.size →
      (parse text = .error error ↔ (faults text).head?.map reported = some error)) ∧
    ∀ text above line statements, '\n' ∉ line.toList → parse line = .ok statements →
      faults (withLine text above line) = (faults text).filter (·.1 ≠ above + 1) := by
  refine ⟨fun above below => ⟨?_, fun short => ⟨?_, ?_, ?_, ?_⟩⟩, fun text error short => ?_, ?_⟩
  · exact fun error wrong => parse_append_of_error wrong below
  · rw [← Reading.fault?_eq_none_iff, ← Reading.fault?_eq_none_iff, ← Reading.fault?_eq_none_iff,
      parse_append short, Reading.fault?_followedBy, Reading.fault?_lowered,
      Option.or_eq_none_iff, Option.map_eq_none_iff]
  · intro first rest right right'
    rw [parse_append short, right, right']
    rfl
  · intro first error right wrong
    rw [parse_append short, right, wrong]
    rfl
  · intro line told
    have low := told_parse told
    rw [length_lines_joined] at short
    rw [UInt32.toNat_add, UInt32.toNat_ofNat_of_lt' (by omega), Nat.mod_eq_of_lt]
    change _ < UInt32.size
    omega
  · rw [← fault?_parse short, Reading.fault?_eq_some_iff]
  · intro text above line statements unbroken right
    exact faults_withLine text above unbroken right

/-- Three of its five lines are wrong, each in its own way. -/
def faulty : String := "h = alloc 8\nx = free h # no value\nfrobnicate h\r\n\nslice h 4"

/-- The second line is reported first.  When it is mended the third one is reported, and then the
    fifth; below two more lines the numbers are larger by two. -/
theorem lines_are_read_apart_of_faulty :
    parse faulty = .error (.atLine 2 (.nothingToBind "free")) ∧
    parse (withLine faulty 1 "free h") = .error (.atLine 3 (.unknownCommand "frobnicate")) ∧
    parse (withLine (withLine faulty 1 "free h") 2 "reset") =
      .error (.atLine 5 (.wrongCount "slice" 3 2)) ∧
    parse ("# trace\nreset" ++ "\n" ++ faulty) = .error (.atLine 4 (.nothingToBind "free")) := by
  obtain ⟨joins, reports, mends⟩ := lines_are_read_apart
  have first := mends faulty 1 "free h" _ (by decide) rfl
  have second := mends (withLine faulty 1 "free h") 2 "reset" _ (by decide) rfl
  have wrong : parse faulty = .error (.atLine 2 (.nothingToBind "free")) :=
    (reports _ _ (by decide)).2 (by decide)
  refine ⟨wrong, (reports _ _ (by decide)).2 ?_, (reports _ _ (by decide)).2 ?_, ?_⟩
  · rw [first]
    decide
  · rw [second, first]
    decide
  · obtain ⟨_, _, lowers, _⟩ := (joins "# trace\nreset" faulty).2 (by decide)
    exact lowers _ _ rfl wrong

end SegmentHeap.Trace
