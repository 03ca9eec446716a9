/-
  Traces parse back to what was written.

  The words of a statement are those of its command, after a name and `=` if it is bound
  (`Statement.Written`).  A text renders statements if it is laid out in rows of words such that the
  row in each line is that of the statement with the number of the line, and all other rows are
  empty (`Rendering`).  There are many ways to render statements, since numbers can be written in
  several ways and lines can be laid out in any; `renderings_parse_back` says that all of them are
  read as the same statements.

  The proof follows the reader: the words of a line come from `Laid.read`, an operand from
  `readOperand?_of_written`, and between them a command is read by its form, of which there is one
  for each number of operands.
-/
import Mathlib.Data.List.Forall2
import SegmentHeap.Proofs.Trace.Literal
import SegmentHeap.Trace.Statement

namespace SegmentHeap.Trace

/-! ## Statements in words -/

/-- The words of a statement. -/
inductive Statement.Written : Statement → List (List Char) → Prop
  | plain {line : UInt32} {command : Command} {args : List (List Char)}
      (operands : List.Forall₂ Operand.Written command.operands args) :
      Written ⟨line, none, command⟩ (command.mnemonic.toList :: args)
  | bound {line : UInt32} {name : String} {command : Command} {args : List (List Char)}
      (operands : List.Forall₂ Operand.Written command.operands args) :
      Written ⟨line, some name, command⟩
        (name.toList :: ['='] :: command.mnemonic.toList :: args)

/-- Statements that bind a proper name, and only to what has a value, and have proper operands. -/
structure Statement.Proper (statement : Statement) : Prop where
  bind : ∀ {name}, statement.bind = some name →
    isName name.toList = true ∧ statement.command.producesValue = true
  operands : ∀ operand ∈ statement.command.operands, operand.Proper

/-- Rows for statements, each in the line with its number, counted from the given number on. -/
inductive Numbered : Nat → List Statement → List (List (List Char)) → Prop
  | nil {n : Nat} : Numbered n [] []
  | idle {n : Nat} {statements : List Statement} {rows : List (List (List Char))}
      (later : Numbered (n + 1) statements rows) : Numbered n statements ([] :: rows)
  | statement {n : Nat} {statement : Statement} {row : List (List Char)}
      {statements : List Statement} {rows : List (List (List Char))}
      (here : statement.line.toNat = n) (written : statement.Written row)
      (later : Numbered (n + 1) statements rows) :
      Numbered n (statement :: statements) (row :: rows)

/-- The text writes the statements in their lines. -/
def Rendering (statements : List Statement) (text : String) : Prop :=
  ∃ rows, Numbered 1 statements rows ∧ Laid rows text.toList

/-! ## Commands -/

theorem readLoad?_mnemonic (op : LoadOp) : readLoad? op.mnemonic.toList = some op := by
  have all : ∀ op ∈ LoadOp.all, readLoad? op.mnemonic.toList = some op := by decide
  exact all op op.mem_all

theorem readStore?_mnemonic (op : StoreOp) : readStore? op.mnemonic.toList = some op := by
  have all : ∀ op ∈ StoreOp.all, readStore? op.mnemonic.toList = some op := by decide
  exact all op op.mem_all

theorem readForm_of_mem {mnemonic : String} {form : Form} (listed : (mnemonic, form) ∈ forms) :
    readForm mnemonic.toList = .ok form := by
  simp only [forms, List.mem_cons, Prod.mk.injEq, List.not_mem_nil, or_false] at listed
  rcases listed with ⟨rfl, rfl⟩ | ⟨rfl, rfl⟩ | ⟨rfl, rfl⟩ | ⟨rfl, rfl⟩ | ⟨rfl, rfl⟩ | ⟨rfl, rfl⟩ |
    ⟨rfl, rfl⟩ | ⟨rfl, rfl⟩ | ⟨rfl, rfl⟩ | ⟨rfl, rfl⟩ | ⟨rfl, rfl⟩ | ⟨rfl, rfl⟩
  all_goals
    unfold readForm
    rfl

theorem dropStart?_append (start rest : List Char) :
    dropStart? start (start ++ rest) = some rest := by
  have front : start.isPrefixOf (start ++ rest) = true :=
    List.isPrefixOf_iff_prefix.2 (List.prefix_append start rest)
  rw [dropStart?, if_pos front, List.drop_left]

theorem readForm_load (op : LoadOp) :
    readForm ("load." ++ op.mnemonic).toList = .ok (.unary (.load op)) := by
  rw [String.toList_append, readForm, dropStart?_append]
  simp only [readLoad?_mnemonic]

theorem readForm_store (op : StoreOp) :
    readForm ("store." ++ op.mnemonic).toList = .ok (.binary (.store op)) := by
  -- a store is asked first whether it is a load
  have none : dropStart? "load.".toList ("store.".toList ++ op.mnemonic.toList) = none := rfl
  rw [String.toList_append, readForm, dropStart?_append, none]
  simp only [readStore?_mnemonic]

variable {word a b c : List Char} {operand x y z : Operand} {args : List (List Char)}

theorem readCommand_unary {build : Operand → Command} (form : readForm word = .ok (.unary build))
    (first : readOperand a = .ok x) : readCommand word [a] = .ok (build x) := by
  rw [readCommand, form]
  show Form.apply (String.ofList word) [a] (.unary build) = _
  rw [Form.apply, first]
  rfl

theorem readCommand_binary {build : Operand → Operand → Command}
    (form : readForm word = .ok (.binary build)) (first : readOperand a = .ok x)
    (second : readOperand b = .ok y) : readCommand word [a, b] = .ok (build x y) := by
  rw [readCommand, form]
  show Form.apply (String.ofList word) [a, b] (.binary build) = _
  rw [Form.apply, first, second]
  rfl

theorem readCommand_ternary {build : Operand → Operand → Operand → Command}
    (form : readForm word = .ok (.ternary build)) (first : readOperand a = .ok x)
    (second : readOperand b = .ok y) (third : readOperand c = .ok z) :
    readCommand word [a, b, c] = .ok (build x y z) := by
  rw [readCommand, form]
  show Form.apply (String.ofList word) [a, b, c] (.ternary build) = _
  rw [Form.apply, first, second, third]
  rfl

/-- A command is read from its mnemonic and what its operands are read from. -/
theorem readCommand_mnemonic (command : Command)
    (reads : List.Forall₂ (fun operand word => readOperand word = .ok operand)
      command.operands args) :
    readCommand command.mnemonic.toList args = .ok command := by
  cases command with
  | alloc x | free x | dup x | encode x | decode x | grow x | print x =>
    rcases reads with _ | ⟨first, _ | _⟩
    exact readCommand_unary (readForm_of_mem (by simp [forms, Command.mnemonic])) first
  | add x y | sub x y =>
    rcases reads with _ | ⟨first, _ | ⟨second, _ | _⟩⟩
    exact readCommand_binary (readForm_of_mem (by simp [forms, Command.mnemonic])) first second
  | slice x y z | copy x y z =>
    rcases reads with _ | ⟨first, _ | ⟨second, _ | ⟨third, _ | _⟩⟩⟩
    exact readCommand_ternary (readForm_of_mem (by simp [forms, Command.mnemonic])) first second
      third
  | load op x =>
    rcases reads with _ | ⟨first, _ | _⟩
    exact readCommand_unary (readForm_load op) first
  | store op x y =>
    rcases reads with _ | ⟨first, _ | ⟨second, _ | _⟩⟩
    exact readCommand_binary (readForm_store op) first second
  | reset =>
    rcases reads with _ | _
    rfl

/-! ## Statements -/

theorem readOperand_of_written (written : operand.Written word) (proper : operand.Proper) :
    readOperand word = .ok operand := by
  rw [readOperand, readOperand?_of_written written proper]

theorem reads_of_written {operands : List Operand}
    (written : List.Forall₂ Operand.Written operands args)
    (proper : ∀ operand ∈ operands, operand.Proper) :
    List.Forall₂ (fun operand word => readOperand word = .ok operand) operands args := by
  induction written with
  | nil => exact .nil
  | cons first _ ih =>
    obtain ⟨here, rest⟩ := List.forall_mem_cons.1 proper
    exact .cons (readOperand_of_written first here) (ih rest)

variable {statement : Statement} {row : List (List Char)}

/-- The words of a statement are read as the statement. -/
theorem readStatement_of_written (written : statement.Written row) (proper : statement.Proper) :
    readStatement statement.line row = .ok (some statement) := by
  cases written with
  | @plain line command args operands =>
    have reads := reads_of_written operands proper.operands
    have read := readCommand_mnemonic command reads
    unfold readStatement
    split
    · rename_i none
      cases none
    · -- without a name, the second word is an operand, and `=` is none
      rename_i rest same
      injection same with _ same
      subst same
      have unread : readOperand ['='] = .error (.invalidOperand "=") := by decide
      obtain ⟨_, _, first, _⟩ := List.forall₂_cons_right_iff.1 reads
      rw [unread] at first
      cases first
    · rename_i same
      injection same with word same
      rw [← word, ← same, read]
      rfl
  | @bound line name command args operands =>
    have read := readCommand_mnemonic command (reads_of_written operands proper.operands)
    obtain ⟨named, valued⟩ := proper.bind rfl
    rw [readStatement, if_pos named]
    simp only [read]
    show (if command.producesValue = true then _ else _) = _
    rw [if_pos valued, String.ofList_toList]
    rfl

theorem word_mnemonic (command : Command) : Word command.mnemonic.toList := by
  have loads : ∀ op ∈ LoadOp.all, Word ("load." ++ op.mnemonic).toList := by decide
  have stores : ∀ op ∈ StoreOp.all, Word ("store." ++ op.mnemonic).toList := by decide
  cases command with
  | load op x => exact loads op op.mem_all
  | store op x y => exact stores op op.mem_all
  | _ =>
    rw [Command.mnemonic]
    decide

theorem words_of_operands {operands : List Operand}
    (written : List.Forall₂ Operand.Written operands args)
    (proper : ∀ operand ∈ operands, operand.Proper) : ∀ word ∈ args, Word word := by
  induction written with
  | nil => exact nofun
  | cons first _ ih =>
    obtain ⟨here, rest⟩ := List.forall_mem_cons.1 proper
    exact List.forall_mem_cons.2 ⟨first.word_of_proper here, ih rest⟩

/-- The words of a statement are words. -/
theorem Statement.Written.words (written : statement.Written row) (proper : statement.Proper) :
    ∀ word ∈ row, Word word := by
  cases written with
  | @plain line command args operands =>
    exact List.forall_mem_cons.2
      ⟨word_mnemonic command, words_of_operands operands proper.operands⟩
  | @bound line name command args operands =>
    obtain ⟨named, _⟩ := proper.bind rfl
    have equals : Word ['='] := by decide
    exact List.forall_mem_cons.2 ⟨word_of_isName named, List.forall_mem_cons.2 ⟨equals,
      List.forall_mem_cons.2 ⟨word_mnemonic command, words_of_operands operands proper.operands⟩⟩⟩

/-! ## Traces -/

variable {n : Nat} {statements : List Statement} {rows : List (List (List Char))}

theorem Numbered.words (numbered : Numbered n statements rows)
    (proper : ∀ statement ∈ statements, statement.Proper) :
    ∀ row ∈ rows, ∀ word ∈ row, Word word := by
  induction numbered with
  | nil => exact nofun
  | idle _ ih =>
    intro row listed
    rcases List.mem_cons.1 listed with rfl | later
    · exact nofun
    · exact ih proper row later
  | statement _ written _ ih =>
    obtain ⟨here, rest⟩ := List.forall_mem_cons.1 proper
    intro row listed
    rcases List.mem_cons.1 listed with rfl | later
    · exact written.words here
    · exact ih rest row later

/-- Lines with the words of the rows are read as the statements, unless there are more lines than
    numbers. -/
theorem Numbered.read (numbered : Numbered n statements rows)
    (proper : ∀ statement ∈ statements, statement.Proper) {lines : List (List Char)}
    (same : lines.map (fun line => Trace.words (code line)) = rows) (low : n ≤ UInt32.size) :
    readLines n lines =
      if n + lines.length ≤ UInt32.size then .ok statements else .error .tooManyLines := by
  induction numbered generalizing lines with
  | nil =>
    rw [List.map_eq_nil_iff] at same
    rw [same]
    exact (if_pos low).symm
  | @idle n statements rows _ ih =>
    obtain ⟨first, rest, rfl, none, same⟩ := List.map_eq_cons_iff.1 same
    have next : n + (rest.length + 1) = n + 1 + rest.length := by omega
    rw [List.length_cons, next]
    rcases Nat.lt_or_eq_of_le low with small | last
    · rw [readLines, lineNumber?_of_lt small, none]
      exact ih proper same small
    · -- there is no number for this line
      rw [readLines, lineNumber?_of_le (Nat.le_of_eq last.symm), if_neg (by omega)]
  | @statement n statement row statements rows here written _ ih =>
    obtain ⟨well, later⟩ := List.forall_mem_cons.1 proper
    obtain ⟨first, rest, rfl, found, same⟩ := List.map_eq_cons_iff.1 same
    have next : n + (rest.length + 1) = n + 1 + rest.length := by omega
    have small : n < UInt32.size := here ▸ statement.line.toNat_lt
    have number : UInt32.ofNat n = statement.line := by rw [← here, UInt32.ofNat_toNat]
    rw [readLines, lineNumber?_of_lt small, number, found]
    simp only [readStatement_of_written written well]
    show (readLines _ rest).map _ = _
    rw [ih later same small, List.length_cons, next]
    split
    · rfl
    · rfl

/-! ## Every trace can be written -/

theorem exists_spaced (word : List Char) (ws : List (List Char)) :
    ∃ text, Spaced (word :: ws) text := by
  have blank : Blanks [' '] := by decide
  induction ws generalizing word with
  | nil => exact ⟨word ++ [], .last nofun⟩
  | cons next ws ih =>
    obtain ⟨text, spaced⟩ := ih next
    exact ⟨_, .next (List.cons_ne_nil _ _) blank spaced⟩

theorem exists_line (ws : List (List Char)) : ∃ line, Line ws line := by
  rcases ws with _ | ⟨word, ws⟩
  · exact ⟨[] ++ [], .idle nofun (Or.inl rfl)⟩
  · obtain ⟨text, spaced⟩ := exists_spaced word ws
    exact ⟨[] ++ text ++ [], .busy nofun spaced (Or.inl rfl)⟩

theorem exists_laid (rows : List (List (List Char))) : ∃ text, Laid rows text := by
  induction rows with
  | nil => exact ⟨[], .nil⟩
  | cons row rows ih =>
    obtain ⟨line, written⟩ := exists_line row
    obtain ⟨text, laid⟩ := ih
    exact ⟨_, .next written (Or.inl rfl) laid⟩

theorem exists_operands {operands : List Operand} (proper : ∀ operand ∈ operands, operand.Proper) :
    ∃ args, List.Forall₂ Operand.Written operands args := by
  induction operands with
  | nil => exact ⟨[], .nil⟩
  | cons operand operands ih =>
    obtain ⟨here, rest⟩ := List.forall_mem_cons.1 proper
    obtain ⟨word, first⟩ := Operand.exists_written here
    obtain ⟨args, later⟩ := ih rest
    exact ⟨word :: args, .cons first later⟩

theorem Statement.exists_written (proper : statement.Proper) (line : UInt32) :
    ∃ row, Statement.Written { statement with line } row := by
  obtain ⟨args, operands⟩ := exists_operands proper.operands
  obtain ⟨_, _ | name, command⟩ := statement
  · exact ⟨_, .plain operands⟩
  · exact ⟨_, .bound operands⟩

/-- The statements with the numbers of consecutive lines. -/
def numberedFrom (n : Nat) : List Statement → List Statement
  | [] => []
  | statement :: later => { statement with line := UInt32.ofNat n } :: numberedFrom (n + 1) later

theorem exists_numbered (proper : ∀ statement ∈ statements, statement.Proper)
    (room : n + statements.length ≤ UInt32.size) :
    ∃ rows, Numbered n (numberedFrom n statements) rows ∧ rows.length = statements.length := by
  induction statements generalizing n with
  | nil => exact ⟨[], .nil, rfl⟩
  | cons statement statements ih =>
    obtain ⟨here, later⟩ := List.forall_mem_cons.1 proper
    rw [List.length_cons] at room
    obtain ⟨row, written⟩ := Statement.exists_written here (UInt32.ofNat n)
    obtain ⟨rows, numbered, length⟩ := ih later (by omega : n + 1 + statements.length ≤ UInt32.size)
    have number : (UInt32.ofNat n).toNat = n := UInt32.toNat_ofNat_of_lt' (by omega)
    exact ⟨row :: rows, .statement number written numbered, congrArg (· + 1) length⟩

/-- The numbers of lines have no part in whether statements are proper. -/
theorem proper_numberedFrom (proper : ∀ statement ∈ statements, statement.Proper) (n : Nat) :
    ∀ statement ∈ numberedFrom n statements, statement.Proper := by
  induction statements generalizing n with
  | nil => exact List.forall_mem_nil _
  | cons statement statements ih =>
    obtain ⟨here, later⟩ := List.forall_mem_cons.1 proper
    have moved : Statement.Proper { statement with line := UInt32.ofNat n } :=
      ⟨here.bind, here.operands⟩
    rw [numberedFrom]
    exact List.forall_mem_cons.2 ⟨moved, ih later (n + 1)⟩

/-- Statements can be written in as many lines. -/
theorem exists_rendering (proper : ∀ statement ∈ statements, statement.Proper)
    (room : statements.length < UInt32.size) :
    ∃ text, Rendering (numberedFrom 1 statements) text ∧
      (lines text.toList).length = statements.length := by
  obtain ⟨rows, numbered, length⟩ := exists_numbered proper (by omega : 1 + statements.length ≤ _)
  obtain ⟨text, laid⟩ := exists_laid rows
  have read := laid.read (numbered.words (proper_numberedFrom proper 1))
  refine ⟨String.ofList text, ⟨rows, numbered, ?_⟩, ?_⟩
  · rw [String.toList_ofList]
    exact laid
  · rw [String.toList_ofList, ← length, ← read, List.length_map]

/-- Whatever way proper statements are written, they are read back with the numbers of their lines,
    unless there are more lines than numbers; and they can be written. -/
theorem renderings_parse_back (proper : ∀ statement ∈ statements, statement.Proper) :
    (statements.length < UInt32.size → ∃ text, Rendering (numberedFrom 1 statements) text ∧
      (lines text.toList).length = statements.length) ∧
      ∀ text, Rendering statements text →
        ((lines text.toList).length < UInt32.size → parse text = .ok statements) ∧
        (UInt32.size ≤ (lines text.toList).length → parse text = .error .tooManyLines) := by
  refine ⟨exists_rendering proper, ?_⟩
  rintro text ⟨rows, numbered, laid⟩
  rw [parse, numbered.read proper (laid.read (numbered.words proper)) (by decide)]
  exact ⟨fun short => if_pos (by omega), fun long => if_neg (by omega)⟩

/-- A trace with both line ends and none at the end, comments, an empty line, tabs, a hexadecimal
    number with digits in both cases, a negative one, and one beyond the signed range of its
    type. -/
theorem renderings_parse_back_of_mixed :
    parse "# trace\r\n\th = alloc\t0x1A # size\n\nstore.i32_8  h 0xfFfFfFfFi32\r\nprint -7" =
      .ok [⟨2, some "h", .alloc (.int 26)⟩,
        ⟨4, none, .store (.data (.i32 .bits8)) (.var "h") (.value (.i32 (-1)))⟩,
        ⟨5, none, .print (.int (-7))⟩] := by
  have name : (Operand.var "h").Proper := show isName "h".toList = true by decide
  have small : (Operand.int 26).Proper := show Int.natAbs 26 < 1 <<< 127 by decide
  have negative : (Operand.int (-7)).Proper := show Int.natAbs (-7) < 1 <<< 127 by decide
  have typed : (Operand.value (.i32 (-1))).Proper := trivial
  refine ((renderings_parse_back ?_).2 _ ?_).1 (by decide)
  · simp only [List.forall_mem_cons, List.not_mem_nil, false_imp_iff, implies_true, and_true]
    refine ⟨⟨?_, ?_⟩, ⟨nofun, ?_⟩, nofun, ?_⟩
    · rintro _ ⟨⟩
      decide
    · simpa [Command.operands] using small
    · simpa [Command.operands] using ⟨name, typed⟩
    · simpa [Command.operands] using negative
  have low : Numeral.Digit 16 15 'f' := ⟨by decide, Or.inl rfl⟩
  have high : Numeral.Digit 16 15 'F' := ⟨by decide, Or.inr rfl⟩
  have one : Numeral.Digit 16 1 '1' := ⟨by decide, Or.inl rfl⟩
  have ten : Numeral.Digit 16 10 'A' := ⟨by decide, Or.inr rfl⟩
  have seven : Numeral.Digit 10 7 '7' := ⟨by decide, Or.inl rfl⟩
  have hex : Signed 26 ['0', 'x', '1', 'A'] := .plain (.hexadecimal (.snoc (.one one) ten))
  have less : Signed (-7) ['-', '7'] := .minus (.decimal (.one seven))
  have more {n : Nat} {cs : List Char} (digits : Numeral.Digits 16 n cs) :
      Numeral.Digits 16 (16 * (16 * n + 15) + 15) (cs ++ ['f'] ++ ['F']) :=
    (digits.snoc low).snoc high
  have ones : Signed 0xFFFFFFFF ['0', 'x', 'f', 'F', 'f', 'F', 'f', 'F', 'f', 'F'] :=
    .plain (.hexadecimal (more (more (more ((Numeral.Digits.one low).snoc high)))))
  have front : Blanks [] := by decide
  have space : Blanks [' '] := by decide
  have spaces : Blanks [' ', ' '] := by decide
  have tab : Blanks ['\t'] := by decide
  have title : Remark "# trace".toList := Or.inr ⟨_, rfl, by decide⟩
  have note : Remark "# size".toList := Or.inr ⟨_, rfl, by decide⟩
  have first : Line [] "# trace".toList := .idle front title
  have second : Line ["h".toList, ['='], "alloc".toList, ['0', 'x', '1', 'A']]
      "\th = alloc\t0x1A # size".toList :=
    .busy tab (.next (by decide) space (.next (by decide) space (.next (by decide) tab
      (.last space)))) note
  have third : Line [] [] := .idle front (Or.inl rfl)
  have fourth : Line ["store.i32_8".toList, "h".toList, "0xfFfFfFfFi32".toList]
      "store.i32_8  h 0xfFfFfFfFi32".toList :=
    .busy front (.next (by decide) spaces (.next (by decide) space (.last front))) (Or.inl rfl)
  have fifth : Line ["print".toList, ['-', '7']] "print -7".toList :=
    .busy front (.next (by decide) space (.last front)) (Or.inl rfl)
  refine ⟨[[], ["h".toList, ['='], "alloc".toList, ['0', 'x', '1', 'A']], [],
    ["store.i32_8".toList, "h".toList, "0xfFfFfFfFi32".toList], ["print".toList, ['-', '7']]],
    ?_, ?_⟩
  · refine .idle (.statement rfl (.bound (.cons (.int hex) .nil)) (.idle (.statement rfl
      (.plain ?_) (.statement rfl (.plain (.cons (.int less) .nil)) .nil))))
    exact .cons (.var "h") (.cons (.i32 ones (by decide) (by decide)) .nil)
  · exact .next first (Or.inr rfl) (.next second (Or.inl rfl) (.next third (Or.inl rfl)
      (.next fourth (Or.inr rfl) (.last fifth (by decide)))))

end SegmentHeap.Trace
