/-
  How the words of a trace are laid out, and that reading finds them again.

  A trace is written as rows of words, one row a line (`Laid`).  A line may have blanks in front,
  needs some between two words, and may end in blanks and a comment.  A row without words is a line
  that says nothing.  Lines end in a line feed, with or without a carriage return before it, and the
  last one may go without if it is not empty.

  A carriage return is a blank, and part of a comment if there is one.  So it can be counted as part
  of its line (`Line.return`), and only line feeds are left to be looked at.
-/
import SegmentHeap.Trace.Text

namespace SegmentHeap.Trace

/-! ## Layout -/

/-- White space within a line: spaces, tabs, and all other blanks but the line feed. -/
def Blanks (text : List Char) : Prop := ∀ c ∈ text, isBlank c = true ∧ c ≠ '\n'

instance : DecidablePred Blanks := fun text =>
  List.decidableBAll (fun c => isBlank c = true ∧ c ≠ '\n') text

/-- A character that neither ends a word nor begins a comment. -/
def WordChar (c : Char) : Prop := isBlank c = false ∧ c ≠ '#'

instance : DecidablePred WordChar := fun c =>
  inferInstanceAs (Decidable (isBlank c = false ∧ c ≠ '#'))

/-- A text of such characters. -/
def Solid (text : List Char) : Prop := ∀ c ∈ text, WordChar c

instance : DecidablePred Solid := fun text => List.decidableBAll WordChar text

/-- A word is not empty. -/
def Word (word : List Char) : Prop := word ≠ [] ∧ Solid word

instance : DecidablePred Word
  | [] => isFalse fun word => word.1 rfl
  | c :: cs => decidable_of_iff (Solid (c :: cs))
      ⟨fun solid => ⟨List.cons_ne_nil c cs, solid⟩, fun word => word.2⟩

/-- Nothing, or what follows a `#`. -/
def Remark (text : List Char) : Prop := text = [] ∨ ∃ rest, text = '#' :: rest ∧ '\n' ∉ rest

/-- Words with blanks between them, and maybe some behind. -/
inductive Spaced : List (List Char) → List Char → Prop
  | last {word gap : List Char} (blank : Blanks gap) : Spaced [word] (word ++ gap)
  | next {word gap rest : List Char} {words : List (List Char)} (some : gap ≠ [])
      (blank : Blanks gap) (spaced : Spaced words rest) :
      Spaced (word :: words) (word ++ (gap ++ rest))

/-- A line with the given words. -/
inductive Line : List (List Char) → List Char → Prop
  | idle {front remark : List Char} (blank : Blanks front) (comment : Remark remark) :
      Line [] (front ++ remark)
  | busy {front text remark : List Char} {words : List (List Char)} (blank : Blanks front)
      (spaced : Spaced words text) (comment : Remark remark) :
      Line words (front ++ text ++ remark)

/-- The two ends of a line. -/
def LineEnd (text : List Char) : Prop := text = ['\n'] ∨ text = ['\r', '\n']

/-- A text with the given rows of words. -/
inductive Laid : List (List (List Char)) → List Char → Prop
  | nil : Laid [] []
  | last {words : List (List Char)} {line : List Char} (written : Line words line)
      (some : line ≠ []) : Laid [words] line
  | next {words : List (List Char)} {rows : List (List (List Char))} {line ending text : List Char}
      (written : Line words line) (ended : LineEnd ending) (laid : Laid rows text) :
      Laid (words :: rows) (line ++ (ending ++ text))

variable {text rest front gap remark word line : List Char} {ws : List (List Char)}

/-! ## Characters of words -/

theorem toNat_of_range {c first last : Char} (low : first.val ≤ c.val) (high : c.val ≤ last.val) :
    first.toNat ≤ c.toNat ∧ c.toNat ≤ last.toNat :=
  ⟨UInt32.le_iff_toNat_le.1 low, UInt32.le_iff_toNat_le.1 high⟩

/-- Where the ASCII letters are. -/
theorem toNat_of_isAlpha {c : Char} (letter : c.isAlpha = true) :
    (65 ≤ c.toNat ∧ c.toNat ≤ 90) ∨ (97 ≤ c.toNat ∧ c.toNat ≤ 122) := by
  have either : c.isUpper = true ∨ c.isLower = true := Bool.or_eq_true_iff.1 letter
  rcases either with upper | lower
  · have inside : 'A'.val ≤ c.val ∧ c.val ≤ 'Z'.val := of_decide_eq_true upper
    exact Or.inl (toNat_of_range inside.1 inside.2)
  · have inside := Bool.and_eq_true_iff.1 lower
    have low : 'a'.val ≤ c.val := of_decide_eq_true inside.1
    have high : c.val ≤ 'z'.val := of_decide_eq_true inside.2
    exact Or.inr (toNat_of_range low high)

/-- Where the ASCII digits are. -/
theorem toNat_of_isDigit {c : Char} (digit : c.isDigit = true) : 48 ≤ c.toNat ∧ c.toNat ≤ 57 := by
  have inside := Bool.and_eq_true_iff.1 digit
  have low : '0'.val ≤ c.val := of_decide_eq_true inside.1
  have high : c.val ≤ '9'.val := of_decide_eq_true inside.2
  exact toNat_of_range low high

theorem wordChar_of_isAlphanum {c : Char} (plain : c.isAlphanum = true) : WordChar c := by
  have range : ((65 ≤ c.toNat ∧ c.toNat ≤ 90) ∨ (97 ≤ c.toNat ∧ c.toNat ≤ 122)) ∨
      (48 ≤ c.toNat ∧ c.toNat ≤ 57) := by
    rw [Char.isAlphanum, Bool.or_eq_true] at plain
    exact plain.imp toNat_of_isAlpha toNat_of_isDigit
  refine ⟨?_, ?_⟩
  · rw [Bool.eq_false_iff]
    intro blank
    simp only [isBlank, Bool.or_eq_true, Bool.and_eq_true, decide_eq_true_eq, beq_iff_eq] at blank
    omega
  · rintro rfl
    exact absurd range (by decide)

theorem Blanks.append (first : Blanks front) (second : Blanks gap) : Blanks (front ++ gap) := by
  intro c listed
  rcases List.mem_append.1 listed with there | there
  · exact first c there
  · exact second c there

/-! ## A carriage return behind a line -/

theorem Remark.return (comment : Remark remark) (some : remark ≠ []) :
    Remark (remark ++ ['\r']) := by
  rcases comment with none | ⟨rest, rfl, unbroken⟩
  · exact absurd none some
  · refine Or.inr ⟨rest ++ ['\r'], rfl, ?_⟩
    rw [List.mem_append, not_or]
    exact ⟨unbroken, by decide⟩

theorem Spaced.append (spaced : Spaced ws text) (blank : Blanks gap) : Spaced ws (text ++ gap) := by
  induction spaced with
  | last before =>
    rw [List.append_assoc]
    exact .last (before.append blank)
  | next some before _ ih =>
    rw [List.append_assoc, List.append_assoc]
    exact .next some before ih

/-- A carriage return behind a line is one of its blanks, or of its comment. -/
theorem Line.return (written : Line ws line) : Line ws (line ++ ['\r']) := by
  cases written with
  | @idle front remark blank comment =>
    by_cases none : remark = []
    · rw [none, List.append_nil, ← List.append_nil (front ++ ['\r'])]
      exact .idle (blank.append (by decide)) (Or.inl rfl)
    · rw [List.append_assoc]
      exact .idle blank (comment.return none)
  | @busy front text remark words blank spaced comment =>
    by_cases none : remark = []
    · rw [none, List.append_nil, List.append_assoc, ← List.append_nil (front ++ _)]
      exact .busy blank (spaced.append (by decide)) (Or.inl rfl)
    · rw [List.append_assoc]
      exact .busy blank spaced (comment.return none)

/-! ## Lines -/

theorem lines_cons (c : Char) (rest : List Char) :
    lines (c :: rest) =
      if c = '\n' then [] :: lines rest
      else (c :: (lines rest).headD []) :: (lines rest).tail := rfl

/-- A text that is cut off by a line feed has its parts between line feeds as lines. -/
theorem lines_append (first rest : List Char) :
    lines (first ++ '\n' :: rest) = first.splitOn '\n' ++ lines rest := by
  induction first with
  | nil => rfl
  | cons c cs ih =>
    rw [List.cons_append, lines_cons, ih, List.splitOn_cons_eq_if_modifyHead]
    by_cases ends : c = '\n'
    · rw [if_pos ends, if_pos (beq_iff_eq.2 ends)]
      rfl
    · obtain ⟨part, parts, split⟩ := List.exists_cons_of_ne_nil (List.splitOn_ne_nil '\n' cs)
      rw [if_neg ends, if_neg (mt beq_iff_eq.1 ends), split]
      rfl

theorem lines_append_cons (unbroken : '\n' ∉ line) (rest : List Char) :
    lines (line ++ '\n' :: rest) = line :: lines rest := by
  rw [lines_append, List.splitOn_eq_singleton unbroken, List.singleton_append]

/-- A text that is not cut off has the same lines, but that there is none behind its last line feed
    if nothing is there. -/
theorem splitOn_eq_lines (text : List Char) :
    text.splitOn '\n' = lines text ∨ text.splitOn '\n' = lines text ++ [[]] := by
  induction text with
  | nil => exact Or.inr rfl
  | cons c cs ih =>
    rw [List.splitOn_cons_eq_if_modifyHead, lines_cons]
    by_cases ends : c = '\n'
    · rw [if_pos ends, if_pos (beq_iff_eq.2 ends)]
      exact ih.imp (congrArg ([] :: ·)) (congrArg ([] :: ·))
    · rw [if_neg ends, if_neg (mt beq_iff_eq.1 ends)]
      have some := List.splitOn_ne_nil '\n' cs
      -- the character begins a line if it is the last one
      rcases here : lines cs with _ | ⟨first, others⟩
      · rw [here] at ih
        rcases ih with same | same
        · exact absurd same some
        · exact Or.inl (by rw [same]; rfl)
      · rw [here] at ih
        rcases ih with same | same
        · exact Or.inl (by rw [same]; rfl)
        · exact Or.inr (by rw [same]; rfl)

theorem lines_of_unbroken (unbroken : '\n' ∉ line) (some : line ≠ []) : lines line = [line] := by
  have parts : line.splitOn '\n' = [line] := List.splitOn_eq_singleton unbroken
  rcases splitOn_eq_lines line with same | same
  · rw [← same, parts]
  · rw [parts] at same
    rw [← List.nil_append [line]] at same
    obtain ⟨_, last⟩ := List.append_inj' same rfl
    exact absurd (List.cons.inj last).1 some

/-! ## Words -/

theorem splitWords_cons (c : Char) (rest : List Char) :
    splitWords (c :: rest) =
      if isBlank c then ([], words rest)
      else (c :: (splitWords rest).1, (splitWords rest).2) := by
  rw [splitWords, List.foldr_cons, ← splitWords]
  rfl

theorem words_cons_of_blank {c : Char} (blank : isBlank c = true) (rest : List Char) :
    words (c :: rest) = words rest := by
  rw [words, splitWords_cons, if_pos blank]
  rfl

theorem words_append_of_blanks (blank : Blanks front) (rest : List Char) :
    words (front ++ rest) = words rest := by
  induction front with
  | nil => rfl
  | cons c cs ih =>
    rw [List.cons_append, words_cons_of_blank (blank c List.mem_cons_self).1]
    exact ih fun d listed => blank d (List.mem_cons_of_mem c listed)

theorem words_of_blanks (blank : Blanks front) : words front = [] := by
  have none := words_append_of_blanks blank []
  rw [List.append_nil] at none
  exact none

theorem splitWords_append (unbroken : ∀ c ∈ word, isBlank c = false) (rest : List Char) :
    splitWords (word ++ rest) = (word ++ (splitWords rest).1, (splitWords rest).2) := by
  induction word with
  | nil => rfl
  | cons c cs ih =>
    have here : ¬ isBlank c = true := Bool.not_eq_true _ ▸ unbroken c List.mem_cons_self
    rw [List.cons_append, splitWords_cons, if_neg here,
      ih fun d listed => unbroken d (List.mem_cons_of_mem c listed)]
    rfl

theorem consWord_of_word (proper : Word word) (ws : List (List Char)) :
    consWord word ws = word :: ws := by
  rcases word with _ | ⟨c, cs⟩
  · exact absurd rfl proper.1
  · rfl

/-- A word ends where a blank follows. -/
theorem words_append_cons {c : Char} (proper : Word word) (blank : isBlank c = true)
    (rest : List Char) : words (word ++ c :: rest) = word :: words rest := by
  rw [words, splitWords_append fun d listed => (proper.2 d listed).1, splitWords_cons,
    if_pos blank, List.append_nil, consWord_of_word proper]

theorem words_of_word (proper : Word word) : words word = [word] := by
  have split := splitWords_append (fun d listed => (proper.2 d listed).1) []
  rw [List.append_nil] at split
  rw [words, split]
  show consWord (word ++ []) [] = [word]
  rw [List.append_nil, consWord_of_word proper]

theorem words_of_spaced (spaced : Spaced ws text) (proper : ∀ word ∈ ws, Word word) :
    words text = ws := by
  induction spaced with
  | @last word gap blank =>
    have here := proper word List.mem_cons_self
    rcases gap with _ | ⟨c, cs⟩
    · rw [List.append_nil, words_of_word here]
    · rw [words_append_cons here (blank c List.mem_cons_self).1,
        words_of_blanks fun d listed => blank d (List.mem_cons_of_mem c listed)]
  | @next word gap rest words some blank _ ih =>
    have here := proper word List.mem_cons_self
    rcases gap with _ | ⟨c, cs⟩
    · exact absurd rfl some
    · rw [List.cons_append, words_append_cons here (blank c List.mem_cons_self).1,
        words_append_of_blanks fun d listed => blank d (List.mem_cons_of_mem c listed),
        ih fun other listed => proper other (List.mem_cons_of_mem word listed)]

/-! ## Rows -/

/-- Neither the blanks nor the words of a line begin a comment or end the line. -/
theorem Blanks.plain (blank : Blanks front) : ∀ c ∈ front, c ≠ '#' ∧ c ≠ '\n' := by
  intro c listed
  obtain ⟨here, unbroken⟩ := blank c listed
  refine ⟨?_, unbroken⟩
  rintro rfl
  exact absurd here (by decide)

theorem Word.plain (proper : Word word) : ∀ c ∈ word, c ≠ '#' ∧ c ≠ '\n' := by
  intro c listed
  obtain ⟨solid, here⟩ := proper.2 c listed
  refine ⟨here, ?_⟩
  rintro rfl
  exact absurd solid (by decide)

theorem Spaced.plain (spaced : Spaced ws text) (proper : ∀ word ∈ ws, Word word) :
    ∀ c ∈ text, c ≠ '#' ∧ c ≠ '\n' := by
  induction spaced with
  | @last word gap blank =>
    intro c listed
    rcases List.mem_append.1 listed with there | there
    · exact (proper word List.mem_cons_self).plain c there
    · exact blank.plain c there
  | @next word gap rest words some blank _ ih =>
    intro c listed
    rcases List.mem_append.1 listed with there | there
    · exact (proper word List.mem_cons_self).plain c there
    rcases List.mem_append.1 there with there | there
    · exact blank.plain c there
    · exact ih (fun other listed => proper other (List.mem_cons_of_mem word listed)) c there

theorem code_append (plain : ∀ c ∈ text, c ≠ '#' ∧ c ≠ '\n') (comment : Remark remark) :
    code (text ++ remark) = text := by
  rw [code, List.takeWhile_append_of_pos fun c listed => decide_eq_true (plain c listed).1]
  rcases comment with rfl | ⟨rest, rfl, _⟩
  · exact List.append_nil text
  · rw [List.takeWhile_cons_of_neg (by decide), List.append_nil]

theorem not_mem_append (plain : ∀ c ∈ text, c ≠ '#' ∧ c ≠ '\n') (comment : Remark remark) :
    '\n' ∉ text ++ remark := by
  rw [List.mem_append, not_or]
  refine ⟨fun listed => (plain '\n' listed).2 rfl, ?_⟩
  rcases comment with rfl | ⟨rest, rfl, unbroken⟩
  · exact List.not_mem_nil
  · exact List.not_mem_cons_of_ne_of_not_mem (by decide) unbroken

/-- A line is read as its words, and is one line. -/
theorem Line.read (written : Line ws line) (proper : ∀ word ∈ ws, Word word) :
    words (code line) = ws ∧ '\n' ∉ line := by
  cases written with
  | @idle front remark blank comment =>
    rw [code_append blank.plain comment, words_of_blanks blank]
    exact ⟨rfl, not_mem_append blank.plain comment⟩
  | @busy front text remark words blank spaced comment =>
    have plain : ∀ c ∈ front ++ text, c ≠ '#' ∧ c ≠ '\n' := by
      intro c listed
      rcases List.mem_append.1 listed with there | there
      · exact blank.plain c there
      · exact spaced.plain proper c there
    rw [code_append plain comment, words_append_of_blanks blank, words_of_spaced spaced proper]
    exact ⟨rfl, not_mem_append plain comment⟩

/-- A text is read as its rows of words. -/
theorem Laid.read {rows : List (List (List Char))} (laid : Laid rows text)
    (proper : ∀ ws ∈ rows, ∀ word ∈ ws, Word word) :
    (lines text).map (fun line => words (code line)) = rows := by
  induction laid with
  | nil => rfl
  | @last words line written some =>
    obtain ⟨found, unbroken⟩ := written.read (proper words List.mem_cons_self)
    rw [lines_of_unbroken unbroken some, List.map_singleton, found]
  | @next words rows line ending text written ended _ ih =>
    have later := ih fun ws listed => proper ws (List.mem_cons_of_mem words listed)
    have cut {line : List Char} (written : Line words line) :
        (lines (line ++ '\n' :: text)).map (fun line => SegmentHeap.Trace.words (code line)) =
          words :: rows := by
      obtain ⟨found, unbroken⟩ := written.read (proper words List.mem_cons_self)
      rw [lines_append_cons unbroken, List.map_cons, found, later]
    rcases ended with rfl | rfl
    · exact cut written
    · -- the carriage return is moved over to the line
      have shifted : line ++ (['\r', '\n'] ++ text) = line ++ ['\r'] ++ '\n' :: text := by
        rw [List.append_assoc]
        rfl
      rw [shifted]
      exact cut written.return

end SegmentHeap.Trace
