/-
  Which key is drawn.

  A table looks at the draws ahead of its source, as many as it may make and as there are before the
  stream ends (`KeySource.ahead`).  The first of them that it can use gives the key, and the source
  then stands right behind it (`freshKey_of_passed`).  If it can use none of them, all of them are
  spent (`freshKey_of_unfit`).  There is no third case, and nothing else of the table changes.

  So each insertion takes some draws off its source and makes its key of one of them (`Issues`), and
  the other calls take none.  Along all calls on one stream the keys follow one another as the draws
  do (`Supplied.issues`).  The stream may have gaps: a source fails at a gap and may be resumed
  behind it.
-/
import Mathlib.Data.List.Basic
import SegmentHeap.Proofs.KeyTable.Rehousing

namespace SegmentHeap

/-- The low 30 bits of a draw. -/
def masked (draw : UInt32) : UInt32 := draw &&& 0x3FFFFFFF

theorem masked_eq (draw : UInt32) : masked draw = draw % keyLimit := by
  apply UInt32.toNat_inj.1
  rw [masked, UInt32.toNat_and, UInt32.toNat_mod]
  exact Nat.and_two_pow_sub_one_eq_mod draw.toNat 30

namespace KeySource

/-! ## Draws ahead -/

/-- The source after so many more draws. -/
def skip (source : KeySource) (count : Nat) : KeySource :=
  { source with drawn := source.drawn + count }

/-- The next draws, at most so many, up to the end of the stream. -/
def ahead (source : KeySource) : Nat → List UInt32
  | 0 => []
  | count + 1 =>
    match source.next with
    | (some draw, rest) => draw :: rest.ahead count
    | (none, _) => []

/-- The draws of the stream between where the source stands and a later position. -/
def drawsUpTo (source : KeySource) (position : Nat) : List UInt32 :=
  (List.range' source.drawn (position - source.drawn)).filterMap source.stream

variable {source rest : KeySource} {draw : UInt32} {draws count : Nat}
  {passed later : List UInt32}

theorem skip_skip (source : KeySource) (count more : Nat) :
    (source.skip count).skip more = source.skip (more + count) := by
  rw [skip, skip, skip, Nat.add_assoc, Nat.add_comm count]

theorem next_cases (source : KeySource) :
    source.stream source.drawn = none ∧ source.next = (none, source) ∨
      ∃ draw, source.stream source.drawn = some draw ∧
        source.next = (some draw, source.skip 1) := by
  unfold next
  rcases given : source.stream source.drawn with _ | draw
  · exact Or.inl ⟨rfl, rfl⟩
  · exact Or.inr ⟨draw, rfl, rfl⟩

theorem ahead_of_none (ended : source.next = (none, rest)) (count : Nat) :
    source.ahead count = [] := by
  cases count with
  | zero => rfl
  | succ count => rw [ahead, ended]

theorem ahead_of_some (given : source.next = (some draw, rest)) (count : Nat) :
    source.ahead (count + 1) = draw :: rest.ahead count := by
  rw [ahead, given]

/-- The draws ahead are those of the stream from here on.  If they are fewer than asked for, the
    stream ends behind them. -/
theorem ahead_spec (source : KeySource) (count : Nat) :
    (source.ahead count).length ≤ count ∧
      (∀ i < (source.ahead count).length,
        (source.ahead count)[i]? = source.stream (source.drawn + i)) ∧
      ((source.ahead count).length < count →
        source.stream (source.drawn + (source.ahead count).length) = none) := by
  induction count generalizing source with
  | zero => exact ⟨Nat.le_refl 0, nofun, nofun⟩
  | succ count ih =>
    rcases source.next_cases with ⟨ended, next⟩ | ⟨draw, given, next⟩
    · rw [ahead_of_none next]
      exact ⟨Nat.zero_le _, nofun, fun _ => ended⟩
    · obtain ⟨le, same, ends⟩ := ih (source.skip 1)
      have shift (i : Nat) : (source.skip 1).drawn + i = source.drawn + (i + 1) := by
        rw [skip, Nat.add_assoc, Nat.add_comm 1 i]
      rw [ahead_of_some next, List.length_cons]
      refine ⟨Nat.succ_le_succ le, fun i inside => ?_, fun fewer => ?_⟩
      · cases i with
        | zero => exact given.symm
        | succ i =>
          rw [List.getElem?_cons_succ, same i (Nat.lt_of_succ_lt_succ inside), shift]
          rfl
      · rw [← shift]
        exact ends (Nat.lt_of_succ_lt_succ fewer)

/-! ## Looking for a usable key -/

variable {usable : UInt32 → Bool}

/-- The first draw that fits is taken, and those before it are spent. -/
theorem firstUsable_of_passed (split : source.ahead draws = passed ++ draw :: later)
    (unfit : ∀ other ∈ passed, usable (masked other) = false) (fits : usable (masked draw) = true) :
    source.firstUsable usable draws = (.key (masked draw), source.skip (passed.length + 1)) := by
  induction draws generalizing source passed with
  | zero => exact absurd split.symm (List.append_ne_nil_of_right_ne_nil _ (List.cons_ne_nil _ _))
  | succ draws ih =>
    rcases source.next_cases with ⟨_, next⟩ | ⟨first, _, next⟩
    · rw [ahead_of_none next] at split
      exact absurd split.symm (List.append_ne_nil_of_right_ne_nil _ (List.cons_ne_nil _ _))
    rw [ahead_of_some next] at split
    rw [firstUsable, next]
    -- the first draw is the one that fits, or one of those before it
    rcases passed with _ | ⟨other, passed⟩
    · obtain ⟨rfl, _⟩ := List.cons.inj split
      simp only [← masked_eq, fits, if_true]
      rfl
    · obtain ⟨rfl, others⟩ := List.cons.inj split
      obtain ⟨here, unfit⟩ := List.forall_mem_cons.1 unfit
      simp only [← masked_eq, here, Bool.false_eq_true, if_false]
      rw [ih others unfit, skip_skip, List.length_cons]

/-- If no draw fits, all of them are spent, or all there are. -/
theorem firstUsable_of_unfit (unfit : ∀ draw ∈ source.ahead draws, usable (masked draw) = false) :
    source.firstUsable usable draws =
      (if (source.ahead draws).length = draws then .spent else .ended,
        source.skip (source.ahead draws).length) := by
  induction draws generalizing source with
  | zero => rfl
  | succ draws ih =>
    rcases source.next_cases with ⟨_, next⟩ | ⟨first, _, next⟩
    · rw [firstUsable, next, ahead_of_none next]
      rfl
    rw [ahead_of_some next] at unfit ⊢
    obtain ⟨here, unfit⟩ := List.forall_mem_cons.1 unfit
    rw [firstUsable, next]
    simp only [← masked_eq, here, Bool.false_eq_true, if_false]
    rw [ih unfit, skip_skip, List.length_cons]
    congr 1
    exact ite_congr (propext Nat.add_right_cancel_iff.symm) (fun _ => rfl) fun _ => rfl

/-! ## Keys of a stream -/

/-- `after` is `before` further on in its stream, and the keys were masked from some of the draws on
    the way, in their order. -/
structure Issues (before after : KeySource) (keys : List UInt32) : Prop where
  stream_eq : after.stream = before.stream
  drawn_le : before.drawn ≤ after.drawn
  sublist : keys.Sublist ((before.drawsUpTo after.drawn).map masked)

variable {first second third : KeySource} {keys more : List UInt32}

theorem drawsUpTo_append (same : second.stream = first.stream) (low : first.drawn ≤ second.drawn)
    {position : Nat} (high : second.drawn ≤ position) :
    first.drawsUpTo second.drawn ++ second.drawsUpTo position = first.drawsUpTo position := by
  have distance : second.drawn - first.drawn + (position - second.drawn) =
      position - first.drawn := by omega
  rw [drawsUpTo, drawsUpTo, drawsUpTo, same, ← List.filterMap_append, ← distance,
    ← List.range'_append_1, Nat.add_sub_cancel' low]

theorem mem_drawsUpTo {i : Nat} (given : source.stream (source.drawn + i) = some draw)
    (inside : i < count) : draw ∈ source.drawsUpTo (source.drawn + count) := by
  refine List.mem_filterMap.2 ⟨source.drawn + i, List.mem_range'_1.2 ⟨?_, ?_⟩, given⟩
  · omega
  · omega

theorem Issues.trans (earlier : first.Issues second keys) (later : second.Issues third more) :
    first.Issues third (keys ++ more) := by
  refine ⟨later.stream_eq.trans earlier.stream_eq, Nat.le_trans earlier.drawn_le later.drawn_le, ?_⟩
  rw [← drawsUpTo_append earlier.stream_eq earlier.drawn_le later.drawn_le, List.map_append]
  exact earlier.sublist.append later.sublist

/-- Draws may be taken for no key. -/
theorem issues_skip (source : KeySource) (count : Nat) : source.Issues (source.skip count) [] :=
  ⟨rfl, Nat.le_add_right _ _, List.nil_sublist _⟩

theorem issues_of_passed (split : source.ahead count = passed ++ draw :: later) :
    source.Issues (source.skip (passed.length + 1)) [masked draw] := by
  have place : passed.length < (source.ahead count).length := by
    rw [split, List.length_append, List.length_cons]
    omega
  -- the draw stands in the stream where it stands in the split
  have given := (source.ahead_spec count).2.1 _ place
  rw [split, List.getElem?_append_right (Nat.le_refl _), Nat.sub_self, List.getElem?_cons_zero]
    at given
  refine ⟨rfl, Nat.le_add_right _ _, List.singleton_sublist.2 (List.mem_map_of_mem ?_)⟩
  exact mem_drawsUpTo given.symm (Nat.lt_succ_self _)

end KeySource

namespace KeyTable

variable {table : KeyTable} {config : Config} {log : CallLog} {draw : UInt32}
  {passed later : List UInt32}

/-! ## Drawing a key -/

/-- The draw makes a key that is not null's, names no segment and never did. -/
def UsableDraw (table : KeyTable) (draw : UInt32) : Prop :=
  masked draw ≠ 0 ∧ masked draw ∉ table.liveKeys ∧ masked draw ∉ table.retired

instance (table : KeyTable) : DecidablePred table.UsableDraw := fun draw =>
  inferInstanceAs (Decidable
    (masked draw ≠ 0 ∧ masked draw ∉ table.liveKeys ∧ masked draw ∉ table.retired))

theorem usable_masked_iff (valid : table.Valid) :
    table.usable (masked draw) = true ↔ table.UsableDraw draw := by
  simp only [UsableDraw, mem_liveKeys_iff valid, usable, isRetired, Bool.and_eq_true, bne_iff_ne,
    Bool.not_eq_true', ← Bool.not_eq_true, ← Std.ExtTreeSet.contains_iff_mem, and_assoc]

theorem usable_masked_eq_false (valid : table.Valid) (unfit : ¬ table.UsableDraw draw) :
    table.usable (masked draw) = false :=
  Bool.eq_false_iff.2 (mt (usable_masked_iff valid).1 unfit)

/-- The first draw ahead that the table can use gives the key. -/
theorem freshKey_of_passed (valid : table.Valid)
    (split : table.keys.ahead drawLimit = passed ++ draw :: later)
    (unfit : ∀ other ∈ passed, ¬ table.UsableDraw other) (fits : table.UsableDraw draw) :
    table.freshKey =
      ⟨.ok (masked draw), { table with keys := table.keys.skip (passed.length + 1) }, []⟩ := by
  rw [freshKey, KeySource.firstUsable_of_passed split
    (fun other before => usable_masked_eq_false valid (unfit other before))
    ((usable_masked_iff valid).2 fits)]

/-- If the table can use none of the draws ahead, it spends them all. -/
theorem freshKey_of_unfit (valid : table.Valid)
    (unfit : ∀ draw ∈ table.keys.ahead drawLimit, ¬ table.UsableDraw draw) :
    table.freshKey.answer = .error .allocationFailed ∧
      table.freshKey.state =
        { table with keys := table.keys.skip (table.keys.ahead drawLimit).length } := by
  rw [freshKey, KeySource.firstUsable_of_unfit
    fun draw ahead => usable_masked_eq_false valid (unfit draw ahead)]
  by_cases all : (table.keys.ahead drawLimit).length = drawLimit
  · rw [if_pos all]
    exact ⟨rfl, rfl⟩
  · rw [if_neg all]
    exact ⟨rfl, rfl⟩

/-- The table can use one of the draws ahead or none. -/
theorem draw_cases (valid : table.Valid) (draws : List UInt32) :
    (∃ passed draw later, draws = passed ++ draw :: later ∧
      (∀ other ∈ passed, ¬ table.UsableDraw other) ∧ table.UsableDraw draw) ∨
      ∀ draw ∈ draws, ¬ table.UsableDraw draw := by
  rcases search : draws.find? (fun draw => table.usable (masked draw)) with _ | draw
  · rw [List.find?_eq_none] at search
    exact Or.inr fun draw listed => mt (usable_masked_iff valid).2 (search draw listed)
  · obtain ⟨fits, passed, later, split, unfit⟩ := List.find?_eq_some_iff_append.1 search
    refine Or.inl ⟨passed, draw, later, split, ?_, (usable_masked_iff valid).1 fits⟩
    intro other before usable
    have fits' := (usable_masked_iff valid).2 usable
    have refused := unfit other before
    rw [fits'] at refused
    cases refused

theorem issues_freshKey (valid : table.Valid) :
    table.keys.Issues table.freshKey.state.keys table.freshKey.answer.toOption.toList := by
  rcases draw_cases valid (table.keys.ahead drawLimit) with
    ⟨passed, draw, later, split, unfit, fits⟩ | unfit
  · rw [freshKey_of_passed valid split unfit fits]
    exact KeySource.issues_of_passed split
  · obtain ⟨refused, state⟩ := freshKey_of_unfit valid unfit
    rw [refused, state]
    exact table.keys.issues_skip _

/-! ## Calls -/

theorem keys_makeRoom (table : KeyTable) (key : UInt32) :
    (table.makeRoom key).state.keys = table.keys := by
  fun_induction makeRoom table key with
  | case1 table empty => rfl
  | case2 table full capacity attempts found ih => exact ih
  | case3 table full found => rfl
  | case4 table full found => rfl

theorem issues_insert (valid : table.Valid) (segment : Segment) :
    table.keys.Issues (table.insert segment).state.keys
      (table.insert segment).answer.toOption.toList := by
  have drawn := issues_freshKey valid
  rcases insert_cases table segment with ⟨fault, undrawn, refused, same⟩ |
    ⟨key, fault, fresh, _, refused, same⟩ | ⟨key, fresh, granted, placed⟩
  · rw [undrawn] at drawn
    rw [refused, same]
    exact drawn
  · -- the key is lost, as there is no room for it
    rw [refused, same, keys_makeRoom]
    exact ⟨drawn.stream_eq, drawn.drawn_le, List.nil_sublist _⟩
  · rw [fresh] at drawn
    rw [granted, placed]
    show table.keys.Issues (table.freshKey.state.makeRoom key).state.keys _
    rw [keys_makeRoom]
    exact drawn

theorem keys_remove (table : KeyTable) (key : UInt32) :
    (table.remove key).state.keys = table.keys := by
  unfold remove
  split <;> rfl

theorem keys_clear (table : KeyTable) : table.clear.state.keys = table.keys := by
  unfold clear
  split <;> rfl

theorem keys_modify (table : KeyTable) (key : UInt32) (change : Segment → Segment) :
    (table.modify key change).keys = table.keys := by
  unfold modify
  split <;> rfl

theorem keys_edit (table : KeyTable) (key : UInt32) (change : Edit) :
    (table.edit key change).state.keys = table.keys := by
  unfold edit
  split
  · rfl
  · split
    · rfl
    · exact keys_modify _ _ _

end KeyTable

/-- The key that a call has put a segment under. -/
def Returned.issued? : Returned → Option UInt32
  | .inserted outcome => outcome.toOption
  | _ => none

/-- The keys that were issued, the latest first. -/
def CallLog.issuedKeys (log : CallLog) : List UInt32 := log.filterMap fun call => call.2.issued?

theorem CallLog.issuedKeys_cons (call : Call) (answer : Returned) (log : CallLog) :
    (issuedKeys ((call, answer) :: log)).reverse =
      log.issuedKeys.reverse ++ answer.issued?.toList := by
  rw [issuedKeys, issuedKeys, List.filterMap_eq_flatMap_toList, List.flatMap_cons,
    ← List.filterMap_eq_flatMap_toList, List.reverse_append]
  rcases answer.issued? with _ | key <;> rfl

namespace KeyTable

variable {table : KeyTable} {config : Config} {keys : KeySource} {log : CallLog}

theorem issues_carryOut (valid : table.Valid) (call : Call) :
    table.keys.Issues (table.carryOut call).state.keys
      (table.carryOut call).answer.issued?.toList := by
  have none_drawn {after : KeyTable} (same : after.keys = table.keys) :
      table.keys.Issues after.keys [] := same ▸ table.keys.issues_skip 0
  cases call with
  | insert segment => exact issues_insert valid segment
  | remove key => exact none_drawn (keys_remove table key)
  | clear => exact none_drawn (keys_clear table)
  | edit key change => exact none_drawn (keys_edit table key change)

/-- A table and the calls that it came of, from a fresh one, with draws of one stream.  At a gap of
    the stream the source fails, and behind the gap it may be resumed. -/
inductive Supplied (config : Config) (keys : KeySource) : CallLog → KeyTable → Prop
  | fresh {table : KeyTable} (made : ofConfig config keys = .ok table) :
      Supplied config keys [] table
  | resume {log : CallLog} {table : KeyTable} (earlier : Supplied config keys log table)
      (gap : table.keys.next.1 = none) :
      Supplied config keys log { table with keys := table.keys.skip 1 }
  | call {log : CallLog} {table : KeyTable} (earlier : Supplied config keys log table)
      (call : Call) :
      Supplied config keys ((call, (table.carryOut call).answer) :: log) (table.carryOut call).state

theorem Supplied.reached (supplied : Supplied config keys log table) :
    Reached config log table := by
  induction supplied with
  | fresh made => exact .fresh made
  | resume earlier gap ih => exact ih.withKeys _
  | call earlier call ih => exact ih.call call

/-- Along all calls the keys follow one another as the draws do that they are made of. -/
theorem Supplied.issues (supplied : Supplied config keys log table) :
    keys.Issues table.keys log.issuedKeys.reverse := by
  induction supplied with
  | fresh made =>
    rw [(eq_of_ofConfig made).2]
    exact keys.issues_skip 0
  | resume earlier gap ih =>
    rw [← List.append_nil (List.reverse _)]
    exact ih.trans (KeySource.issues_skip _ 1)
  | call earlier call ih =>
    rw [CallLog.issuedKeys_cons]
    exact ih.trans (issues_carryOut earlier.reached.valid call)

end KeyTable

end SegmentHeap
