/-
  The text of a trap tells the trap.

  The text is put together of parts of any length: names, numbers and signs between them.  A way of
  writing is `Legible` if it can be told from the beginning of a longer text what was written, and
  where the rest begins.  Names that are no beginnings of each other are legible
  (`legible_of_prefix`).  A number is not, since more digits could follow; it is legible with a sign
  behind it that no number has (`Legible.stop`).  Legible parts in a row are legible
  (`Legible.append`), and so is the choice between two that are never mixed up (`Legible.ite`).

  A trap is legible part by part (`legible_text_of_trap`).  All that its text leaves out is the
  window and the slice flag of an undamaged null handle (`Handle.LooksLike`).
-/
import Std.Data.String.ToInt
import SegmentHeap.Proofs.Trace.Literal
import SegmentHeap.Trap

namespace SegmentHeap

/-! ## Legible writing -/

/-- Whatever stands behind it, what is written tells that it is of the `same`, and where it ends. -/
def Legible {α : Type} (write : α → String) (same : α → α → Prop) : Prop :=
  ∀ ⦃a b : α⦄ ⦃rest rest' : String⦄, write a ++ rest = write b ++ rest' → same a b ∧ rest = rest'

/-- The text begins with a character that is not of the kind. -/
def Stops (kind : Char → Bool) (text : String) : Prop := text.toList.head?.any (!kind ·) = true

instance (kind : Char → Bool) (text : String) : Decidable (Stops kind text) :=
  inferInstanceAs (Decidable (_ = true))

theorem Stops.append {kind : Char → Bool} {text : String} (stops : Stops kind text)
    (rest : String) : Stops kind (text ++ rest) := by
  unfold Stops at stops ⊢
  rw [String.toList_append]
  rcases characters : text.toList with _ | ⟨c, more⟩
  · rw [characters] at stops
    cases stops
  · rwa [characters] at stops

/-- Texts of which none begins the other stay different, whatever follows. -/
theorem append_ne_append {one other : String} (apart : ¬ one.toList <+: other.toList)
    (apart' : ¬ other.toList <+: one.toList) (rest rest' : String) :
    one ++ rest ≠ other ++ rest' := by
  intro together
  have whole := congrArg String.toList together
  rw [String.toList_append, String.toList_append] at whole
  have first : one.toList <+: other.toList ++ rest'.toList := whole ▸ List.prefix_append _ _
  rcases List.prefix_or_prefix_of_prefix first (List.prefix_append _ _) with shorter | longer
  · exact apart shorter
  · exact apart' longer

section

variable {α β : Type} {write tail : α → String} {same same' : α → α → Prop}

theorem legible_text (text : String) : Legible (fun _ : α => text) fun _ _ => True :=
  fun _ _ _ _ together => ⟨trivial, (String.append_right_inj text).1 together⟩

/-- Names are legible if none is the beginning of another. -/
theorem legible_of_prefix (apart : ∀ a b, (write a).toList <+: (write b).toList → a = b) :
    Legible write Eq := by
  intro a b rest rest' together
  by_cases equal : a = b
  · subst equal
    exact ⟨rfl, (String.append_right_inj _).1 together⟩
  · refine absurd together (append_ne_append ?_ ?_ rest rest')
    · exact fun shorter => equal (apart a b shorter)
    · exact fun longer => equal (apart b a longer).symm

theorem Legible.of (legible : Legible write same) (part : β → α) :
    Legible (fun b => write (part b)) fun b b' => same (part b) (part b') :=
  fun _ _ _ _ together => legible together

theorem Legible.append (legible : Legible write same) (legible' : Legible tail same') :
    Legible (fun a => write a ++ tail a) fun a b => same a b ∧ same' a b := by
  intro a b rest rest' together
  rw [String.append_assoc, String.append_assoc] at together
  obtain ⟨equal, together⟩ := legible together
  obtain ⟨equal', ends⟩ := legible' together
  exact ⟨⟨equal, equal'⟩, ends⟩

theorem Legible.after (legible : Legible write same) (text : String) :
    Legible (fun a => text ++ write a) same := by
  intro a b rest rest' together
  rw [String.append_assoc, String.append_assoc] at together
  exact legible ((String.append_right_inj text).1 together)

/-- What consists of characters of one kind is legible if one of another kind follows. -/
theorem Legible.stop {kind : Char → Bool} (legible : Legible tail same')
    (inside : ∀ a, ∀ c ∈ (write a).toList, kind c = true)
    (tells : ∀ {a b}, write a = write b → same a b) (stops : ∀ a, Stops kind (tail a)) :
    Legible (fun a => write a ++ tail a) fun a b => same a b ∧ same' a b := by
  -- what was written is all up to the first character of another kind
  have cut : ∀ a rest, (write a ++ (tail a ++ rest)).toList.takeWhile kind = (write a).toList := by
    intro a rest
    have other := (stops a).append rest
    unfold Stops at other
    rw [String.toList_append, List.takeWhile_append_of_pos (inside a)]
    rcases behind : (tail a ++ rest).toList with _ | ⟨c, more⟩
    · rw [List.takeWhile_nil, List.append_nil]
    · rw [behind] at other
      rw [List.takeWhile_cons_of_neg (by simpa using other), List.append_nil]
  intro a b rest rest' together
  rw [String.append_assoc, String.append_assoc] at together
  have front : write a = write b := by
    rw [← String.toList_inj, ← cut a rest, together, cut b rest']
  rw [front] at together
  obtain ⟨equal', ends⟩ := legible ((String.append_right_inj _).1 together)
  exact ⟨⟨tells front, equal'⟩, ends⟩

/-- Two ways of writing that are never mixed up can be used side by side. -/
theorem Legible.ite {choice : α → Prop} [DecidablePred choice] (legible : Legible write same)
    (legible' : Legible tail same') (apart : ∀ a b rest rest', write a ++ rest ≠ tail b ++ rest') :
    Legible (fun a => if choice a then write a else tail a) fun a b =>
      choice a ∧ choice b ∧ same a b ∨ ¬ choice a ∧ ¬ choice b ∧ same' a b := by
  intro a b rest rest' together
  by_cases chosen : choice a <;> by_cases chosen' : choice b
  · simp only [if_pos chosen, if_pos chosen'] at together
    obtain ⟨equal, ends⟩ := legible together
    exact ⟨Or.inl ⟨chosen, chosen', equal⟩, ends⟩
  · simp only [if_pos chosen, if_neg chosen'] at together
    exact absurd together (apart a b rest rest')
  · simp only [if_neg chosen, if_pos chosen'] at together
    exact absurd together.symm (apart b a rest' rest)
  · simp only [if_neg chosen, if_neg chosen'] at together
    obtain ⟨equal, ends⟩ := legible' together
    exact ⟨Or.inr ⟨chosen, chosen', equal⟩, ends⟩

end

/-! ## Numbers -/

/-- The characters that numbers are written with, in any base and with a minus sign. -/
def inNumber (c : Char) : Bool := c.isAlphanum || c == '-'

theorem inNumber_of_digits {base n : Nat} {cs : List Char} (digits : Numeral.Digits base n cs)
    (small : base ≤ 16) : ∀ c ∈ cs, inNumber c = true := by
  intro c listed
  rw [inNumber, (digits.char small c listed).1, Bool.true_or]

theorem inNumber_of_repr (n : Nat) : ∀ c ∈ n.repr.toList, inNumber c = true := by
  rw [Nat.repr_eq_ofList_toDigits, String.toList_ofList]
  exact inNumber_of_digits (Numeral.digits_toDigits (by decide) n) (by decide)

theorem inNumber_of_int (i : Int) : ∀ c ∈ i.repr.toList, inNumber c = true := by
  rw [Int.repr_eq_if]
  split
  · exact inNumber_of_repr _
  · rw [String.toList_append]
    exact List.forall_mem_append.2 ⟨List.all_eq_true.1 (by decide), inNumber_of_repr _⟩

theorem inNumber_of_hex (n : Nat) : ∀ c ∈ (Numeral.hex n).toList, inNumber c = true := by
  rw [Numeral.hex, String.toList_append]
  refine List.forall_mem_append.2 ⟨List.all_eq_true.1 (by decide), ?_⟩
  rw [String.toList_ofList]
  exact inNumber_of_digits (Numeral.digits_toDigits (by decide) n) (Nat.le_refl 16)

/-- Hexadecimal digits are read back, so they tell the number. -/
theorem Numeral.hex_inj {m n : Nat} (same : hex m = hex n) : m = n := by
  have value (n : Nat) : read? 16 (Nat.toDigits 16 n) = some n :=
    (digits_toDigits (by decide) n).read? (Nat.le_refl 16)
  have digits := String.ofList_injective ((String.append_right_inj "0x").1 same)
  exact Option.some.inj ((value m).symm.trans ((congrArg (read? 16) digits).trans (value n)))

section

variable {α : Type} {tail : α → String} {same : α → α → Prop}

/-- A number is legible with another sign behind it. -/
theorem Legible.nat (legible : Legible tail same) (number : α → UInt32)
    (stops : ∀ a, Stops inNumber (tail a)) :
    Legible (fun a => (number a).toNat.repr ++ tail a) fun a b =>
      number a = number b ∧ same a b :=
  legible.stop (fun _ => inNumber_of_repr _)
    (fun equal => UInt32.toNat_inj.1 (Nat.repr_inj.1 equal)) stops

theorem Legible.hex (legible : Legible tail same) (number : α → UInt32)
    (stops : ∀ a, Stops inNumber (tail a)) :
    Legible (fun a => Numeral.hex (number a).toNat ++ tail a) fun a b =>
      number a = number b ∧ same a b :=
  legible.stop (fun _ => inNumber_of_hex _)
    (fun equal => UInt32.toNat_inj.1 (Numeral.hex_inj equal)) stops

theorem Legible.int (legible : Legible tail same) (number : α → Int32)
    (stops : ∀ a, Stops inNumber (tail a)) :
    Legible (fun a => (number a).toInt.repr ++ tail a) fun a b =>
      number a = number b ∧ same a b :=
  legible.stop (fun _ => inNumber_of_int _)
    (fun equal => Int32.toInt_inj.1 (Int.repr_inj.1 equal)) stops

end

/-! ## Handles -/

namespace Handle

/-- How the two flags are shown, at the end of a handle. -/
def flagText (corrupted sliced : Bool) : String :=
  (if corrupted then ", corrupted" else "") ++ ((if sliced then ", slice" else "") ++ ")")

/-- What a handle shows that is damaged or not null. -/
def fullText (handle : Handle) : String :=
  "handle(key " ++ (Numeral.hex handle.key.toNat ++ (", window " ++ ("[" ++
    (handle.window.base.toNat.repr ++ (", " ++ (handle.window.bound.toNat.repr ++ ("), " ++
      ("offset " ++ (handle.offset.toInt.repr ++ flagText handle.corrupted handle.sliced)))))))))

/-- What an undamaged null handle shows. -/
def nullText (handle : Handle) : String :=
  "handle(null, offset " ++ (handle.offset.toInt.repr ++ ")")

/-- The handle is an undamaged null handle. -/
def IsPlainNull (handle : Handle) : Prop := handle.key = 0 ∧ handle.corrupted = false

instance : DecidablePred IsPlainNull := fun handle =>
  inferInstanceAs (Decidable (handle.key = 0 ∧ handle.corrupted = false))

theorem text_eq (handle : Handle) :
    handle.text = if handle.IsPlainNull then handle.nullText else handle.fullText := by
  unfold text
  by_cases plain : handle.IsPlainNull
  · have chosen : (handle.isNull && !handle.corrupted) = true := by
      rw [isNull, plain.1, plain.2]
      rfl
    rewrite [if_pos plain, if_pos chosen]
    exact String.append_assoc
  · have chosen : ¬ (handle.isNull && !handle.corrupted) = true := by
      simpa [IsPlainNull, isNull] using plain
    rewrite [if_neg plain, if_neg chosen]
    simp only [fullText, flagText, ToString.toString, String.append_assoc]

theorem legible_flagText :
    Legible (fun handle : Handle => flagText handle.corrupted handle.sliced) fun a b =>
      a.corrupted = b.corrupted ∧ a.sliced = b.sliced := by
  have apart : ∀ corrupted sliced corrupted' sliced' : Bool,
      (flagText corrupted sliced).toList <+: (flagText corrupted' sliced').toList →
        (corrupted, sliced) = (corrupted', sliced') := by
    decide
  have legible : Legible (fun flags : Bool × Bool => flagText flags.1 flags.2) Eq :=
    legible_of_prefix fun flags flags' => apart flags.1 flags.2 flags'.1 flags'.2
  intro a b rest rest' together
  obtain ⟨equal, ends⟩ :=
    legible.of (fun handle : Handle => (handle.corrupted, handle.sliced)) together
  injection equal with corrupted sliced
  exact ⟨⟨corrupted, sliced⟩, ends⟩

theorem stops_flagText (corrupted sliced : Bool) : Stops inNumber (flagText corrupted sliced) := by
  revert corrupted sliced
  decide

/-- The two handles show the same.  All but the window and the slice flag of an undamaged null
    handle is shown. -/
structure LooksLike (one other : Handle) : Prop where
  key : one.key = other.key
  offset : one.offset = other.offset
  corrupted : one.corrupted = other.corrupted
  rest : one.IsPlainNull ∨ one.window = other.window ∧ one.sliced = other.sliced

/-- A comma or a bracket ends a number. -/
theorem legible_text_of_handle : Legible text LooksLike := by
  -- from the end to the beginning: each part is legible in front of those behind it
  have null : Legible nullText fun a b => a.offset = b.offset ∧ True :=
    ((legible_text ")").int offset fun _ => by decide).after "handle(null, offset "
  have offset := legible_flagText.int offset fun handle => stops_flagText _ _
  have bound := ((offset.after "offset ").after "), ").nat (·.window.bound) fun _ =>
    Stops.append (by decide) _
  have base := (bound.after ", ").nat (·.window.base) fun _ => Stops.append (by decide) _
  have full : Legible fullText _ :=
    (((base.after "[").after ", window ").hex key fun _ =>
      Stops.append (by decide) _).after "handle(key "
  have apart : ∀ (a b : Handle) rest rest', a.nullText ++ rest ≠ b.fullText ++ rest' := by
    intro a b rest rest'
    unfold nullText fullText
    simp only [String.append_assoc]
    exact append_ne_append (by decide) (by decide) _ _
  intro a b rest rest' together
  rw [text_eq, text_eq] at together
  obtain ⟨⟨plain, plain', offset, _⟩ | ⟨_, _, key, base, bound, offset, corrupted, sliced⟩, ends⟩ :=
    null.ite full apart together
  · exact ⟨⟨plain.1.trans plain'.1.symm, offset, plain.2.trans plain'.2.symm, Or.inl plain⟩, ends⟩
  · have window : a.window = b.window := (Window.mk.injEq ..).mpr ⟨base, bound⟩
    exact ⟨⟨key, offset, corrupted, Or.inr ⟨window, sliced⟩⟩, ends⟩

theorem LooksLike.text_eq {one other : Handle} (alike : LooksLike one other) :
    one.text = other.text := by
  obtain ⟨key, offset, corrupted, plain | ⟨window, sliced⟩⟩ := alike
  · have plain' : other.IsPlainNull := ⟨key ▸ plain.1, corrupted ▸ plain.2⟩
    rw [Handle.text_eq, Handle.text_eq, if_pos plain, if_pos plain']
    unfold nullText
    rw [offset]
  · have same : one = other := by
      cases one
      cases other
      simp_all
    rw [same]

end Handle

/-! ## Places and operations -/

namespace Location

/-- What is shown of a known place, with the colon that ends it. -/
def knownText (location : Location) : String :=
  "func[" ++ (location.func.toNat.repr ++ ("]+" ++ (Numeral.hex location.offset.toNat ++ ": ")))

theorem text_append (location : Location) :
    location.text ++ ": " =
      if location = unknown then "<unknown>: " else location.knownText := by
  unfold text
  by_cases lost : location = unknown
  · rewrite [if_pos lost, if_pos lost]
    rfl
  · rewrite [if_neg lost, if_neg lost]
    simp only [knownText, ToString.toString, String.append_assoc]

theorem legible_text_append : Legible (fun location : Location => location.text ++ ": ") Eq := by
  have offset := (legible_text ": ").hex Location.offset fun _ => by decide
  have func := (offset.after "]+").nat Location.func fun _ => Stops.append (by decide) _
  have known : Legible knownText _ := func.after "func["
  have apart : ∀ (a b : Location) rest rest', "<unknown>: " ++ rest ≠ b.knownText ++ rest' := by
    intro a b rest rest'
    unfold knownText
    simp only [String.append_assoc]
    exact append_ne_append (by decide) (by decide) _ _
  have either : Legible
      (fun location => if location = unknown then "<unknown>: " else location.knownText) _ :=
    (legible_text "<unknown>: ").ite known apart
  intro a b rest rest' together
  simp only [text_append] at together
  obtain ⟨⟨lost, lost', _⟩ | ⟨_, _, func, offset, _⟩, ends⟩ := either together
  · exact ⟨lost.trans lost'.symm, ends⟩
  · exact ⟨(Location.mk.injEq ..).mpr ⟨func, offset⟩, ends⟩

end Location

namespace Operation

/-- All operations that can trap. -/
def all : List Operation :=
  [alloc, free, slice, grow, copy, flatten] ++ LoadOp.all.map load ++ StoreOp.all.map store

theorem mem_all (op : Operation) : op ∈ all := by
  cases op with
  | load op => simp [all, LoadOp.mem_all op]
  | store op => simp [all, StoreOp.mem_all op]
  | _ => simp [all]

theorem name_inj {one other : Operation} (same : one.name = other.name) : one = other := by
  have apart : ∀ one ∈ all, ∀ other ∈ all, one.name = other.name → one = other := by decide +kernel
  exact apart one one.mem_all other other.mem_all same

/-- No name has a space in it. -/
theorem ne_space_of_mem_name (op : Operation) : ∀ c ∈ op.name.toList, (c != ' ') = true := by
  have all : ∀ op ∈ all, op.name.toList.all (· != ' ') = true := by decide +kernel
  exact List.all_eq_true.1 (all op op.mem_all)

end Operation

/-! ## Traps -/

theorem legible_fault : Legible Fault.text Eq := by
  refine legible_of_prefix fun one other => ?_
  cases one <;> cases other <;> decide

namespace Trap

theorem text_eq (trap : Trap) :
    trap.text =
      trap.fault.text ++ (" in " ++ (trap.operation.name ++ (" at " ++
        (trap.location.text ++ ": " ++ (trap.handle.text ++ (", " ++ ("access of " ++
          (trap.size.toNat.repr ++ " bytes")))))))) := by
  unfold text
  simp only [ToString.toString, String.append_assoc]

/-- The text of a trap tells all of the trap that it shows. -/
theorem legible_text_of_trap : Legible text fun one other =>
    one.fault = other.fault ∧ one.operation = other.operation ∧ one.location = other.location ∧
      one.handle.LooksLike other.handle ∧ one.size = other.size := by
  have size := (legible_text " bytes").nat size fun _ => by decide
  have handle := (Handle.legible_text_of_handle.of handle).append
    ((size.after "access of ").after ", ")
  have location := (Location.legible_text_append.of location).append handle
  have operation := (location.after " at ").stop (fun trap => trap.operation.ne_space_of_mem_name)
    Operation.name_inj fun _ => Stops.append (by decide) _
  have fault := (legible_fault.of fault).append (operation.after " in ")
  intro a b rest rest' together
  rw [text_eq, text_eq] at together
  obtain ⟨⟨fault, operation, location, handle, size, _⟩, ends⟩ := fault together
  exact ⟨⟨fault, operation, location, handle, size⟩, ends⟩

/-- Two traps have the same text just if all is the same that it shows. -/
theorem text_eq_iff {one other : Trap} :
    one.text = other.text ↔
      one.fault = other.fault ∧ one.operation = other.operation ∧ one.location = other.location ∧
        one.handle.LooksLike other.handle ∧ one.size = other.size := by
  constructor
  · intro same
    exact (legible_text_of_trap (congrArg (· ++ "") same)).1
  · rintro ⟨fault, operation, location, handle, size⟩
    rw [text_eq, text_eq, fault, operation, location, handle.text_eq, size]

end Trap

end SegmentHeap
