import Mathlib.Data.Nat.Bitwise
import RegisterMap.Proofs.Rendering

/-!
Masks bit by bit. A field takes as many bits as it is wide, from its offset modulo 32 on, and no
bit beyond its register; a width of no bits or of more than 32 stands for all 32. The write mask of
a register is made up of the bits of those fields that can be written and have both an offset and a
width. Each of them has at least one bit in the register, so the mask is empty only without them.
-/

set_option autoImplicit false

namespace RegisterMap

/-- Not set, or a whole number that is not negative. -/
def Value.MaybeNatural (v : Value) : Prop := v = .null ∨ ∃ n : Nat, v = .int n

/-- The number of bits that a width stands for. -/
def bitsOfWidth (width : Nat) : Nat := if 1 ≤ width ∧ width ≤ 32 then width else 32

/-- The offset and the width of the field can be measured. -/
structure Field.Measured (f : Field) : Prop where
  offset : f.bitOffset.MaybeNatural
  width : f.bitWidth.MaybeNatural

/-- The field has an offset and a width, and the bit is among those that it takes. -/
def Field.Takes (f : Field) (i : Nat) : Prop :=
  ∃ offset width : Nat, f.bitOffset = .int offset ∧ f.bitWidth = .int width ∧
    offset % 32 ≤ i ∧ i < offset % 32 + bitsOfWidth width

/-- The field can be written and has both an offset and a width. -/
def Field.Writable (f : Field) : Prop :=
  f.access ≠ .readOnly ∧ f.bitOffset ≠ .null ∧ f.bitWidth ≠ .null

/-- The word in which a field of this offset and width has its bits set. -/
def placedBits (offset width : Nat) : Nat :=
  (2 ^ bitsOfWidth width - 1) <<< (offset % 32) % 2 ^ 32

/-! ## Fields -/

theorem testBit_placedBits (offset width i : Nat) :
    (placedBits offset width).testBit i = true ↔
      i < 32 ∧ offset % 32 ≤ i ∧ i < offset % 32 + bitsOfWidth width := by
  simp only [placedBits, Nat.testBit_mod_two_pow, Nat.testBit_shiftLeft,
    Nat.testBit_two_pow_sub_one, Bool.and_eq_true, decide_eq_true_eq]
  omega

theorem bitsOfWidth_pos (width : Nat) : 0 < bitsOfWidth width := by
  unfold bitsOfWidth
  split <;> omega

theorem lowMask_natural (width : Nat) : lowMask width = .ok (2 ^ bitsOfWidth width - 1) := by
  have nonnegative : ¬ (width : Int) < 0 := by omega
  rw [lowMask, if_neg nonnegative, bitsOfWidth]
  by_cases whole : (width : Int) = 0 ∨ (wordBits : Int) < width
  · have outside : ¬ (1 ≤ width ∧ width ≤ 32) := by
      simp only [wordBits] at whole
      omega
    rw [if_pos whole, if_neg outside]
    rfl
  · have inside : 1 ≤ width ∧ width ≤ 32 := by
      simp only [wordBits] at whole
      omega
    rw [if_neg whole, if_pos inside, Int.toNat_natCast]
    rfl

theorem shiftOfOffset_natural (offset : Nat) : shiftOfOffset (.int offset) = .ok (offset % 32) := by
  unfold shiftOfOffset
  split
  case isTrue nothing =>
    have zero : offset = 0 := by
      cases offset with
      | zero => rfl
      | succ n => cases nothing
    rw [zero]
  case isFalse => rfl

section

variable {f : Field} {offset width : Nat}

theorem Field.valueMask_eq (wide : f.bitWidth = .int width) :
    f.valueMask = pure (2 ^ bitsOfWidth width - 1) := by
  have known : f.bitWidth.orElse (.int 0) = .int width := by
    rw [wide]
    cases width <;> rfl
  rw [valueMask, known]
  change (liftM (lowMask width) : Masking Nat) = _
  rw [lowMask_natural]
  rfl

theorem Field.mask_eq (placed : f.bitOffset = .int offset) (wide : f.bitWidth = .int width) :
    f.mask = pure (placedBits offset width) := by
  rw [mask, valueMask_eq wide, pure_bind, placed, shiftOfOffset_natural]
  rfl

theorem Field.isWritten_iff : f.isWritten = true ↔ f.Writable := by
  simp only [isWritten, Writable, Access.writable, Bool.and_eq_true, Bool.not_eq_true',
    ← Bool.not_eq_true, Value.isNull_iff, decide_eq_true_eq]
  exact ⟨fun ⟨⟨placed, wide⟩, access⟩ => ⟨access, placed, wide⟩,
    fun ⟨access, placed, wide⟩ => ⟨⟨placed, wide⟩, access⟩⟩

/-- A field that can be measured and is written has an offset and a width. -/
theorem Field.Measured.numbers (measured : f.Measured) (writable : f.Writable) :
    ∃ offset width : Nat, f.bitOffset = .int offset ∧ f.bitWidth = .int width := by
  obtain ⟨-, placed, wide⟩ := writable
  obtain ⟨offset, known⟩ := measured.offset.resolve_left placed
  obtain ⟨width, given⟩ := measured.width.resolve_left wide
  exact ⟨offset, width, known, given⟩

/-- The mask of a measured field that is written, bit by bit. -/
theorem Field.Measured.mask (measured : f.Measured) (writable : f.Writable) :
    ∃ word : Nat, f.mask = pure word ∧ ∀ i, word.testBit i = true ↔ i < 32 ∧ f.Takes i := by
  obtain ⟨offset, width, placed, wide⟩ := measured.numbers writable
  refine ⟨placedBits offset width, mask_eq placed wide, fun i => ?_⟩
  rw [testBit_placedBits]
  constructor
  · rintro ⟨inWord, after, before⟩
    exact ⟨inWord, offset, width, placed, wide, after, before⟩
  · rintro ⟨inWord, o, w, placedAt, wideness, after, before⟩
    obtain rfl : offset = o := by simpa [placed] using placedAt
    obtain rfl : width = w := by simpa [wide] using wideness
    exact ⟨inWord, after, before⟩

/-- A field that takes a bit has an offset and a width. -/
theorem Field.Takes.writable {i : Nat} (takes : f.Takes i) (access : f.access ≠ .readOnly) :
    f.Writable := by
  obtain ⟨offset, width, placed, wide, -⟩ := takes
  exact ⟨access, by simp [placed], by simp [wide]⟩

/-- A field takes the bit at which it begins, and this one is in its register. -/
theorem Field.Measured.takes (measured : f.Measured) (writable : f.Writable) :
    ∃ i, i < 32 ∧ f.Takes i := by
  obtain ⟨offset, width, placed, wide⟩ := measured.numbers writable
  have some := bitsOfWidth_pos width
  exact ⟨offset % 32, Nat.mod_lt _ (by omega), offset, width, placed, wide, by omega, by omega⟩

end

/-! ## Registers -/

theorem eq_zero_iff_no_bit {word : Nat} {holds : Nat → Prop}
    (bits : ∀ i, word.testBit i = true ↔ holds i) : word = 0 ↔ ¬ ∃ i, holds i := by
  constructor
  · rintro rfl ⟨i, held⟩
    have set := (bits i).mpr held
    rw [Nat.zero_testBit] at set
    cases set
  · intro none
    by_contra some
    obtain ⟨i, set⟩ := Nat.exists_testBit_of_ne_zero some
    exact none ⟨i, (bits i).mp set⟩

/-- A bit is set if it was set before, or if one of the fields takes it. -/
theorem testBit_foldlM_mask {fields : List Field} (start : Nat)
    (measured : ∀ f ∈ fields, f.Measured ∧ f.Writable) :
    ∃ word : Nat,
      fields.foldlM (fun bits f => return bits ||| (← f.mask)) start = (pure word : Masking Nat) ∧
        ∀ i, word.testBit i = true ↔
          start.testBit i = true ∨ i < 32 ∧ ∃ f ∈ fields, f.Takes i := by
  induction fields generalizing start with
  | nil => exact ⟨start, rfl, by simp⟩
  | cons f rest ih =>
    obtain ⟨known, writable⟩ := measured f List.mem_cons_self
    obtain ⟨mask, made, bits⟩ := known.mask writable
    obtain ⟨word, others, all⟩ :=
      ih (start ||| mask) fun g member => measured g (List.mem_cons_of_mem f member)
    refine ⟨word, ?_, fun i => ?_⟩
    · rw [List.foldlM_cons, made, pure_bind, pure_bind]
      exact others
    · rw [all, Nat.testBit_or, Bool.or_eq_true, bits, List.exists_mem_cons_iff]
      tauto

namespace Register

def Measured (x : Register) : Prop := ∀ f ∈ x.fields, f.Measured

/-- A field that can be written takes the bit. -/
def Writes (x : Register) (i : Nat) : Prop := ∃ f ∈ x.fields, f.access ≠ .readOnly ∧ f.Takes i

variable {x y : Register}

theorem Measured.writeMask (measured : x.Measured) :
    ∃ word : Nat, x.writeMask = pure word ∧
      ∀ i, word.testBit i = true ↔ i < 32 ∧ x.Writes i := by
  have written : ∀ f ∈ x.fields.filter Field.isWritten, f.Measured ∧ f.Writable := by
    intro f member
    obtain ⟨listed, written⟩ := List.mem_filter.mp member
    exact ⟨measured f listed, Field.isWritten_iff.mp written⟩
  obtain ⟨word, made, bits⟩ := testBit_foldlM_mask 0 written
  refine ⟨word, made, fun i => ?_⟩
  rw [bits, Nat.zero_testBit]
  constructor
  · rintro (none | ⟨inWord, f, member, takes⟩)
    · cases none
    · obtain ⟨access, -⟩ := (written f member).2
      exact ⟨inWord, f, (List.mem_filter.mp member).1, access, takes⟩
  · rintro ⟨inWord, f, listed, access, takes⟩
    have writable : f.Writable := takes.writable access
    exact .inr ⟨inWord, f, List.mem_filter.mpr ⟨listed, Field.isWritten_iff.mpr writable⟩, takes⟩

/-- No bit beyond the word is needed to tell whether a register can be written. -/
theorem Measured.exists_writes_iff (measured : x.Measured) :
    (∃ i, i < 32 ∧ x.Writes i) ↔ ∃ f ∈ x.fields, f.Writable := by
  constructor
  · rintro ⟨i, -, f, listed, access, takes⟩
    exact ⟨f, listed, takes.writable access⟩
  · rintro ⟨f, listed, writable⟩
    obtain ⟨i, inWord, takes⟩ := (measured f listed).takes writable
    exact ⟨i, inWord, f, listed, writable.1, takes⟩

theorem Writes.mono {i : Nat} (more : x.fields ⊆ y.fields) (writes : x.Writes i) : y.Writes i := by
  obtain ⟨f, listed, takes⟩ := writes
  exact ⟨f, more listed, takes⟩

/-- The write mask has exactly the bits of the fields that can be written. So it is the same for
every order and repetition of the fields, loses no bit to a further field, and is empty only if no
field with an offset and a width can be written. Just then, or when it is declared so, the register
is read only. -/
theorem writeMask_exact (x : Register) (measured : x.Measured) :
    ∃ word : Nat, x.writeMask = pure word ∧
      (∀ i, word.testBit i = true ↔ i < 32 ∧ x.Writes i) ∧
      (∀ y : Register, (∀ f, f ∈ y.fields ↔ f ∈ x.fields) → y.writeMask = pure word) ∧
      (∀ y : Register, y.Measured → x.fields ⊆ y.fields → ∃ more : Nat,
        y.writeMask = pure more ∧ ∀ i, word.testBit i = true → more.testBit i = true) ∧
      (word = 0 ↔ ¬ ∃ f ∈ x.fields, f.Writable) ∧
      ∃ access : Access, x.effectiveAccess = pure access ∧
        (access = .readOnly ↔ (¬ ∃ f ∈ x.fields, f.Writable) ∨ x.access = .readOnly) ∧
        (access ≠ .readOnly → access = x.access) := by
  obtain ⟨word, made, bits⟩ := measured.writeMask
  have empty : word = 0 ↔ ¬ ∃ f ∈ x.fields, f.Writable := by
    rw [← measured.exists_writes_iff]
    exact eq_zero_iff_no_bit bits
  refine ⟨word, made, bits, ?_, ?_, empty, ?_⟩
  · intro y same
    have others : y.Measured := fun f listed => measured f ((same f).mp listed)
    obtain ⟨again, madeAgain, bitsAgain⟩ := others.writeMask
    have equal : again = word := by
      apply Nat.eq_of_testBit_eq
      intro i
      rw [Bool.eq_iff_iff, bits, bitsAgain]
      have writes : y.Writes i ↔ x.Writes i :=
        ⟨Writes.mono fun f => (same f).mp, Writes.mono fun f => (same f).mpr⟩
      rw [writes]
    rw [madeAgain, equal]
  · intro y others more
    obtain ⟨wider, madeWider, bitsWider⟩ := others.writeMask
    refine ⟨wider, madeWider, fun i set => ?_⟩
    obtain ⟨inWord, writes⟩ := (bits i).mp set
    exact (bitsWider i).mpr ⟨inWord, writes.mono more⟩
  · refine ⟨if word = 0 then .readOnly else x.access, ?_, ?_⟩
    · rw [effectiveAccess, made]
      rfl
    · rw [← empty]
      by_cases none : word = 0
      · simp [none]
      · simp [none]

/-- Fields of all kinds: one inside the word, one that goes beyond it, one that cannot be written,
and one without an offset. -/
def mixedFields : Register where
  fields := [{ bitOffset := .int 4, bitWidth := .int 3 },
    { bitOffset := .int 62, bitWidth := .int 40, access := .writeOnly },
    { bitOffset := .int 8, bitWidth := .int 0, access := .readOnly },
    { bitWidth := .int 2 }]

theorem writeMask_exact_mixedFields :
    mixedFields.Measured ∧ mixedFields.writeMask = pure 0xC0000070 ∧
      ∀ i, (0xC0000070 : Nat).testBit i = true ↔ i < 32 ∧ mixedFields.Writes i := by
  have measured : mixedFields.Measured := by
    intro f listed
    simp only [mixedFields, List.mem_cons, List.not_mem_nil, or_false] at listed
    rcases listed with rfl | rfl | rfl | rfl
    · exact ⟨.inr ⟨4, rfl⟩, .inr ⟨3, rfl⟩⟩
    · exact ⟨.inr ⟨62, rfl⟩, .inr ⟨40, rfl⟩⟩
    · exact ⟨.inr ⟨8, rfl⟩, .inr ⟨0, rfl⟩⟩
    · exact ⟨.inl rfl, .inr ⟨2, rfl⟩⟩
  obtain ⟨word, made, bits, -⟩ := writeMask_exact mixedFields measured
  have value : (pure word : Masking Nat) = pure 0xC0000070 := made.symm.trans rfl
  obtain rfl : word = 0xC0000070 := Except.ok.inj (congrArg Prod.fst (congrFun value []))
  exact ⟨measured, made, bits⟩

end Register

end RegisterMap
