import RegisterMap.Proofs.WriteMask

/-!
The three declarations of a field side by side. The mask takes the offset modulo 32, the setter
shifts by the offset as it stands, so that they meet just for the offsets inside a word: there the
mask is what the setter makes of a setting with all bits set. For every other offset the setter has
shifted all bits out of the word, and the mask is the one of the offset's remainder.
-/

set_option autoImplicit false

namespace RegisterMap

open Numeral (maxWord)

/-- The word that a setter makes of a setting: the bits under the mask, shifted to the offset. -/
def setterWord (valueMask offset setting : Nat) : Nat :=
  ((setting &&& valueMask) <<< offset) % 2 ^ 32

namespace Field

/-- The name of the field in its declarations. -/
def fullName (f : Field) : Text := Zig.joined [f.peripheralName, f.registerName, f.name]

/-- The field is declared by its offset, its mask and a setter that uses this mask of its value. -/
def Declares (f : Field) (offset mask valueMask : Nat) : Prop :=
  Zig.ofField f =
    pure [Zig.described f.description, .fieldOffset f.fullName (.int offset),
      .fieldMask f.fullName mask, .fieldSetter f.fullName valueMask (.int offset)]

end Field

/-! ## The words of a setter -/

theorem testBit_setterWord (offset width setting i : Nat) :
    (setterWord (2 ^ bitsOfWidth width - 1) offset setting).testBit i = true ↔
      i < 32 ∧ offset ≤ i ∧ i < offset + bitsOfWidth width ∧
        setting.testBit (i - offset) = true := by
  simp only [setterWord, Nat.testBit_mod_two_pow, Nat.testBit_shiftLeft, Nat.testBit_and,
    Nat.testBit_two_pow_sub_one, Bool.and_eq_true, decide_eq_true_eq]
  constructor
  · rintro ⟨inWord, after, set, inside⟩
    exact ⟨inWord, after, by omega, set⟩
  · rintro ⟨inWord, after, before, set⟩
    exact ⟨inWord, after, set, by omega⟩

theorem testBit_maxWord (i : Nat) : maxWord.testBit i = true ↔ i < 32 := by
  have word : maxWord = 2 ^ 32 - 1 := rfl
  rw [word, Nat.testBit_two_pow_sub_one, decide_eq_true_eq]

/-- An offset inside the word leaves every bit of the mask to the setter. -/
theorem setterWord_maxWord {offset : Nat} (inWord : offset < 32) (width : Nat) :
    setterWord (2 ^ bitsOfWidth width - 1) offset maxWord = placedBits offset width := by
  apply Nat.eq_of_testBit_eq
  intro i
  rw [Bool.eq_iff_iff, testBit_setterWord, testBit_placedBits, testBit_maxWord,
    Nat.mod_eq_of_lt inWord]
  omega

theorem setterWord_of_le {offset : Nat} (beyond : 32 ≤ offset) (width setting : Nat) :
    setterWord (2 ^ bitsOfWidth width - 1) offset setting = 0 := by
  rw [eq_zero_iff_no_bit (testBit_setterWord offset width setting)]
  rintro ⟨i, inWord, after, -⟩
  omega

/-- The mask is the same for all offsets of one remainder. -/
theorem placedBits_mod (offset width : Nat) :
    placedBits (offset % 32) width = placedBits offset width := by
  rw [placedBits, placedBits, Nat.mod_mod]

theorem placedBits_ne_zero (offset width : Nat) : placedBits offset width ≠ 0 := by
  intro empty
  have positive := bitsOfWidth_pos width
  have first := (testBit_placedBits offset width (offset % 32)).mpr (by omega)
  rw [empty, Nat.zero_testBit] at first
  cases first

/-! ## The declarations -/

namespace Field

variable {f : Field} {offset width : Nat}

theorem declares (named : f.name.isNothing = false) (placed : f.bitOffset = .int offset)
    (wide : f.bitWidth = .int width) :
    f.Declares offset (placedBits offset width) (2 ^ bitsOfWidth width - 1) := by
  have complete : f.isComplete = true := by
    simp [isComplete, named, placed, wide, Value.isNull]
  rw [Declares, Zig.ofField, if_neg (by simp [named]), if_pos complete, Zig.fieldSection,
    mask_eq placed wide, pure_bind, valueMask_eq wide, pure_bind, placed]
  rfl

/-- No setting gives a bit outside the mask. For an offset inside the word the mask has exactly the
bits that settings can give, and these are at the offset or above it; for any other offset the
setter gives no bit at all, and the mask is the one of the offset modulo 32. -/
theorem setter_stays_in_mask (named : f.name.isNothing = false) (placed : f.bitOffset = .int offset)
    (wide : f.bitWidth = .int width) :
    ∃ mask valueMask : Nat, f.Declares offset mask valueMask ∧
      (∀ setting i, (setterWord valueMask offset setting).testBit i = true →
        mask.testBit i = true) ∧
      (offset < 32 → setterWord valueMask offset maxWord = mask ∧
        ∀ i, mask.testBit i = true ↔ offset ≤ i ∧
          ∃ setting ≤ maxWord, (setterWord valueMask offset setting).testBit i = true) ∧
      (32 ≤ offset → (∀ setting, setterWord valueMask offset setting = 0) ∧
        mask = setterWord valueMask (offset % 32) maxWord ∧ mask ≠ 0) := by
  refine ⟨_, _, declares named placed wide, ?_, ?_, ?_⟩
  · intro setting i set
    obtain ⟨inWord, after, before, -⟩ := (testBit_setterWord offset width setting i).mp set
    have remainder : offset % 32 = offset := Nat.mod_eq_of_lt (by omega)
    rw [testBit_placedBits, remainder]
    exact ⟨inWord, after, before⟩
  · intro inWord
    have all := setterWord_maxWord inWord width
    refine ⟨all, fun i => ⟨fun set => ?_, ?_⟩⟩
    · have given := set
      rw [testBit_placedBits, Nat.mod_eq_of_lt inWord] at given
      exact ⟨given.2.1, maxWord, le_rfl, all ▸ set⟩
    · rintro ⟨after, setting, -, set⟩
      obtain ⟨small, -, before, -⟩ := (testBit_setterWord offset width setting i).mp set
      rw [testBit_placedBits, Nat.mod_eq_of_lt inWord]
      exact ⟨small, after, before⟩
  · intro beyond
    refine ⟨setterWord_of_le beyond width, ?_, placedBits_ne_zero offset width⟩
    rw [setterWord_maxWord (Nat.mod_lt offset (by omega)), placedBits_mod]

/-- A field of one bit that is said to stand right behind the word. -/
def behindWord : Field where
  name := .ofString "F"
  bitOffset := .int 32
  bitWidth := .int 1

theorem setter_stays_in_mask_behindWord :
    ∃ mask valueMask : Nat, behindWord.Declares 32 mask valueMask ∧
      (∀ setting, setterWord valueMask 32 setting = 0) ∧ mask ≠ 0 := by
  have placed : behindWord.bitOffset = .int (32 : Nat) := rfl
  have wide : behindWord.bitWidth = .int (1 : Nat) := rfl
  obtain ⟨mask, valueMask, declared, -, -, beyond⟩ := setter_stays_in_mask rfl placed wide
  obtain ⟨shifted, -, some⟩ := beyond le_rfl
  exact ⟨mask, valueMask, declared, shifted, some⟩

/-- Behind the word the mask has a bit that no setting gives. -/
theorem mask_exceeds_setter :
    ¬ ∀ (f : Field) (offset width : Nat), offset ≤ maxWord → width ≤ maxWord →
      f.name.isNothing = false → f.bitOffset = .int offset → f.bitWidth = .int width →
        ∃ mask valueMask : Nat, f.Declares offset mask valueMask ∧
          (∀ setting ≤ maxWord, ∀ i, (setterWord valueMask offset setting).testBit i = true →
            mask.testBit i = true) ∧
          setterWord valueMask offset maxWord = mask := by
  intro agrees
  obtain ⟨mask, valueMask, declared, -, all⟩ :=
    agrees behindWord 32 1 (by decide) (by decide) rfl rfl rfl
  have known : behindWord.Declares 32 (placedBits 32 1) (2 ^ bitsOfWidth 1 - 1) :=
    declares rfl rfl rfl
  have same := pure_masking_inj (declared.symm.trans known)
  simp only [List.cons.injEq, Zig.Declaration.fieldMask.injEq, Zig.Declaration.fieldSetter.injEq,
    true_and, and_true] at same
  rw [same.1, same.2, setterWord_of_le le_rfl] at all
  exact placedBits_ne_zero 32 1 all.symm

end Field

end RegisterMap
