import RegisterMap.Proofs.Numeral.Positional
import RegisterMap.Proofs.WriteMask
import RegisterMap.Proofs.Zig.Sections

/-!
The accessors of a register. Writing is offered just if the register is not declared read only and
some field of it can be written; reading is offered just if the register is not declared write only
or no field can be written, so that there is always one of the two. What a writer lets through are
the bits of the fields that can be written, whether these are declared themselves or not.
-/

set_option autoImplicit false

namespace RegisterMap

open Numeral (hexadecimal? hexadecimal?_hexText maxWord)

/-! ## The write mask as a union -/

namespace Register

/-- The register has a field that can be written. -/
def HasWritable (x : Register) : Prop := ∃ f ∈ x.fields, f.Writable

/-- A field that can be written has the bit in its mask. -/
def Masks (x : Register) (i : Nat) : Prop :=
  ∃ f ∈ x.fields, f.Writable ∧ ∃ part : Nat, f.mask = pure part ∧ part.testBit i = true

variable {x : Register}

theorem Measured.masks_iff (measured : x.Measured) (i : Nat) :
    x.Masks i ↔ i < 32 ∧ x.Writes i := by
  constructor
  · rintro ⟨f, listed, writable, part, made, set⟩
    obtain ⟨known, same, bits⟩ := (measured f listed).mask writable
    obtain rfl := pure_masking_inj (made.symm.trans same)
    obtain ⟨inWord, takes⟩ := (bits i).mp set
    exact ⟨inWord, f, listed, writable.1, takes⟩
  · rintro ⟨inWord, f, listed, access, takes⟩
    have writable : f.Writable := takes.writable access
    obtain ⟨part, made, bits⟩ := (measured f listed).mask writable
    exact ⟨f, listed, writable, part, made, (bits i).mpr ⟨inWord, takes⟩⟩

/-- The write mask is the union of the masks of the fields that can be written. It is a word, and it
makes the register read only if it is empty. -/
theorem Measured.writeMask_union (measured : x.Measured) :
    ∃ word : Nat, x.writeMask = pure word ∧ word ≤ maxWord ∧
      (∀ i, word.testBit i = true ↔ x.Masks i) ∧ (word ≠ 0 ↔ x.HasWritable) ∧
      x.effectiveAccess = pure (if word = 0 then .readOnly else x.access) := by
  obtain ⟨word, made, bits⟩ := measured.writeMask
  refine ⟨word, made, ?_, fun i => ?_, ?_, ?_⟩
  · have small : word < 2 ^ 32 := by
      refine Nat.lt_pow_two_of_testBit word fun i beyond => ?_
      by_contra set
      have inWord := ((bits i).mp (Bool.eq_true_of_not_eq_false set)).1
      omega
    exact Nat.le_of_lt_succ small
  · rw [bits, measured.masks_iff]
  · rw [Ne, eq_zero_iff_no_bit bits, measured.exists_writes_iff, not_not]
    rfl
  · rw [effectiveAccess, made]
    rfl

end Register

namespace Zig

/-! ## Accessors among declarations -/

def Declaration.IsAccessor : Declaration → Prop
  | .writer .. | .reader .. => True
  | _ => False

/-- A function that writes a register is declared. -/
def HasWriter (shown : List Declaration) : Prop :=
  ∃ name wordType mask, .writer name wordType mask ∈ shown

/-- A function that reads a register is declared. -/
def HasReader (shown : List Declaration) : Prop := ∃ name wordType, .reader name wordType ∈ shown

/-- No accessor is among the declarations. -/
def NoAccessor (shown : List Declaration) : Prop := ∀ d ∈ shown, ¬ d.IsAccessor

theorem noAccessor_sections {sections : List (List Declaration)}
    (each : ∀ part ∈ sections, NoAccessor part) : NoAccessor (sections.flatMap (.blank :: ·)) :=
  forall_mem_sections id each

/-- A measured field is declared without an accessor, or a remark stands for it. -/
theorem gives_ofField_noAccessor {f : Field} (measured : f.Measured) :
    Gives NoAccessor (ofField f) := by
  unfold ofField
  split
  · exact gives_pure (by simp [NoAccessor, Declaration.IsAccessor])
  split
  case isTrue complete =>
    simp only [Field.isComplete, Bool.and_eq_true, Bool.not_eq_true', ← Bool.not_eq_true,
      Value.isNull_iff] at complete
    obtain ⟨offset, placed⟩ := measured.offset.resolve_left complete.1.2
    obtain ⟨width, wide⟩ := measured.width.resolve_left complete.2
    rw [fieldSection, Field.mask_eq placed wide, pure_bind, Field.valueMask_eq wide, pure_bind]
    exact gives_pure (by simp [NoAccessor, Declaration.IsAccessor, described])
  · exact gives_pure (by simp [NoAccessor, Declaration.IsAccessor])

theorem accessor_mem_iff {d : Declaration} {front middle back : List Declaration}
    (accessor : d.IsAccessor) (before : NoAccessor front) (after : NoAccessor back) :
    d ∈ front ++ middle ++ back ↔ d ∈ middle := by
  have outside : ∀ {part : List Declaration}, NoAccessor part → d ∉ part :=
    fun none member => none d member accessor
  simp only [List.mem_append, outside before, outside after, false_or, or_false]

section

variable {name wordType : Text} {access : Access} {mask : Nat} {front back : List Declaration}

theorem writer_mem_iff (before : NoAccessor front) (after : NoAccessor back)
    (function type : Text) (word : Nat) :
    .writer function type word ∈ front ++ accessors name wordType access mask ++ back ↔
      access ≠ .readOnly ∧ function = name ∧ type = wordType ∧ word = mask := by
  have accessor : (Declaration.writer function type word).IsAccessor := trivial
  rw [accessor_mem_iff accessor before after]
  cases access <;> simp [accessors, Access.writable, Access.readable]

theorem reader_mem_iff (before : NoAccessor front) (after : NoAccessor back)
    (function type : Text) :
    .reader function type ∈ front ++ accessors name wordType access mask ++ back ↔
      access ≠ .writeOnly ∧ function = name ∧ type = wordType := by
  have accessor : (Declaration.reader function type).IsAccessor := trivial
  rw [accessor_mem_iff accessor before after]
  cases access <;> simp [accessors, Access.writable, Access.readable]

theorem hasWriter_iff (before : NoAccessor front) (after : NoAccessor back) :
    HasWriter (front ++ accessors name wordType access mask ++ back) ↔ access ≠ .readOnly := by
  simp only [HasWriter, writer_mem_iff before after]
  simp

theorem hasReader_iff (before : NoAccessor front) (after : NoAccessor back) :
    HasReader (front ++ accessors name wordType access mask ++ back) ↔ access ≠ .writeOnly := by
  simp only [HasReader, reader_mem_iff before after]
  simp

end

/-! ## The section of a register -/

section

variable {x : Register} {offset reset : Int}

/-- The section of a register with numbers where it needs them: its accessors stand between
declarations that are none. -/
theorem ofRegister_eq (named : x.name.isNothing = false)
    (placed : x.addressOffset.hexForm = .ok offset) (valued : x.resetValue.hexForm = .ok reset)
    (measured : x.Measured) (base : Int) {word : Nat} {access : Access}
    (made : x.writeMask = pure word) (known : x.effectiveAccess = pure access) :
    ∃ front back : List Declaration, NoAccessor front ∧ NoAccessor back ∧
      ofRegister base x =
        pure (front ++ accessors (registerName x) ("u" ++ x.size.display) access word ++ back) := by
  have complete : x.isComplete = true := by
    have set : x.addressOffset.isNull = false := by
      cases given : x.addressOffset with
      | null =>
        rw [given] at placed
        cases placed
      | _ => rfl
    rw [Register.isComplete, named, set]
    rfl
  obtain ⟨fields, plain, shown⟩ :=
    gives_mapM fun f listed => gives_ofField_noAccessor (measured f listed)
  refine ⟨[described x.description, .address (registerName x) base offset,
      .resetValue (registerName x) ("u" ++ x.size.display) reset],
    fields.flatMap (.blank :: ·), ?_, noAccessor_sections plain, ?_⟩
  · simp [NoAccessor, Declaration.IsAccessor, described]
  · rw [ofRegister, if_pos complete, registerSection, made, pure_bind, known, pure_bind, placed,
      valued, shown]
    rfl

/-- A writer is declared just if the register is not declared read only and has a field that can be
written, a reader just if it is not declared write only or has no such field, and so there is always
one of them. A writer belongs to the register, and the literal in its body denotes the union of the
masks of the fields that can be written, which is not empty. So no setting reaches another bit. -/
theorem accessors_are_gated (named : x.name.isNothing = false)
    (placed : x.addressOffset.hexForm = .ok offset) (valued : x.resetValue.hexForm = .ok reset)
    (measured : x.Measured) (base : Int) :
    ∃ shown : List Declaration, ofRegister base x = pure shown ∧
      (HasWriter shown ↔ x.access ≠ .readOnly ∧ x.HasWritable) ∧
      (HasReader shown ↔ x.access ≠ .writeOnly ∨ ¬ x.HasWritable) ∧
      (HasWriter shown ∨ HasReader shown) ∧
      ∀ name wordType mask, .writer name wordType mask ∈ shown →
        name = registerName x ∧ wordType = "u" ++ x.size.display ∧ mask ≠ 0 ∧
        (∀ i, mask.testBit i = true ↔ x.Masks i) ∧
        (∀ setting i, (setting &&& mask).testBit i = true → x.Masks i) ∧
        ∃ literal : String, hexadecimal? literal.toList = some mask ∧
          (Declaration.writer name wordType mask).lines[1]? =
            some (indented ("const write_mask = " ++ literal ++ ";")) := by
  obtain ⟨word, made, small, bits, nonzero, known⟩ := measured.writeMask_union
  obtain ⟨front, back, before, after, shown⟩ :=
    ofRegister_eq named placed valued measured base made known
  rw [shown]
  refine ⟨_, rfl, ?_, ?_, ?_, ?_⟩
  · rw [hasWriter_iff before after, ← nonzero]
    by_cases empty : word = 0 <;> simp [empty]
  · rw [hasReader_iff before after, ← nonzero]
    by_cases empty : word = 0 <;> simp [empty]
  · rw [hasWriter_iff before after, hasReader_iff before after]
    rcases eq_or_ne (if word = 0 then Access.readOnly else x.access) .readOnly with same | other
    · rw [same]
      exact .inr nofun
    · exact .inl other
  · intro name wordType mask member
    obtain ⟨allowed, rfl, rfl, rfl⟩ := (writer_mem_iff before after name wordType mask).mp member
    refine ⟨rfl, rfl, fun empty => allowed (if_pos empty), bits, ?_, ?_⟩
    · intro setting i set
      rw [Nat.testBit_and, Bool.and_eq_true] at set
      exact (bits i).mp set.2
    · exact ⟨hexLiteral mask, hexadecimal?_hexText small, rfl⟩

end

/-- A register that is only written, in a field without a name; its other field is only read. -/
def unnamedWritten : Register where
  name := .ofString "R"
  addressOffset := .int 4
  access := .writeOnly
  fields := [{ bitOffset := .int 4, bitWidth := .int 3 },
    { name := .ofString "F", bitOffset := .int 0, bitWidth := .int 2, access := .readOnly }]

theorem accessors_are_gated_unnamedWritten :
    unnamedWritten.Measured ∧ ∃ shown : List Declaration,
      ofRegister 0x10 unnamedWritten = pure shown ∧ HasWriter shown ∧ ¬ HasReader shown ∧
        ∀ name wordType mask, .writer name wordType mask ∈ shown → mask.testBit 6 = true := by
  have measured : unnamedWritten.Measured := by
    intro f listed
    simp only [unnamedWritten, List.mem_cons, List.not_mem_nil, or_false] at listed
    rcases listed with rfl | rfl
    · exact ⟨.inr ⟨4, rfl⟩, .inr ⟨3, rfl⟩⟩
    · exact ⟨.inr ⟨0, rfl⟩, .inr ⟨2, rfl⟩⟩
  have first : ({ bitOffset := .int 4, bitWidth := .int 3 } : Field).Writable :=
    ⟨nofun, nofun, nofun⟩
  have written : unnamedWritten.HasWritable := ⟨_, List.mem_cons_self, first⟩
  obtain ⟨shown, made, writer, reader, -, masks⟩ :=
    accessors_are_gated (x := unnamedWritten) rfl rfl rfl measured 0x10
  refine ⟨measured, shown, made, writer.mpr ⟨nofun, written⟩, ?_, ?_⟩
  · rw [reader]
    exact fun either => either.elim (fun other => other rfl) fun none => none written
  · intro name wordType mask member
    obtain ⟨-, -, -, bits, -⟩ := masks name wordType mask member
    exact (bits 6).mpr ⟨_, List.mem_cons_self, first, 0x70, rfl, rfl⟩

end Zig

end RegisterMap
