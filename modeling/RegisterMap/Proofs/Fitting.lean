import RegisterMap.Proofs.Canonical.Writing
import RegisterMap.Proofs.Numeral.Positional
import RegisterMap.Proofs.Reader.Run
import RegisterMap.Proofs.Reader.Touch

/-!
Values that fit their attributes. An attribute may hold a value of any kind, but the reader only
writes texts, truth values and words of 32 bits, each where one of its kind belongs. So in every
reachable model an attribute is a value of its kind or null, if the settings give words as the size
and the reset value of registers. Stored interrupts do not depend on the settings: each is listed
under its own vector number, and no two have the same one.
-/

set_option autoImplicit false

namespace RegisterMap

def Value.IsText (v : Value) : Prop := ∃ s, v = .text s

structure Cpu.Fits (c : Cpu) : Prop where
  name : c.name.IsText
  revision : c.revision.IsText
  endian : c.endian.IsText
  mpuPresent : c.mpuPresent.MaybeTruth
  fpuPresent : c.fpuPresent.MaybeTruth
  nvicPrioBits : c.nvicPrioBits.MaybeWord
  vendorSystickConfig : c.vendorSystickConfig.MaybeTruth

structure AddressBlock.Fits (b : AddressBlock) : Prop where
  offset : b.offset.MaybeWord
  size : b.size.MaybeWord
  usage : b.usage.IsText

structure Interrupt.Fits (i : Interrupt) : Prop where
  name : i.name.IsText
  description : i.description.IsText
  vector : i.vector.MaybeWord

structure Field.Fits (f : Field) : Prop where
  peripheralName : f.peripheralName.IsText
  registerName : f.registerName.IsText
  name : f.name.IsText
  description : f.description.IsText
  bitOffset : f.bitOffset.MaybeWord
  bitWidth : f.bitWidth.MaybeWord

/-- The size and the reset value of a register are always set. -/
structure Register.Fits (x : Register) : Prop where
  peripheralName : x.peripheralName.IsText
  name : x.name.IsText
  displayName : x.displayName.IsText
  description : x.description.IsText
  addressOffset : x.addressOffset.MaybeWord
  size : x.size.IsWord
  resetValue : x.resetValue.IsWord
  fields : ∀ f ∈ x.fields, f.Fits

structure Peripheral.Fits (p : Peripheral) : Prop where
  name : p.name.IsText
  groupName : p.groupName.IsText
  description : p.description.IsText
  baseAddress : p.baseAddress.MaybeWord
  addressBlock : ∀ b, p.addressBlock = some b → b.Fits
  registers : ∀ x ∈ p.registers, x.Fits

/-- Each of the interrupts is listed under its own vector number, and no two have the same one. -/
structure Interrupt.Listed (entries : List (Value × Interrupt)) : Prop where
  own : ∀ entry ∈ entries, entry.1 = entry.2.vector
  numbered : ∀ entry ∈ entries, ∃ n : Int, entry.1 = .int n
  distinct : (entries.map Prod.fst).Nodup

/-- The same of interrupts that have been read: their vector numbers are words. -/
structure Interrupt.Stored (entries : List (Value × Interrupt)) : Prop where
  own : ∀ entry ∈ entries, entry.1 = entry.2.vector
  fits : ∀ entry ∈ entries, entry.2.Fits
  numbered : ∀ entry ∈ entries, entry.1.IsWord
  distinct : (entries.map Prod.fst).Nodup

/-- The attributes of the device itself and of its processor. -/
structure Device.OwnFits (d : Device) : Prop where
  name : d.name.IsText
  version : d.version.IsText
  description : d.description.IsText
  addressUnitBits : d.addressUnitBits.MaybeWord
  maxBitWidth : d.maxBitWidth.MaybeWord
  defaultSize : d.defaultSize.MaybeWord
  defaultResetValue : d.defaultResetValue.MaybeWord
  defaultResetMask : d.defaultResetMask.MaybeWord
  cpu : ∀ c, d.cpu = some c → c.Fits

structure Device.Fits (d : Device) : Prop where
  own : d.OwnFits
  peripherals : ∀ p ∈ d.peripherals, p.Fits
  interrupts : Interrupt.Stored d.interrupts

theorem Device.Fits.named {d : Device} (fits : d.Fits) : ∀ p ∈ d.peripherals, p.name.IsText :=
  fun p listed => (fits.peripherals p listed).name

namespace Document

structure Settings.Fits (o : Settings) : Prop where
  registerSize : o.registerSize.IsWord
  resetValue : o.resetValue.IsWord

/-- The interrupts of the model and the one that is being described. -/
structure Reader.InterruptsFit (r : Reader) : Prop where
  stored : Interrupt.Stored r.device.interrupts
  pending : ∀ i, r.interrupt = some i → i.Fits

/-- Every attribute of the model, and of the interrupt that is being described. -/
structure Reader.Fits (r : Reader) : Prop where
  device : r.device.Fits
  pending : ∀ i, r.interrupt = some i → i.Fits

end Document

/-! ## Attributes -/

theorem isText_empty : (Value.text []).IsText := ⟨[], rfl⟩

theorem isText_ofString (s : String) : (Value.ofString s).IsText := ⟨Text.ofString s, rfl⟩

theorem maybeWord_null : Value.null.MaybeWord := Or.inl rfl

theorem Value.MaybeWord.isWord {v : Value} (fits : v.MaybeWord) (set : v.isNull = false) :
    v.IsWord := by
  apply fits.resolve_left
  rintro rfl
  cases set

theorem isWord_of_le {n : Nat} (small : n ≤ Numeral.maxWord) : (Value.int n).IsWord :=
  ⟨n, small, rfl⟩

theorem isWord_getD {v other : Value} (fits : v.MaybeWord) (word : other.IsWord) :
    (v.getD other).IsWord := by
  obtain rfl | ⟨n, small, rfl⟩ := fits
  · exact word
  · exact isWord_of_le small

theorem Interrupt.fits_empty : Interrupt.Fits {} := ⟨isText_empty, isText_empty, maybeWord_null⟩

theorem Peripheral.fits_empty : Peripheral.Fits {} :=
  ⟨isText_empty, isText_empty, isText_empty, maybeWord_null, nofun, nofun⟩

theorem Interrupt.stored_nil : Interrupt.Stored [] := ⟨nofun, nofun, nofun, List.nodup_nil⟩

theorem Interrupt.Stored.listed {entries : List (Value × Interrupt)} (stored : Stored entries) :
    Listed entries where
  own := stored.own
  numbered entry member :=
    let ⟨n, _, number⟩ := stored.numbered entry member
    ⟨n, number⟩
  distinct := stored.distinct

/-- An admitted interrupt has a number of its own. -/
theorem Interrupt.Listed.append {d : Device} {i : Interrupt} {n : Int}
    (listed : Listed d.interrupts) (number : i.vector = .int n) (admitted : d.admits i = true) :
    Listed (d.interrupts ++ [(i.vector, i)]) := by
  rw [Device.admits, Bool.and_eq_true, Bool.not_eq_true', Bool.not_eq_true'] at admitted
  have apart : i.vector ∉ d.interrupts.map Prod.fst := by
    intro member
    obtain ⟨entry, old, same⟩ := List.mem_map.mp member
    have differs := List.any_eq_false.mp admitted.2 entry old
    rw [same, number, Value.alike_int, beq_self_eq_true] at differs
    exact differs rfl
  have added : ∀ entry ∈ d.interrupts ++ [(i.vector, i)],
      entry ∈ d.interrupts ∨ entry = (i.vector, i) := by
    intro entry member
    rwa [List.mem_append, List.mem_singleton] at member
  refine ⟨fun entry member => ?_, fun entry member => ?_, ?_⟩
  · rcases added entry member with old | rfl
    · exact listed.own entry old
    · rfl
  · rcases added entry member with old | rfl
    · exact listed.numbered entry old
    · exact ⟨n, number⟩
  · rw [List.map_append, List.map_singleton, ← List.concat_eq_append]
    exact listed.distinct.concat apart

theorem Device.fits_empty : Device.Fits {} where
  own := ⟨isText_empty, isText_empty, isText_empty, maybeWord_null, maybeWord_null, maybeWord_null,
    maybeWord_null, maybeWord_null, nofun⟩
  peripherals := nofun
  interrupts := Interrupt.stored_nil

namespace Document

section

variable {α : Type} {data : String} {put : Value → α → α} {change : α → α} {holds : α → Prop}
  {x : α}

theorem textual_fits (known : textual data put = .ok change)
    (text : ∀ v : Value, v.IsText → holds (put v x)) : holds (change x) := by
  obtain rfl := textual_eq_ok known
  exact text _ (isText_ofString data)

theorem decimal_fits (known : decimal data put = .ok change) (before : holds x)
    (word : ∀ v : Value, v.IsWord → holds (put v x)) : holds (change x) := by
  obtain rfl | ⟨n, read, rfl⟩ := decimal_eq_ok known
  · exact before
  · exact word _ (isWord_of_le (Numeral.decimal?_le read))

theorem hexadecimal_fits (known : hexadecimal data put = .ok change) (before : holds x)
    (word : ∀ v : Value, v.IsWord → holds (put v x)) : holds (change x) := by
  obtain rfl | ⟨n, read, rfl⟩ := hexadecimal_eq_ok known
  · exact before
  · exact word _ (isWord_of_le (Numeral.hexadecimal?_le read))

theorem truth_fits (known : truth data put = .ok change) (before : holds x)
    (truth : ∀ b : Bool, holds (put (.bool b) x)) : holds (change x) := by
  obtain rfl := (Except.ok.inj known).symm
  cases truth? data.toList with
  | none => exact before
  | some b => exact truth b

end

section

variable {e : Element} {data : String}

theorem deviceAttribute_fits {change : Device → Device} {d : Device}
    (known : deviceAttribute e data = .ok change) (fits : d.OwnFits) : (change d).OwnFits := by
  unfold deviceAttribute at known
  split at known
  · exact textual_fits known fun v text => { fits with name := text }
  · exact textual_fits known fun v text => { fits with version := text }
  · exact textual_fits known fun v text => { fits with description := text }
  · exact decimal_fits known fits fun v word => { fits with addressUnitBits := Or.inr word }
  · exact decimal_fits known fits fun v word => { fits with maxBitWidth := Or.inr word }
  · exact decimal_fits known fits fun v word => { fits with defaultSize := Or.inr word }
  · exact decimal_fits known fits fun v word => { fits with defaultResetValue := Or.inr word }
  · exact decimal_fits known fits fun v word => { fits with defaultResetMask := Or.inr word }
  · cases known
    exact fits

theorem cpuAttribute_fits {change : Cpu → Cpu} {c : Cpu} (known : cpuAttribute e data = .ok change)
    (fits : c.Fits) : (change c).Fits := by
  unfold cpuAttribute at known
  split at known
  · exact textual_fits known fun v text => { fits with name := text }
  · exact textual_fits known fun v text => { fits with revision := text }
  · exact textual_fits known fun v text => { fits with endian := text }
  · exact truth_fits known fits fun b => { fits with mpuPresent := Or.inr ⟨b, rfl⟩ }
  · exact truth_fits known fits fun b => { fits with fpuPresent := Or.inr ⟨b, rfl⟩ }
  · exact decimal_fits known fits fun v word => { fits with nvicPrioBits := Or.inr word }
  · exact truth_fits known fits fun b => { fits with vendorSystickConfig := Or.inr ⟨b, rfl⟩ }
  · cases known
    exact fits

theorem addressBlockAttribute_fits {change : AddressBlock → AddressBlock} {b : AddressBlock}
    (known : addressBlockAttribute e data = .ok change) (fits : b.Fits) : (change b).Fits := by
  unfold addressBlockAttribute at known
  split at known
  · exact hexadecimal_fits known fits fun v word => { fits with offset := Or.inr word }
  · exact hexadecimal_fits known fits fun v word => { fits with size := Or.inr word }
  · exact textual_fits known fun v text => { fits with usage := text }
  · cases known
    exact fits

theorem interruptAttribute_fits {change : Interrupt → Interrupt} {i : Interrupt}
    (known : interruptAttribute e data = .ok change) (fits : i.Fits) : (change i).Fits := by
  unfold interruptAttribute at known
  split at known
  · exact textual_fits known fun v text => { fits with name := text }
  · exact textual_fits known fun v text => { fits with description := text }
  · exact decimal_fits known fits fun v word => { fits with vector := Or.inr word }
  · cases known
    exact fits

theorem fieldAttribute_fits {change : Field → Field} {f : Field}
    (known : fieldAttribute e data = .ok change) (fits : f.Fits) : (change f).Fits := by
  unfold fieldAttribute at known
  split at known
  · exact textual_fits known fun v text => { fits with name := text }
  · exact textual_fits known fun v text => { fits with description := text }
  · exact decimal_fits known fits fun v word => { fits with bitOffset := Or.inr word }
  · exact decimal_fits known fits fun v word => { fits with bitWidth := Or.inr word }
  · obtain rfl | ⟨a, -, rfl⟩ := right_eq_ok known
    · exact fits
    · exact { fits with }
  · cases known
    exact fits

theorem registerAttribute_fits {change : Register → Register} {x : Register}
    (known : registerAttribute e data = .ok change) (fits : x.Fits) : (change x).Fits := by
  unfold registerAttribute at known
  split at known
  · exact textual_fits known fun v text => { fits with name := text }
  · exact textual_fits known fun v text => { fits with displayName := text }
  · exact textual_fits known fun v text => { fits with description := text }
  · exact hexadecimal_fits known fits fun v word => { fits with addressOffset := Or.inr word }
  · exact hexadecimal_fits known fits fun v word => { fits with size := word }
  · exact hexadecimal_fits known fits fun v word => { fits with resetValue := word }
  · obtain rfl | ⟨a, -, rfl⟩ := right_eq_ok known
    · exact fits
    · exact { fits with }
  · cases known
    exact fits

theorem fits_inPeripheral {name : Value} {x : Register} (text : name.IsText) (fits : x.Fits) :
    (x.inPeripheral name).Fits := by
  refine { fits with peripheralName := text, fields := fun f member => ?_ }
  obtain ⟨g, old, rfl⟩ := List.mem_map.mp member
  exact { fits.fields g old with peripheralName := text }

theorem peripheralAttribute_fits {change : Peripheral → Peripheral} {p : Peripheral}
    (known : peripheralAttribute e data = .ok change) (fits : p.Fits) : (change p).Fits := by
  unfold peripheralAttribute at known
  split at known
  · refine textual_fits known fun v text => { fits with name := text, registers := ?_ }
    intro x member
    obtain ⟨y, old, rfl⟩ := List.mem_map.mp member
    exact fits_inPeripheral text (fits.registers y old)
  · exact textual_fits known fun v text => { fits with description := text }
  · exact textual_fits known fun v text => { fits with groupName := text }
  · exact hexadecimal_fits known fits fun v word => { fits with baseAddress := Or.inr word }
  · cases known
    exact fits

end

/-! ## Tags -/

theorem forall_mem_concat {α : Type} {holds : α → Prop} {xs : List α} {x : α}
    (before : ∀ y ∈ xs, holds y) (last : holds x) : ∀ y ∈ xs ++ [x], holds y := by
  intro y member
  rcases List.mem_append.mp member with old | new
  · exact before y old
  · rw [List.mem_singleton.mp new]
    exact last

namespace Reader

section

variable {o : Settings} {r next : Reader} {t : Tag} {notices : List Notice}

theorem newRegister_fits {d : Device} {p : Peripheral} (settings : o.Fits) (own : d.OwnFits)
    (fits : p.Fits) : (newRegister o d p).Fits where
  peripheralName := fits.name
  name := isText_empty
  displayName := isText_empty
  description := isText_empty
  addressOffset := maybeWord_null
  size := isWord_getD own.defaultSize settings.registerSize
  resetValue := isWord_getD own.defaultResetValue settings.resetValue
  fields := nofun

theorem newField_fits {p : Peripheral} {x : Register} (owner : p.name.IsText)
    (register : x.name.IsText) : (newField p x).Fits :=
  ⟨owner, register, isText_empty, isText_empty, maybeWord_null, maybeWord_null⟩

theorem Touch.fits {f : Peripheral → Peripheral} {p : Peripheral} (touch : Touch o r t f)
    (settings : o.Fits) (own : r.device.OwnFits) (fits : p.Fits) : (f p).Fits := by
  cases touch with
  | described _ _ known => exact peripheralAttribute_fits known fits
  | blockBegun =>
    refine { fits with addressBlock := ?_ }
    rintro b ⟨⟩
    exact ⟨maybeWord_null, maybeWord_null, isText_empty⟩
  | blockDescribed _ _ known =>
    refine { fits with addressBlock := ?_ }
    intro b has
    obtain ⟨c, old, rfl⟩ := Option.map_eq_some_iff.mp has
    exact addressBlockAttribute_fits known (fits.addressBlock c old)
  | registerBegun =>
    exact { fits with
      registers := forall_mem_concat fits.registers (newRegister_fits settings own fits) }
  | registerDescribed _ _ known =>
    refine { fits with registers := ?_ }
    exact forall_changeLast (fun x _ => registerAttribute_fits known) fits.registers
  | fieldBegun =>
    refine { fits with registers := forall_changeLast (fun x _ held => ?_) fits.registers }
    exact { held with
      fields := forall_mem_concat held.fields (newField_fits fits.name held.name) }
  | fieldDescribed _ _ _ known =>
    refine { fits with registers := forall_changeLast (fun x _ held => ?_) fits.registers }
    exact { held with
      fields := forall_changeLast (fun f _ => fieldAttribute_fits known) held.fields }

theorem Effect.ownFits (effect : Effect o r t next notices) (own : r.device.OwnFits) :
    next.device.OwnFits := by
  cases effect with
  | deviceDescribed _ _ known => exact deviceAttribute_fits known own
  | cpuOpened =>
    refine { own with cpu := ?_ }
    rintro c ⟨⟩
    exact ⟨isText_empty, isText_empty, isText_empty, Or.inl rfl, Or.inl rfl, maybeWord_null,
      Or.inl rfl⟩
  | cpuDescribed _ _ known =>
    refine { own with cpu := ?_ }
    intro c has
    obtain ⟨b, old, rfl⟩ := Option.map_eq_some_iff.mp has
    exact cpuAttribute_fits known (own.cpu b old)
  | @interruptClosed i =>
    obtain ⟨entries, added⟩ := r.device.addInterrupt_eq i
    rw [added]
    exact { own with }
  | _ => exact { own with }

theorem Effect.pendingFits (effect : Effect o r t next notices)
    (pending : ∀ i, r.interrupt = some i → i.Fits) : ∀ i, next.interrupt = some i → i.Fits := by
  cases effect with
  | interruptOpened =>
    rintro i ⟨⟩
    exact Interrupt.fits_empty
  | interruptClosed => nofun
  | interruptDescribed _ _ known =>
    intro i has
    obtain ⟨j, old, rfl⟩ := Option.map_eq_some_iff.mp has
    exact interruptAttribute_fits known (pending j old)
  | _ => exact pending

theorem stored_append {d : Device} {i : Interrupt} (stored : Interrupt.Stored d.interrupts)
    (fits : i.Fits) (admitted : d.admits i = true) :
    Interrupt.Stored (d.interrupts ++ [(i.vector, i)]) := by
  have word : i.vector.IsWord := by
    apply fits.vector.isWord
    rw [Device.admits, Bool.and_eq_true, Bool.not_eq_true'] at admitted
    exact admitted.1
  obtain ⟨n, -, number⟩ := id word
  have listed := stored.listed.append number admitted
  refine ⟨listed.own, ?_, ?_, listed.distinct⟩
  · exact forall_mem_concat stored.fits fits
  · exact forall_mem_concat stored.numbered word

theorem InterruptsFit.current (fits : r.InterruptsFit) : (r.interrupt.getD {}).Fits := by
  cases pending : r.interrupt with
  | none => exact Interrupt.fits_empty
  | some i => exact fits.pending i pending

theorem Effect.interruptsFit (effect : Effect o r t next notices) (before : r.InterruptsFit) :
    next.InterruptsFit := by
  refine ⟨?_, effect.pendingFits before.pending⟩
  obtain same | ⟨i, -, -, closed, admitted, stored⟩ := effect.interrupts
  · rw [same]
    exact before.stored
  · have fits : i.Fits := by
      rw [closed]
      exact before.current
    rw [stored]
    exact stored_append before.stored fits admitted

theorem Effect.fits (settings : o.Fits) (effect : Effect o r t next notices) (before : r.Fits) :
    next.Fits := by
  obtain ⟨⟨own, peripherals, interrupts⟩, pending⟩ := before
  obtain ⟨stored, pending⟩ := effect.interruptsFit ⟨interrupts, pending⟩
  refine ⟨⟨effect.ownFits own, ?_, stored⟩, pending⟩
  exact effect.forall_peripherals Peripheral.fits_empty
    (fun f p touch _ held => touch.fits settings own held) peripherals

end

/-! ## Runs -/

section

variable {o : Settings}

theorem interruptsFit_feed {r : Reader} (line : String) (before : r.InterruptsFit) :
    (r.feed o line).reader.InterruptsFit :=
  feed_keeps (fun _ held => ⟨held.stored, held.pending⟩)
    (fun _ _ _ _ held ok => (effect_of_read ok).interruptsFit held) line before

theorem interruptsFit_fed (o : Settings) (lines : List String) :
    (fed o {} lines).InterruptsFit :=
  fed_induction o {} (fun _ line held => interruptsFit_feed line held)
    ⟨Interrupt.stored_nil, nofun⟩ lines

theorem fits_feed {r : Reader} (settings : o.Fits) (line : String) (before : r.Fits) :
    (r.feed o line).reader.Fits :=
  feed_keeps (fun _ held => ⟨held.device, held.pending⟩)
    (fun _ _ _ _ held ok => (effect_of_read ok).fits settings held) line before

/-- In every reachable model each attribute has a value of its kind, or none. -/
theorem fits_fed (settings : o.Fits) (lines : List String) : (fed o {} lines).Fits :=
  fed_induction o {} (fun _ line held => fits_feed settings line held)
    ⟨Device.fits_empty, nofun⟩ lines

end

end Reader

end Document

end RegisterMap
