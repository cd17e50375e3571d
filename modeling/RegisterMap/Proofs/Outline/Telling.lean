import RegisterMap.Proofs.AnySettings
import RegisterMap.Proofs.Outline.Objects

/-!
An outline tells the device that it is of. Where the entities of a reachable model have names of
their own, its outline leaves nothing open but the descriptions of its interrupts, the order in
which these were added, and the names of their registers that fields carry; and these three it
does not tell at all.
-/

set_option autoImplicit false

namespace RegisterMap

open Outline (Labels Showable isGiven)

/-! ## What an outline tells -/

def Field.unplaced (f : Field) : Field := { f with registerName := .text [] }

def Register.unplaced (x : Register) : Register := { x with fields := x.fields.map Field.unplaced }

/-- The peripheral without the names of their registers that its fields carry. -/
def Peripheral.unplaced (p : Peripheral) : Peripheral :=
  { p with registers := p.registers.map Register.unplaced }

def Interrupt.undescribed (i : Interrupt) : Interrupt := { i with description := .text [] }

/-- The entries of the interrupts, without their descriptions. -/
def Device.vectors (d : Device) : List (Value × Interrupt) :=
  d.interrupts.map fun entry => (entry.1, entry.2.undescribed)

/-- Devices that differ in nothing but the names of their registers that fields carry, and the
descriptions and the order of their interrupts. -/
@[mk_iff]
structure Device.ToldAlike (d e : Device) : Prop where
  own : { d with peripherals := [], interrupts := [] } =
    { e with peripherals := [], interrupts := [] }
  peripherals : d.peripherals.map Peripheral.unplaced = e.peripherals.map Peripheral.unplaced
  interrupts : d.vectors.Perm e.vectors

instance (d e : Device) : Decidable (d.ToldAlike e) :=
  decidable_of_iff' _ (Device.toldAlike_iff d e)

/-- Every entity has a name, and those that stand together have different ones. -/
@[mk_iff]
structure Device.Labelled (d : Device) : Prop where
  peripherals : Labels Peripheral.name d.peripherals
  registers : ∀ p ∈ d.peripherals, Labels Register.name p.registers
  fields : ∀ p ∈ d.peripherals, ∀ x ∈ p.registers, Labels Field.name x.fields
  interrupts : Labels (fun entry => entry.2.name) d.interrupts

instance (d : Device) : Decidable d.Labelled := decidable_of_iff' _ (Device.labelled_iff d)

/-! ## Models that can be told from their outlines -/

/-- A register whose values are of their kinds, but for its size and its reset value, which only
have to be given. It carries the name of its peripheral, as its fields do, and these have names of
their own. -/
structure Register.Legible (owner : Value) (x : Register) : Prop where
  fits : Register.Fits { x with size := .int 0, resetValue := .int 0 }
  size : isGiven x.size = true
  resetValue : isGiven x.resetValue = true
  carries : x.Carries owner
  fields : Labels Field.name x.fields

/-- A peripheral whose values are of their kinds, and whose registers have names of their own. -/
structure Peripheral.Legible (p : Peripheral) : Prop where
  fits : Peripheral.Fits { p with registers := [] }
  legible : ∀ x ∈ p.registers, x.Legible p.name
  registers : Labels Register.name p.registers

structure Device.Legible (d : Device) : Prop where
  fits : d.OwnFits
  stored : Interrupt.Stored d.interrupts
  legible : ∀ p ∈ d.peripherals, p.Legible
  peripherals : Labels Peripheral.name d.peripherals
  interrupts : Labels (fun entry => entry.2.name) d.interrupts

namespace Outline

/-! ## Fields and registers -/

theorem ofField_tells {f g : Field} (fits : f.Fits) (also : g.Fits)
    (owner : f.peripheralName = g.peripheralName) (name : f.name = g.name)
    (same : ofField f = ofField g) : f.unplaced = g.unplaced := by
  simp only [ofField, given_eq, Value.object.injEq] at same
  have slots := filled_inj ["description", "bit_offset", "bit_width", "access"] (by decide) rfl rfl
    same
  simp only [List.map_cons, List.map_nil, List.cons.injEq, Prod.mk.injEq, true_and,
    and_true] at slots
  obtain ⟨description, offset, width, access⟩ := slots
  simp only [Field.unplaced, Field.mk.injEq]
  exact ⟨owner, trivial, name, present_text fits.description also.description description,
    present_word fits.bitOffset also.bitOffset offset,
    present_word fits.bitWidth also.bitWidth width, present_access access⟩

section

variable {owner : Value} {x y : Register}

theorem showable_fields (legible : x.Legible owner) :
    Showable Field.name (fun f => .ok (ofField f)) x.fields where
  labels := legible.fields
  texts f listed := (legible.fits.fields f listed).name
  bodies f _ := ⟨ofField f, rfl⟩

theorem fields_tell (first : x.Legible owner) (second : y.Legible owner)
    (same : named Field.name (fun f => .ok (ofField f)) x.fields =
      named Field.name (fun f => .ok (ofField f)) y.fields) :
    x.fields.map Field.unplaced = y.fields.map Field.unplaced := by
  refine (showable_fields first).tells (showable_fields second) same ?_
  intro f listed g inside name shown
  have owner : f.peripheralName = g.peripheralName :=
    (first.carries.2 f listed).trans (second.carries.2 g inside).symm
  exact ofField_tells (first.fits.fields f listed) (second.fits.fields g inside) owner name
    (Except.ok.inj shown)

theorem ofRegister_ok (legible : x.Legible owner) : ∃ v, ofRegister x = .ok v := by
  obtain ⟨members, made, -⟩ := (showable_fields legible).named_eq
  unfold ofRegister
  rw [made]
  exact ⟨_, rfl⟩

theorem ofRegister_tells (first : x.Legible owner) (second : y.Legible owner)
    (name : x.name = y.name) (same : ofRegister x = ofRegister y) : x.unplaced = y.unplaced := by
  obtain ⟨members, made, -⟩ := (showable_fields first).named_eq
  obtain ⟨others, also, -⟩ := (showable_fields second).named_eq
  unfold ofRegister at same
  rw [made, also] at same
  replace same := Value.object.inj (Except.ok.inj same)
  simp only [given_eq, filled_always, filled_append] at same
  -- Both objects are made of slots of the same names, so they are compared slot by slot.
  have slots := filled_inj ["display_name", "description", "address_offset", "size", "reset_value",
    "access", "fields"] (by decide) rfl rfl same
  simp only [List.map_cons, List.map_nil, List.cons_append, List.nil_append, List.cons.injEq,
    Prod.mk.injEq, true_and, and_true, Option.some.injEq] at slots
  obtain ⟨displayName, description, offset, size, reset, access, fields⟩ := slots
  simp only [Register.unplaced, Register.mk.injEq]
  refine ⟨first.carries.1.trans second.carries.1.symm, name,
    present_text first.fits.displayName second.fits.displayName displayName,
    present_text first.fits.description second.fits.description description,
    present_word first.fits.addressOffset second.fits.addressOffset offset,
    present_given first.size second.size size,
    present_given first.resetValue second.resetValue reset, present_access access, ?_⟩
  exact fields_tell first second (by rw [made, also, fields])

end

/-! ## Peripherals -/

section

variable {p q : Peripheral}

theorem ofAddressBlock_tells {b c : AddressBlock} (fits : b.Fits) (also : c.Fits)
    (same : ofAddressBlock b = ofAddressBlock c) : b = c := by
  simp only [ofAddressBlock, given_eq, Value.object.injEq] at same
  have slots := filled_inj ["offset", "size", "usage"] (by decide) rfl rfl same
  simp only [List.map_cons, List.map_nil, List.cons.injEq, Prod.mk.injEq, true_and,
    and_true] at slots
  obtain ⟨offset, size, usage⟩ := slots
  cases b
  cases c
  simp only [AddressBlock.mk.injEq]
  exact ⟨present_word fits.offset also.offset offset, present_word fits.size also.size size,
    present_text fits.usage also.usage usage⟩

/-- An entity that may be missing is told from one with nothing set. -/
theorem optional_tells {α : Type} {write : α → Value} {a b : Option α}
    (each : ∀ x, a = some x → ∀ y, b = some y → write x = write y → x = y)
    (same : a.map write = b.map write) : a = b := by
  cases a with
  | none =>
    cases b with
    | none => rfl
    | some y => cases same
  | some x =>
    cases b with
    | none => cases same
    | some y => rw [each x rfl y rfl (Option.some.inj same)]

theorem showable_registers (legible : p.Legible) :
    Showable Register.name ofRegister p.registers where
  labels := legible.registers
  texts x listed := (legible.legible x listed).fits.name
  bodies x listed := ofRegister_ok (legible.legible x listed)

theorem ofPeripheral_ok (legible : p.Legible) : ∃ v, ofPeripheral p = .ok v := by
  obtain ⟨members, made, -⟩ := (showable_registers legible).named_eq
  unfold ofPeripheral
  rw [made]
  exact ⟨_, rfl⟩

theorem registers_tell (first : p.Legible) (second : q.Legible) (name : p.name = q.name)
    (same : named Register.name ofRegister p.registers =
      named Register.name ofRegister q.registers) :
    p.registers.map Register.unplaced = q.registers.map Register.unplaced := by
  refine (showable_registers first).tells (showable_registers second) same ?_
  intro x listed y inside label shown
  have other : y.Legible p.name := name ▸ second.legible y inside
  exact ofRegister_tells (first.legible x listed) other label shown

theorem ofPeripheral_tells (first : p.Legible) (second : q.Legible) (name : p.name = q.name)
    (same : ofPeripheral p = ofPeripheral q) : p.unplaced = q.unplaced := by
  obtain ⟨members, made, -⟩ := (showable_registers first).named_eq
  obtain ⟨others, also, -⟩ := (showable_registers second).named_eq
  unfold ofPeripheral at same
  rw [made, also] at same
  replace same := Value.object.inj (Except.ok.inj same)
  simp only [given_eq, filled_always, filled_optional, filled_append] at same
  have slots := filled_inj ["group_name", "description", "base_address", "address_block",
    "registers"] (by decide) rfl rfl same
  simp only [List.map_cons, List.map_nil, List.cons_append, List.nil_append, List.cons.injEq,
    Prod.mk.injEq, true_and, and_true, Option.some.injEq] at slots
  obtain ⟨group, description, base, block, registers⟩ := slots
  simp only [Peripheral.unplaced, Peripheral.mk.injEq]
  refine ⟨name, present_text first.fits.groupName second.fits.groupName group,
    present_text first.fits.description second.fits.description description,
    present_word first.fits.baseAddress second.fits.baseAddress base, ?_, ?_⟩
  · refine optional_tells (fun b has c other => ?_) block
    exact ofAddressBlock_tells (first.fits.addressBlock b has) (second.fits.addressBlock c other)
  · exact registers_tell first second name (by rw [made, also, registers])

end

/-! ## Interrupts -/

section

variable {d e : Device}

/-- What the table tells of an interrupt: its entry without the description. -/
def vectorEntry (i : Interrupt) : Value × Interrupt := (i.vector, i.undescribed)

theorem vectors_perm (stored : Interrupt.Stored d.interrupts) :
    d.vectors.Perm (((sortedInterrupts d.interrupts).map Prod.snd).map vectorEntry) := by
  have sorted := sortedInterrupts_perm d.interrupts
  have entries : (sortedInterrupts d.interrupts).map
      (fun entry => (entry.1, entry.2.undescribed)) =
        ((sortedInterrupts d.interrupts).map Prod.snd).map vectorEntry := by
    rw [List.map_map]
    refine List.map_congr_left fun entry listed => ?_
    rw [stored.own entry (sorted.mem_iff.mp listed)]
    rfl
  exact entries ▸ (sorted.map _).symm

theorem showable_interrupts (legible : d.Legible) :
    Showable Interrupt.name (fun i => .ok i.vector)
      ((sortedInterrupts d.interrupts).map Prod.snd) where
  labels := by
    have sorted := sortedInterrupts_perm d.interrupts
    refine ⟨fun i listed => ?_, ?_⟩
    · obtain ⟨entry, inside, rfl⟩ := List.mem_map.mp listed
      exact legible.interrupts.given entry (sorted.mem_iff.mp inside)
    · rw [List.map_map]
      exact (sorted.map _).nodup_iff.mpr legible.interrupts.distinct
  texts i listed := by
    obtain ⟨entry, inside, rfl⟩ := List.mem_map.mp listed
    exact (legible.stored.fits entry ((sortedInterrupts_perm _).mem_iff.mp inside)).name
  bodies i _ := ⟨i.vector, rfl⟩

theorem interrupts_tell (first : d.Legible) (second : e.Legible)
    (same : ofInterrupts d = ofInterrupts e) : d.vectors.Perm e.vectors := by
  rw [ofInterrupts_eq first.stored.listed, ofInterrupts_eq second.stored.listed] at same
  -- Each entry stands under its own number, which its member tells together with its name.
  have tables : ((sortedInterrupts d.interrupts).map Prod.snd).map vectorEntry =
      ((sortedInterrupts e.interrupts).map Prod.snd).map vectorEntry := by
    refine (showable_interrupts first).tells (showable_interrupts second) same ?_
    intro i _ j _ name vector
    unfold vectorEntry Interrupt.undescribed
    rw [name, Except.ok.inj vector]
  refine (vectors_perm first.stored).trans ?_
  rw [tables]
  exact (vectors_perm second.stored).symm

/-! ## The device -/

theorem ofCpu_tells {b c : Cpu} (fits : b.Fits) (also : c.Fits) (same : ofCpu b = ofCpu c) :
    b = c := by
  simp only [ofCpu, given_eq, Value.object.injEq] at same
  have slots := filled_inj ["name", "revision", "endian", "mpu_present", "fpu_present",
    "nvic_prio_bits", "vendor_systick_config"] (by decide) rfl rfl same
  simp only [List.map_cons, List.map_nil, List.cons.injEq, Prod.mk.injEq, true_and,
    and_true] at slots
  obtain ⟨name, revision, endian, mpu, fpu, bits, systick⟩ := slots
  cases b
  cases c
  simp only [Cpu.mk.injEq]
  exact ⟨present_text fits.name also.name name, present_text fits.revision also.revision revision,
    present_text fits.endian also.endian endian,
    present_truth fits.mpuPresent also.mpuPresent mpu,
    present_truth fits.fpuPresent also.fpuPresent fpu,
    present_word fits.nvicPrioBits also.nvicPrioBits bits,
    present_truth fits.vendorSystickConfig also.vendorSystickConfig systick⟩

theorem showable_peripherals (legible : d.Legible) :
    Showable Peripheral.name ofPeripheral d.peripherals where
  labels := legible.peripherals
  texts p listed := (legible.legible p listed).fits.name
  bodies p listed := ofPeripheral_ok (legible.legible p listed)

theorem peripherals_tell (first : d.Legible) (second : e.Legible)
    (same : named Peripheral.name ofPeripheral d.peripherals =
      named Peripheral.name ofPeripheral e.peripherals) :
    d.peripherals.map Peripheral.unplaced = e.peripherals.map Peripheral.unplaced := by
  refine (showable_peripherals first).tells (showable_peripherals second) same ?_
  intro p listed q inside name shown
  exact ofPeripheral_tells (first.legible p listed) (second.legible q inside) name shown

/-- The outline of a legible device exists, and shows all of its peripherals. -/
theorem outline_eq (legible : d.Legible) :
    (d.outline (.ofTexts none)).result = shown d d.peripherals ∧
      ∃ v, shown d d.peripherals = .ok v := by
  obtain ⟨members, peripherals, -⟩ := (showable_peripherals legible).named_eq
  obtain ⟨entries, interrupts, -⟩ := (showable_interrupts legible).named_eq
  rw [← ofInterrupts_eq legible.stored.listed] at interrupts
  have all : d.outlined (.ofTexts none) = d.peripherals := by
    refine List.filter_eq_self.mpr fun p listed => ?_
    rw [(showable_peripherals legible).isNothing listed]
    rfl
  constructor
  · rw [Device.outline_result rfl, all]
  · unfold shown
    rw [peripherals, interrupts]
    exact ⟨_, rfl⟩

theorem shown_tells (first : d.Legible) (second : e.Legible)
    (same : shown d d.peripherals = shown e e.peripherals) : d.ToldAlike e := by
  obtain ⟨members, peripherals, -⟩ := (showable_peripherals first).named_eq
  obtain ⟨others, otherPeripherals, -⟩ := (showable_peripherals second).named_eq
  obtain ⟨entries, interrupts, -⟩ := (showable_interrupts first).named_eq
  obtain ⟨otherEntries, otherInterrupts, -⟩ := (showable_interrupts second).named_eq
  rw [← ofInterrupts_eq first.stored.listed] at interrupts
  rw [← ofInterrupts_eq second.stored.listed] at otherInterrupts
  unfold shown at same
  rw [peripherals, otherPeripherals, interrupts, otherInterrupts] at same
  replace same := Value.object.inj (Except.ok.inj same)
  simp only [ownMembers, given_eq, filled_always, filled_optional, filled_append] at same
  have slots := filled_inj ["name", "version", "description", "address_unit_bits", "width", "size",
    "reset_value", "reset_mask", "cpu", "peripherals", "interrupts"] (by decide) rfl rfl same
  simp only [List.map_cons, List.map_nil, List.cons_append, List.nil_append, List.cons.injEq,
    Prod.mk.injEq, true_and, and_true, Option.some.injEq] at slots
  obtain ⟨name, version, description, unit, width, size, reset, mask, cpu, shown, told⟩ := slots
  refine ⟨?_, peripherals_tell first second (by rw [peripherals, otherPeripherals, shown]),
    interrupts_tell first second (by rw [interrupts, otherInterrupts, told])⟩
  have fits := first.fits
  have also := second.fits
  simp only [Device.mk.injEq]
  refine ⟨present_text fits.name also.name name, present_text fits.version also.version version,
    present_text fits.description also.description description, ?_,
    present_word fits.addressUnitBits also.addressUnitBits unit,
    present_word fits.maxBitWidth also.maxBitWidth width,
    present_word fits.defaultSize also.defaultSize size,
    present_word fits.defaultResetValue also.defaultResetValue reset,
    present_word fits.defaultResetMask also.defaultResetMask mask, trivial, trivial⟩
  refine optional_tells (fun b has c other => ?_) cpu
  exact ofCpu_tells (fits.cpu b has) (also.cpu c other)

/-! ## What an outline leaves out -/

theorem ofRegister_unplaced (x : Register) : ofRegister x.unplaced = ofRegister x := by
  have fields : named Field.name (fun f => .ok (ofField f)) (x.fields.map Field.unplaced) =
      named Field.name (fun f => .ok (ofField f)) x.fields :=
    named_map Field.unplaced (fun _ => rfl) (fun _ => rfl) x.fields
  unfold ofRegister Register.unplaced
  dsimp only
  rw [fields]

theorem ofPeripheral_unplaced (p : Peripheral) : ofPeripheral p.unplaced = ofPeripheral p := by
  unfold ofPeripheral Peripheral.unplaced
  dsimp only
  rw [named_map Register.unplaced (fun _ => rfl) ofRegister_unplaced]

theorem stored_vectors (stored : Interrupt.Stored d.interrupts) : Interrupt.Stored d.vectors where
  own := List.forall_mem_map.mpr stored.own
  fits := List.forall_mem_map.mpr fun entry listed =>
    { stored.fits entry listed with description := isText_empty }
  numbered := List.forall_mem_map.mpr stored.numbered
  distinct := by
    unfold Device.vectors
    rw [List.map_map]
    exact stored.distinct

theorem ofInterrupts_vectors (stored : Interrupt.Stored d.interrupts) :
    ofInterrupts { d with interrupts := d.vectors } = ofInterrupts d := by
  have sorted : sortedInterrupts d.vectors =
      (sortedInterrupts d.interrupts).map fun entry => (entry.1, entry.2.undescribed) := by
    refine Eq.symm (List.map_mergeSort ?_)
    intro _ _ _ _
    rfl
  have listed : (sortedInterrupts d.vectors).map Prod.snd =
      ((sortedInterrupts d.interrupts).map Prod.snd).map Interrupt.undescribed := by
    rw [sorted, List.map_map, List.map_map]
    rfl
  rw [ofInterrupts_eq (d := { d with interrupts := d.vectors }) (stored_vectors stored).listed,
    ofInterrupts_eq stored.listed, listed]
  exact named_map Interrupt.undescribed (fun _ => rfl) (fun _ => rfl) _

theorem shown_of_toldAlike (first : d.Legible) (second : e.Legible) (alike : d.ToldAlike e) :
    shown d d.peripherals = shown e e.peripherals := by
  have own : ownMembers d = ownMembers e := by
    have told := congrArg ownMembers alike.own
    exact told
  have peripherals : named Peripheral.name ofPeripheral d.peripherals =
      named Peripheral.name ofPeripheral e.peripherals := by
    rw [← named_map Peripheral.unplaced (fun _ => rfl) ofPeripheral_unplaced d.peripherals,
      alike.peripherals, named_map Peripheral.unplaced (fun _ => rfl) ofPeripheral_unplaced]
  have interrupts : ofInterrupts d = ofInterrupts e := by
    have tables := @interruptTable_perm { d with interrupts := d.vectors }
      { e with interrupts := e.vectors } (stored_vectors first.stored) alike.interrupts
    rw [← ofInterrupts_vectors first.stored, ← ofInterrupts_vectors second.stored, ofInterrupts,
      ofInterrupts, tables]
  unfold shown
  rw [own, peripherals, interrupts]

end

end Outline

/-- Two legible devices have outlines, and these are the same just if the devices differ in nothing
that an outline leaves out. -/
theorem Device.outlines_eq_iff {d e : Device} (first : d.Legible) (second : e.Legible) :
    ∃ v w, (d.outline (.ofTexts none)).result = .ok v ∧ (e.outline (.ofTexts none)).result = .ok w ∧
      (v = w ↔ d.ToldAlike e) := by
  obtain ⟨outlined, v, shown⟩ := Outline.outline_eq first
  obtain ⟨also, w, shownOther⟩ := Outline.outline_eq second
  refine ⟨v, w, outlined.trans shown, also.trans shownOther, ?_⟩
  constructor
  · rintro rfl
    exact Outline.shown_tells first second (shown.trans shownOther.symm)
  · intro alike
    have same := Outline.shown_of_toldAlike first second alike
    rw [shown, shownOther] at same
    exact Except.ok.inj same

/-! ## Devices that were read -/

namespace Document

/-- An outline would leave out a setting that is null or an empty text. -/
structure Settings.Given (o : Settings) : Prop where
  registerSize : isGiven o.registerSize = true
  resetValue : isGiven o.resetValue = true

section

variable {o : Settings}

theorem isGiven_of_isWord {v : Value} (word : v.IsWord) : isGiven v = true := by
  obtain ⟨n, -, rfl⟩ := word
  rfl

theorem legible_of_counterpart (settings : o.Given) {owner : Value} {x y : Register}
    (fits : x.Fits) (held : x.Counterpart (Reader.settingsContrast {} o) y)
    (carries : y.Carries owner) (fields : Labels Field.name y.fields) : y.Legible owner := by
  obtain ⟨sized, reset⟩ := held
  refine ⟨?_, ?_, ?_, carries, fields⟩
  · exact { fits with
      size := isWord_of_le (Nat.zero_le _), resetValue := isWord_of_le (Nat.zero_le _) }
  · rcases sized with rfl | ⟨-, rfl⟩
    · exact isGiven_of_isWord fits.size
    · exact settings.registerSize
  · rcases reset with rfl | ⟨-, rfl⟩
    · exact isGiven_of_isWord fits.resetValue
    · exact settings.resetValue

theorem Reader.legible_fed (settings : o.Given) (lines : List String)
    (labelled : (fed o {} lines).device.Labelled) : (fed o {} lines).device.Legible := by
  obtain ⟨plain, peripherals, fits, each, same⟩ := counterpart_fed o lines
  have coheres := namesCohere_fed o lines
  rw [same] at labelled coheres ⊢
  refine ⟨{ fits.own with }, fits.interrupts, fun q listed => ?_, labelled.peripherals,
    labelled.interrupts⟩
  obtain ⟨p, source, ⟨registers⟩⟩ := exists_of_forall₂ each listed
  refine ⟨{ fits.peripherals p source with registers := nofun }, fun y inside => ?_,
    labelled.registers _ listed⟩
  obtain ⟨x, origin, held⟩ := exists_of_forall₂ registers inside
  exact legible_of_counterpart settings ((fits.peripherals p source).registers x origin) held
    (coheres _ listed y inside) (labelled.fields _ listed y inside)

theorem legible_read (settings : o.Given) (lines : List String)
    (labelled : (read o lines).device.Labelled) : (read o lines).device.Legible := by
  obtain ⟨taken, -, same⟩ := read_reader o lines
  unfold Reading.device at labelled ⊢
  rw [same] at labelled ⊢
  exact Reader.legible_fed settings taken labelled

end

/-- Readings of two documents, if in each model the entities that stand together have different
names and none has an empty one, have outlines. These are the same just if the models are the same
in everything but the descriptions and the order of interrupts and the names of their registers
that fields carry; so what is not set, empty, zero and false values, and a processor or an address
block that is missing or has nothing set, are told apart. -/
theorem outlines_tell_devices {o u : Settings} (settings : o.Given) (others : u.Given)
    {lines more : List String} (labelled : (read o lines).device.Labelled)
    (also : (read u more).device.Labelled) :
    ∃ v w, ((read o lines).device.outline (.ofTexts none)).result = .ok v ∧
      ((read u more).device.outline (.ofTexts none)).result = .ok w ∧
      (v = w ↔ (read o lines).device.ToldAlike (read u more).device) :=
  Device.outlines_eq_iff (legible_read settings lines labelled) (legible_read others more also)

/-- A document with two interrupts and a register. -/
def oneRegister (interrupts register : List String) : List String :=
  ["<peripherals>", "<peripheral>", "<name>A</name>", "<baseAddress>0x10</baseAddress>"] ++
    interrupts ++ ["<registers>", "<register>"] ++ register ++
    ["</register>", "</registers>", "</peripheral>", "</peripherals>", "</device>"]

/-- The register gets its name behind its field. -/
def lateName : List String :=
  oneRegister
    ["<interrupt>", "<name>I</name>", "<value>5</value>", "</interrupt>",
      "<interrupt>", "<name>J</name>", "<value>3</value>", "</interrupt>"]
    ["<fields>", "<field>", "<name>F</name>", "</field>", "</fields>", "<name>R</name>"]

/-- The register gets its name before its field, and the interrupts come the other way round. -/
def earlyName : List String :=
  oneRegister
    ["<interrupt>", "<name>J</name>", "<value>3</value>", "</interrupt>", "<interrupt>",
      "<name>I</name>", "<description>other</description>", "<value>5</value>", "</interrupt>"]
    ["<name>R</name>", "<fields>", "<field>", "<name>F</name>", "</field>", "</fields>"]

/-- The device with the register, whose field carries this name of it. -/
def deviceWithField (registerName : Text) (interrupts : List (Value × Interrupt)) : Device where
  peripherals := [{
    name := .ofString "A"
    baseAddress := .int 16
    registers := [{
      peripheralName := .ofString "A"
      name := .ofString "R"
      fields := [{
        peripheralName := .ofString "A"
        registerName := .text registerName
        name := .ofString "F" }] }] }]
  interrupts := interrupts

def lateDevice : Device :=
  deviceWithField [] [(.int 5, { name := .ofString "I", vector := .int 5 }),
    (.int 3, { name := .ofString "J", vector := .int 3 })]

def earlyDevice : Device :=
  deviceWithField "R" [(.int 3, { name := .ofString "J", vector := .int 3 }),
    (.int 5,
      { name := .ofString "I", description := .ofString "other", vector := .int 5 })]

/-- Devices that differ only in what is left out have one outline, and a processor with nothing set
makes another one. -/
theorem outlines_tell_devices_lateName :
    (read {} lateName).device = lateDevice ∧ (read {} earlyName).device = earlyDevice ∧
      lateDevice ≠ earlyDevice ∧
      (∃ v, (lateDevice.outline (.ofTexts none)).result = .ok v ∧
        (earlyDevice.outline (.ofTexts none)).result = .ok v) ∧
      ∃ v w, ((read {} ["</device>"]).device.outline (.ofTexts none)).result = .ok v ∧
        ((read {} ["<cpu>", "</cpu>", "</device>"]).device.outline (.ofTexts none)).result = .ok w ∧
        v ≠ w := by
  have settings : Settings.Given {} := ⟨rfl, rfl⟩
  have late : (read {} lateName).device = lateDevice := by decide +kernel
  have early : (read {} earlyName).device = earlyDevice := by decide +kernel
  have labelled : lateDevice.Labelled ∧ earlyDevice.Labelled := by decide +kernel
  refine ⟨late, early, by decide +kernel, ?_, ?_⟩
  · obtain ⟨v, w, first, second, same⟩ :=
      outlines_tell_devices settings settings (late ▸ labelled.1) (early ▸ labelled.2)
    rw [late] at first same
    rw [early] at second same
    have reordered : lateDevice.ToldAlike earlyDevice := by decide +kernel
    rw [← same.mpr reordered] at second
    exact ⟨v, first, second⟩
  · have bare : (read {} ["</device>"]).device.Labelled := by decide +kernel
    have processed : (read {} ["<cpu>", "</cpu>", "</device>"]).device.Labelled := by
      decide +kernel
    obtain ⟨v, w, first, second, same⟩ := outlines_tell_devices settings settings bare processed
    have apart : ¬ (read {} ["</device>"]).device.ToldAlike
        (read {} ["<cpu>", "</cpu>", "</device>"]).device := by decide +kernel
    exact ⟨v, w, first, second, fun equal => apart (same.mp equal)⟩

end Document

end RegisterMap
