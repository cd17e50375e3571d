import RegisterMap.Proofs.AnySettings
import RegisterMap.Proofs.Outline.Merging

/-!
Outlines of devices in which names are repeated. Of the peripherals, registers and fields that share
a name the last one is shown, at the place of the first. Of the interrupts that share a name the
highest vector number is shown, at the place of the lowest. Of all other attributes just those that
are not set, and empty texts, are left out.
-/

set_option autoImplicit false

namespace RegisterMap

/-! ## Devices whose names are texts -/

structure Register.Titled (x : Register) : Prop where
  name : x.name.IsText
  fields : ∀ f ∈ x.fields, f.name.IsText

structure Peripheral.Titled (p : Peripheral) : Prop where
  name : p.name.IsText
  registers : ∀ x ∈ p.registers, x.Titled

/-- All names are texts, empty ones or not, and interrupts are listed under their vector numbers.
Nothing is said of other attributes. -/
structure Device.Titled (d : Device) : Prop where
  peripherals : ∀ p ∈ d.peripherals, p.Titled
  interrupts : ∀ entry ∈ d.interrupts, entry.2.name.IsText
  listed : Interrupt.Listed d.interrupts

/-- What is read is such a device, under any settings. -/
theorem Document.titled_read (o : Settings) (lines : List String) :
    (read o lines).device.Titled := by
  have fits := fitsUnder_read o lines
  refine ⟨fun p listed => ?_, fun entry listed => ?_, fits.interrupts.listed⟩
  · have known := fits.peripherals p listed
    refine ⟨known.name, fun x inside => ⟨(known.registers x inside).name, fun f field => ?_⟩⟩
    exact ((known.registers x inside).fields f field).name
  · exact (fits.interrupts.fits entry listed).name

/-- The vector numbers of the interrupts of a name. -/
def Device.vectorsOf (d : Device) (s : Text) : List Int :=
  (d.interrupts.filter fun entry => entry.2.name = .text s).map Interrupt.number

namespace Outline

/-! ## What outlines are to show -/

/-- The attributes that are set, without empty texts. -/
def kept (slots : List (String × Value)) : List (Text × Value) :=
  slots.filterMap fun slot =>
    if slot.2 = .null ∨ slot.2 = .text [] then none else some (Text.ofString slot.1, slot.2)

-- Zero and false are set.
example : kept [("a", .int 0), ("b", .bool false), ("c", .null), ("d", .text [])] =
    [(Text.ofString "a", .int 0), (Text.ofString "b", .bool false)] := by
  decide

def ShowsField (f : Field) (v : Value) : Prop :=
  v = .object (kept
    [("description", f.description),
      ("bit_offset", f.bitOffset),
      ("bit_width", f.bitWidth),
      ("access", .ofString f.access.text)])

def ShowsRegister (x : Register) (v : Value) : Prop :=
  ∃ fields, Merges Field.name ShowsField x.fields fields ∧
    v = .object (kept
      [("display_name", x.displayName),
        ("description", x.description),
        ("address_offset", x.addressOffset),
        ("size", x.size),
        ("reset_value", x.resetValue),
        ("access", .ofString x.access.text)] ++
      [(Text.ofString "fields", .object fields)])

def blockMember (b : AddressBlock) : Text × Value :=
  (Text.ofString "address_block",
    .object (kept [("offset", b.offset), ("size", b.size), ("usage", b.usage)]))

def ShowsPeripheral (p : Peripheral) (v : Value) : Prop :=
  ∃ registers, Merges Register.name ShowsRegister p.registers registers ∧
    v = .object (kept
      [("group_name", p.groupName),
        ("description", p.description),
        ("base_address", p.baseAddress)] ++
      p.addressBlock.toList.map blockMember ++
      [(Text.ofString "registers", .object registers)])

/-- The members stand in the order of the lowest vector numbers of their names, and show the highest
ones. -/
structure ShowsVectors (d : Device) (members : List (Text × Value)) : Prop where
  names : ∀ s, s ∈ members.map Prod.fst ↔ s ≠ [] ∧ ∃ entry ∈ d.interrupts, entry.2.name = .text s
  highest : ∀ m ∈ members, ∃ n, (d.vectorsOf m.1).max? = some n ∧ m.2 = .int n
  ascending : members.Pairwise fun a b =>
    ∃ m n, (d.vectorsOf a.1).min? = some m ∧ (d.vectorsOf b.1).min? = some n ∧ m < n

def cpuMember (c : Cpu) : Text × Value :=
  (Text.ofString "cpu", .object (kept
    [("name", c.name),
      ("revision", c.revision),
      ("endian", c.endian),
      ("mpu_present", c.mpuPresent),
      ("fpu_present", c.fpuPresent),
      ("nvic_prio_bits", c.nvicPrioBits),
      ("vendor_systick_config", c.vendorSystickConfig)]))

def ownSlots (d : Device) : List (String × Value) :=
  [("name", d.name),
    ("version", d.version),
    ("description", d.description),
    ("address_unit_bits", d.addressUnitBits),
    ("width", d.maxBitWidth),
    ("size", d.defaultSize),
    ("reset_value", d.defaultResetValue),
    ("reset_mask", d.defaultResetMask)]

def ShowsDevice (d : Device) (s : Selection) (v : Value) : Prop :=
  ∃ peripherals interrupts,
    Merges Peripheral.name ShowsPeripheral (d.peripherals.filter s.includes) peripherals ∧
      ShowsVectors d interrupts ∧
      v = .object (kept (ownSlots d) ++ d.cpu.toList.map cpuMember ++
        [(Text.ofString "peripherals", .object peripherals),
          (Text.ofString "interrupts", .object interrupts)])

/-! ## Objects -/

theorem isGiven_iff (v : Value) : isGiven v = true ↔ ¬(v = .null ∨ v = .text []) := by
  cases v <;> simp [isGiven, Value.isNull]

theorem given_eq_kept (slots : List (String × Value)) : given slots = kept slots := by
  rw [given_eq, filled, kept, List.filterMap_map]
  refine List.filterMap_congr fun slot _ => ?_
  rw [Function.comp_apply, present]
  by_cases omitted : slot.2 = .null ∨ slot.2 = .text []
  · rw [if_pos omitted, if_neg fun given => (isGiven_iff _).mp given omitted]
    rfl
  · rw [if_neg omitted, if_pos ((isGiven_iff _).mpr omitted)]
    rfl

theorem optional_eq {α : Type} (name : String) (write : α → Value) (entity : Option α) :
    (entity.map fun e => always name (write e)).getD [] =
      entity.toList.map fun e => (Text.ofString name, write e) := by
  cases entity <;> rfl

theorem showsField_ofField (f : Field) : ShowsField f (ofField f) :=
  congrArg Value.object (given_eq_kept _)

theorem shows_ofRegister {x : Register} (titled : x.Titled) :
    ∃ v, ofRegister x = .ok v ∧ ShowsRegister x v := by
  have shown : ∀ f ∈ x.fields, ∃ v, (.ok (ofField f) : Except Misfit Value) = .ok v ∧
      ShowsField f v :=
    fun f _ => ⟨ofField f, rfl, showsField_ofField f⟩
  obtain ⟨fields, made, merges⟩ := named_merges titled.fields shown
  refine ⟨_, by rw [ofRegister, made]; rfl, fields, merges, ?_⟩
  rw [given_eq_kept]
  rfl

theorem blockMember_eq (b : AddressBlock) :
    blockMember b = (Text.ofString "address_block", ofAddressBlock b) := by
  rw [blockMember, ← given_eq_kept]
  rfl

theorem cpuMember_eq (c : Cpu) : cpuMember c = (Text.ofString "cpu", ofCpu c) := by
  rw [cpuMember, ← given_eq_kept]
  rfl

theorem ownMembers_eq (d : Device) :
    ownMembers d = kept (ownSlots d) ++ d.cpu.toList.map cpuMember := by
  rw [ownMembers, given_eq_kept, optional_eq, funext cpuMember_eq]
  rfl

theorem shows_ofPeripheral {p : Peripheral} (titled : p.Titled) :
    ∃ v, ofPeripheral p = .ok v ∧ ShowsPeripheral p v := by
  obtain ⟨registers, made, merges⟩ := named_merges
    (fun x listed => (titled.registers x listed).name)
    fun x listed => shows_ofRegister (titled.registers x listed)
  refine ⟨_, by rw [ofPeripheral, made]; rfl, registers, merges, ?_⟩
  rw [given_eq_kept, optional_eq, funext blockMember_eq]
  rfl

/-- Entities that are shown under other names and in other ways than these show themselves. -/
theorem named_comp {α β : Type} (name : α → Value) (body : α → Except Misfit Value) (f : β → α)
    (entities : List β) :
    named name body (entities.map f) = named (name ∘ f) (body ∘ f) entities := by
  unfold named
  rw [List.filter_map, List.mapM_map]
  rfl

/-- Only peripherals that have a name are shown, whether they are selected by it or not. -/
theorem named_outlined (d : Device) (s : Selection) (body : Peripheral → Except Misfit Value) :
    named Peripheral.name body (d.outlined s) =
      named Peripheral.name body (d.peripherals.filter s.includes) := by
  unfold named Device.outlined
  rw [List.filter_filter, List.filter_filter]
  simp only [← Bool.and_assoc, Bool.and_self]

/-! ## Interrupts -/

section

variable {d : Device}

open Interrupt (number)

theorem sortedInterrupts_strict (listed : Interrupt.Listed d.interrupts) :
    (sortedInterrupts d.interrupts).Pairwise fun a b => number a < number b := by
  have perm := sortedInterrupts_perm d.interrupts
  have distinct : (sortedInterrupts d.interrupts).Nodup :=
    perm.nodup_iff.mpr (List.Nodup.of_map _ listed.distinct)
  -- Two entries of one number would be the same entry, but each is listed once.
  refine ((sortedInterrupts_pairwise d.interrupts).and distinct).imp_of_mem ?_
  rintro a b first second ⟨less, apart⟩
  refine lt_of_le_of_ne less fun same => apart ?_
  exact listed.eq_of_number (perm.mem_iff.mp first) (perm.mem_iff.mp second) same

theorem mem_vectorsOf_iff {s : Text} {n : Int} :
    n ∈ d.vectorsOf s ↔
      n ∈ ((sortedInterrupts d.interrupts).filter fun entry => entry.2.name = .text s).map number :=
  (((sortedInterrupts_perm d.interrupts).filter _).map number).mem_iff.symm

/-- The first interrupt of a name in the order of numbers has the lowest number of the name. -/
theorem min?_vectorsOf {s : Text} {entry : Value × Interrupt}
    (first : firstNamed? (fun entry => entry.2.name) s (sortedInterrupts d.interrupts) =
      some entry) :
    (d.vectorsOf s).min? = some (number entry) := by
  obtain ⟨rest, same⟩ := List.head?_eq_some_iff.mp first
  have sorted := (sortedInterrupts_pairwise d.interrupts).filter fun entry => entry.2.name = .text s
  rw [same] at sorted
  simp only [List.min?_eq_some_iff, mem_vectorsOf_iff, same, List.mem_map]
  refine ⟨⟨entry, List.mem_cons_self, rfl⟩, ?_⟩
  rintro _ ⟨other, member, rfl⟩
  rcases List.mem_cons.mp member with rfl | behind
  · exact le_rfl
  · exact (List.pairwise_cons.mp sorted).1 other behind

/-- The last one has the highest number. -/
theorem max?_vectorsOf {s : Text} {entry : Value × Interrupt}
    (last : lastNamed? (fun entry => entry.2.name) s (sortedInterrupts d.interrupts) = some entry) :
    (d.vectorsOf s).max? = some (number entry) := by
  obtain ⟨rest, same⟩ := List.getLast?_eq_some_iff.mp last
  have sorted := (sortedInterrupts_pairwise d.interrupts).filter fun entry => entry.2.name = .text s
  rw [same] at sorted
  simp only [List.max?_eq_some_iff, mem_vectorsOf_iff, same, List.mem_map]
  refine ⟨⟨entry, List.mem_append_right _ List.mem_cons_self, rfl⟩, ?_⟩
  rintro _ ⟨other, member, rfl⟩
  rcases List.mem_append.mp member with before | here
  · exact (List.pairwise_append.mp sorted).2.2 other before entry List.mem_cons_self
  · rw [List.mem_singleton.mp here]

theorem showsVectors_of_merges {members : List (Text × Value)}
    (listed : Interrupt.Listed d.interrupts)
    (merges : Merges (fun entry : Value × Interrupt => entry.2.name)
      (fun entry v => v = entry.2.vector) (sortedInterrupts d.interrupts) members) :
    ShowsVectors d members where
  names s := by
    rw [merges.names, List.mem_eraseDups, mem_titles_iff]
    simp only [(sortedInterrupts_perm d.interrupts).mem_iff]
  highest m member := by
    obtain ⟨entry, last, shown⟩ := merges.values m member
    have inside := (sortedInterrupts_perm d.interrupts).mem_iff.mp (mem_of_lastNamed? last).1
    refine ⟨number entry, max?_vectorsOf last, ?_⟩
    rw [shown, ← listed.own entry inside, listed.key_eq inside]
  ascending := by
    have order := firsts_pairwise (fun entry : Value × Interrupt => entry.2.name)
      (sortedInterrupts_strict listed)
    rw [← merges.names, List.pairwise_map] at order
    refine order.imp ?_
    rintro a b ⟨x, y, first, second, less⟩
    exact ⟨_, _, min?_vectorsOf first, min?_vectorsOf second, less⟩

theorem shows_ofInterrupts (titled : d.Titled) :
    ∃ members, ofInterrupts d = .ok (.object members) ∧ ShowsVectors d members := by
  have texts : ∀ entry ∈ sortedInterrupts d.interrupts, entry.2.name.IsText := fun entry sorted =>
    titled.interrupts entry ((sortedInterrupts_perm d.interrupts).mem_iff.mp sorted)
  have shown : ∀ entry ∈ sortedInterrupts d.interrupts,
      ∃ v, (.ok entry.2.vector : Except Misfit Value) = .ok v ∧ v = entry.2.vector :=
    fun _ _ => ⟨_, rfl, rfl⟩
  obtain ⟨members, made, merges⟩ := named_merges texts shown
  refine ⟨members, ?_, showsVectors_of_merges titled.listed merges⟩
  rw [ofInterrupts_eq titled.listed, named_comp]
  exact made

end

end Outline

/-! ## Devices -/

/-- In the outline of a device whose names are texts, each object of peripherals, registers or
fields has the distinct names that are not empty in the order in which they first occur, and shows
the last entity of each. The interrupts are ordered by the lowest vector number of their names, and
show the highest. Just what is not set, and empty texts, are left out besides; the objects of
peripherals, registers, fields and interrupts are always there. -/
theorem Device.repeated_names_are_merged {d : Device} (titled : d.Titled)
    (names : Option (List Text)) :
    ∃ v, (d.outline (.ofTexts names)).result = .ok v ∧
      Outline.ShowsDevice d (.ofTexts names) v := by
  have fit : ∀ p ∈ d.peripherals, p.name.isName = true := by
    intro p listed
    obtain ⟨s, named⟩ := (titled.peripherals p listed).name
    rw [named]
    rfl
  have selected : ∀ p ∈ d.peripherals.filter (Selection.ofTexts names).includes, p.Titled :=
    fun p kept => titled.peripherals p (List.mem_filter.mp kept).1
  obtain ⟨peripherals, shown, merges⟩ := Outline.named_merges (fun p kept => (selected p kept).name)
    fun p kept => Outline.shows_ofPeripheral (selected p kept)
  obtain ⟨interrupts, listed, vectors⟩ := Outline.shows_ofInterrupts titled
  refine ⟨_, ?_, peripherals, interrupts, merges, vectors, rfl⟩
  rw [outline_result (Selection.check_result fit names), Outline.shown, Outline.named_outlined,
    shown, listed, Outline.ownMembers_eq]
  exact congrArg (fun members => Except.ok (Value.object members)) (List.append_assoc _ _ _)

/-- Two peripherals of one name with one of another name and a nameless one between them, a register
that is described twice, and two interrupts of one name. -/
def repeating : List String :=
  ["<peripherals>",
    "<peripheral>", "<name>A</name>",
    "<interrupt>", "<name>I</name>", "<value>7</value>", "</interrupt>",
    "<interrupt>", "<name>J</name>", "<value>2</value>", "</interrupt>",
    "<interrupt>", "<name>I</name>", "<value>0</value>", "</interrupt>", "</peripheral>",
    "<peripheral>", "<name>B</name>", "</peripheral>",
    "<peripheral>", "</peripheral>",
    "<peripheral>", "<name>A</name>", "<baseAddress>0x0</baseAddress>", "<registers>",
    "<register>", "<name>R</name>", "</register>",
    "<register>", "<name>R</name>", "<description>last</description>", "</register>"]

theorem Device.repeated_names_are_merged_repeating :
    let d := (Document.read {} repeating).device
    d.Titled ∧
      (∃ v, (d.outline (.ofTexts none)).result = .ok v ∧ Outline.ShowsDevice d (.ofTexts none) v) ∧
      (Outline.titles Peripheral.name d.peripherals).eraseDups = [Text.ofString "A", "B"] ∧
      ((Outline.lastNamed? Peripheral.name "A" d.peripherals).map fun p =>
        (p.baseAddress, (Outline.lastNamed? Register.name "R" p.registers).map
          Register.description)) = some (.int 0, some (.ofString "last")) ∧
      d.vectorsOf "I" = [7, 0] ∧ d.vectorsOf "J" = [2] :=
  ⟨Document.titled_read {} repeating,
    repeated_names_are_merged (Document.titled_read {} repeating) none, by decide +kernel⟩

end RegisterMap
