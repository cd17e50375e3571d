import RegisterMap.Proofs.Canonical.Places

/-!
Canonical descriptions are read back. Every part of a device is read from its own lines at the place
where it stands: an attribute into its entity, and an entity behind those that were read before.
-/

set_option autoImplicit false

namespace RegisterMap.Document

namespace Reader

section

variable {o : Settings} (seen : Bool)

theorem reads_cpu (d : Device) {c : Cpu} (canonical : c.Canonical) :
    Reads o (placed .device seen d) c.lines (placed .device seen { d with cpu := some c }) := by
  have enters : Enters o (placed .device seen d) .cpu (inCpuOf seen d {}) := by
    intro n t mark _
    refine ⟨[.moved n .device .cpu], ?_⟩
    change inDevice _ t = _
    rw [inDevice, mark]
    rfl
  have leaves : Leaves o (inCpuOf seen d c) .cpu (placed .device seen { d with cpu := some c }) :=
    .of_passage .cpuClosed
  have describes := fun e => describes_cpu (o := o) seen e d
  have attributes := Reads.nil (inCpuOf seen d {})
    |>.text (describes .name) (fun v c => { c with name := v }) (fun _ => rfl) canonical.name rfl
    |>.text (describes .revision) (fun v c => { c with revision := v }) (fun _ => rfl)
      canonical.revision rfl
    |>.text (describes .endian) (fun v c => { c with endian := v }) (fun _ => rfl)
      canonical.endian rfl
    |>.truth (describes .mpuPresent) (fun v c => { c with mpuPresent := v }) (fun _ => rfl)
      canonical.mpuPresent rfl
    |>.truth (describes .fpuPresent) (fun v c => { c with fpuPresent := v }) (fun _ => rfl)
      canonical.fpuPresent rfl
    |>.decimal (describes .nvicPrioBits) (fun v c => { c with nvicPrioBits := v }) (fun _ => rfl)
      canonical.nvicPrioBits (fun _ => rfl)
    |>.truth (describes .vendorSystickConfig) (fun v c => { c with vendorSystickConfig := v })
      (fun _ => rfl) canonical.vendorSystickConfig rfl
  exact enters.around attributes leaves

variable (d : Device) (before : List Peripheral)

theorem reads_addressBlock (p : Peripheral) {b : AddressBlock} (canonical : b.Canonical) :
    Reads o (housing .peripheral false d before p) b.lines
      (housing .peripheral true d before { p with addressBlock := some b }) := by
  have enters : Enters o (housing .peripheral false d before p) .addressBlock
      (inBlockOf d before p {}) := by
    intro n t mark _
    refine ⟨[.moved n .peripheral .addressBlock], ?_⟩
    change inPeripheral _ t = _
    rw [inPeripheral, mark]
    simp only [openAddressBlock, inBlockOf, housing, placed, changePeripheral, changeDevice,
      Device.changePeripheral, changeLast_append]
    rfl
  have leaves : Leaves o (inBlockOf d before p b) .addressBlock
      (housing .peripheral true d before { p with addressBlock := some b }) :=
    .of_passage .addressBlockClosed
  have describes := fun e => describes_addressBlock (o := o) e d before p
  have attributes := Reads.nil (inBlockOf d before p {})
    |>.hex (describes .offset) (fun v b => { b with offset := v }) (fun _ => rfl)
      canonical.offset (fun _ => rfl)
    |>.hex (describes .size) (fun v b => { b with size := v }) (fun _ => rfl)
      canonical.size (fun _ => rfl)
    |>.text (describes .usage) (fun v b => { b with usage := v }) (fun _ => rfl)
      canonical.usage rfl
  exact enters.around attributes leaves

theorem reads_interrupt {i : Interrupt} (canonical : i.Canonical) (free : d.admits i = true) :
    Reads o (placed .peripheral seen d) i.lines
      (placed .peripheral seen { d with interrupts := d.interrupts ++ [(i.vector, i)] }) := by
  have enters : Enters o (placed .peripheral seen d) .interrupt (inInterruptOf seen d {}) := by
    intro n t mark _
    refine ⟨[.moved n .peripheral .interrupt], ?_⟩
    change inPeripheral _ t = _
    rw [inPeripheral, mark]
    rfl
  have leaves : Leaves o (inInterruptOf seen d i) .interrupt
      (placed .peripheral seen { d with interrupts := d.interrupts ++ [(i.vector, i)] }) := by
    intro n t mark
    have added : d.addInterrupt i = { d with interrupts := d.interrupts ++ [(i.vector, i)] } :=
      if_pos free
    refine ⟨(if d.admits i then [] else [.interruptDropped n i.name i.vector]) ++
      [.moved n .interrupt .peripheral], ?_⟩
    change inInterrupt _ t = _
    rw [inInterrupt, mark, ← added]
    rfl
  have describes := fun e => describes_interrupt (o := o) seen e d
  have attributes := Reads.nil (inInterruptOf seen d {})
    |>.text (describes .name) (fun v i => { i with name := v }) (fun _ => rfl) canonical.name rfl
    |>.text (describes .description) (fun v i => { i with description := v }) (fun _ => rfl)
      canonical.description rfl
    |>.decimal (describes .value) (fun v i => { i with vector := v }) (fun _ => rfl)
      (Or.inr canonical.vector) (fun _ => rfl)
  exact enters.around attributes leaves

variable (p : Peripheral)

theorem reads_field (earlier : List Register) (x : Register) (fields : List Field) {f : Field}
    (canonical : f.Canonical p.name x.name) :
    Reads o (holdingRegister .fields seen d before p earlier { x with fields := fields }) f.lines
      (holdingRegister .fields seen d before p earlier { x with fields := fields ++ [f] }) := by
  have enters : Enters o
      (holdingRegister .fields seen d before p earlier { x with fields := fields }) .field
      (inFieldOf seen d before p earlier x fields (newField p x)) := by
    intro n t mark _
    refine ⟨[.moved n .fields .field], ?_⟩
    change inFields _ t = _
    rw [inFields, mark]
    simp only [openField, enter, holdingRegister, housing, placed, changePeripheral, changeDevice,
      Device.changePeripheral, Peripheral.changeRegister, changeLast_append]
    rfl
  have leaves : Leaves o (inFieldOf seen d before p earlier x fields f) .field
      (holdingRegister .fields seen d before p earlier { x with fields := fields ++ [f] }) := by
    intro n t mark
    refine ⟨[.moved n .field .fields], ?_⟩
    change inField _ t = _
    rw [inField, mark]
    rfl
  have describes := fun e => describes_field (o := o) seen e d before p earlier x fields
  have attributes := Reads.nil (inFieldOf seen d before p earlier x fields (newField p x))
    |>.text (describes .name (by decide)) (fun v f => { f with name := v }) (fun _ => rfl)
      canonical.name rfl
    |>.text (describes .description (by decide)) (fun v f => { f with description := v })
      (fun _ => rfl) canonical.description rfl
    |>.decimal (describes .bitOffset (by decide)) (fun v f => { f with bitOffset := v })
      (fun _ => rfl) canonical.bitOffset (fun _ => rfl)
    |>.decimal (describes .bitWidth (by decide)) (fun v f => { f with bitWidth := v })
      (fun _ => rfl) canonical.bitWidth (fun _ => rfl)
    |>.access (describes .access (by decide)) (fun a f => { f with access := a })
      (fun _ => rfl) f.access
  -- A field begins with the access right of its register, and its own is written in any case.
  have same : { f with peripheralName := p.name, registerName := x.name } = f := by
    rw [← canonical.peripheral, ← canonical.register]
  refine enters.around ?_ leaves
  rw [← same]
  exact attributes

theorem reads_fields (earlier : List Register) {x : Register} (canonical : x.Canonical p.name) :
    Reads o (holdingRegister .register seen d before p earlier { x with fields := [] })
      (Element.fields.around (x.fields.flatMap Field.lines))
      (holdingRegister .register seen d before p earlier x) := by
  have enters : Enters o (holdingRegister .register seen d before p earlier { x with fields := [] })
      .fields (holdingRegister .fields seen d before p earlier { x with fields := [] }) :=
    .of_passage .fieldsOpened
  have leaves : Leaves o (holdingRegister .fields seen d before p earlier x) .fields
      (holdingRegister .register seen d before p earlier x) :=
    .of_passage .fieldsClosed
  have fields : Reads o (holdingRegister .fields seen d before p earlier { x with fields := [] })
      (x.fields.flatMap Field.lines)
      (holdingRegister .fields seen d before p earlier { x with fields := x.fields }) :=
    Reads.flatMap Field.lines
      (fun fields => holdingRegister .fields seen d before p earlier { x with fields := fields })
      fun done f rest whole =>
        reads_field seen d before p earlier x done (canonical.fields f (by simp [← whole]))
  exact enters.around fields leaves

theorem reads_register (earlier : List Register) {x : Register} (canonical : x.Canonical p.name)
    (based : p.baseAddress ≠ .null) :
    Reads o (housing .registers seen d before { p with registers := earlier }) x.lines
      (housing .registers seen d before { p with registers := earlier ++ [x] }) := by
  have enters : Enters o (housing .registers seen d before { p with registers := earlier })
      .register (holdingRegister .register seen d before p earlier (newRegister o d p)) := by
    intro n t mark _
    refine ⟨[.moved n .registers .register], ?_⟩
    have known : p.baseAddress.isNull = false :=
      eq_false_of_ne_true fun null => based (Value.isNull_iff.mp null)
    change inRegisters o _ t = _
    rw [inRegisters, mark]
    simp only [peripheral?, openRegister, enter, holdingRegister, housing, placed, changePeripheral,
      changeDevice, Device.changePeripheral, changeLast_append, List.getLast?_concat, known]
    rfl
  have leaves : Leaves o (holdingRegister .register seen d before p earlier x) .register
      (housing .registers seen d before { p with registers := earlier ++ [x] }) :=
    .of_passage .registerClosed
  have describes := fun e => describes_register (o := o) seen e d before p earlier
  have attributes :=
    Reads.nil (holdingRegister .register seen d before p earlier (newRegister o d p))
    |>.text (describes .name (by decide)) (fun v x => { x with name := v }) (fun _ => rfl)
      canonical.name rfl
    |>.text (describes .displayName (by decide)) (fun v x => { x with displayName := v })
      (fun _ => rfl) canonical.displayName rfl
    |>.text (describes .description (by decide)) (fun v x => { x with description := v })
      (fun _ => rfl) canonical.description rfl
    |>.hex (describes .addressOffset (by decide)) (fun v x => { x with addressOffset := v })
      (fun _ => rfl) canonical.addressOffset (fun _ => rfl)
    |>.hex (describes .size (by decide)) (fun v x => { x with size := v }) (fun _ => rfl)
      (Or.inr canonical.size) (fun null => absurd null canonical.size.ne_null)
    |>.hex (describes .resetValue (by decide)) (fun v x => { x with resetValue := v })
      (fun _ => rfl)
      (Or.inr canonical.resetValue) (fun null => absurd null canonical.resetValue.ne_null)
    |>.access (describes .access (by decide)) (fun a x => { x with access := a })
      (fun _ => rfl) x.access
  -- Size and reset value are written in any case, so that no default is left.
  have same : { x with peripheralName := p.name, fields := [] } = { x with fields := [] } := by
    rw [← canonical.peripheral]
  refine enters.around (Reads.append ?_ (reads_fields seen d before p earlier canonical)) leaves
  rw [← same]
  exact attributes

theorem reads_registers (p : Peripheral) (registers : ∀ x ∈ p.registers, x.Canonical p.name)
    (based : p.registers ≠ [] → p.baseAddress ≠ .null) :
    Reads o (housing .peripheral seen d before { p with registers := [] })
      (Element.registers.around (p.registers.flatMap Register.lines))
      (housing .peripheral seen d before p) := by
  have enters : Enters o (housing .peripheral seen d before { p with registers := [] }) .registers
      (housing .registers seen d before { p with registers := [] }) :=
    .of_passage .registersOpened
  have leaves : Leaves o (housing .registers seen d before p) .registers
      (housing .peripheral seen d before p) :=
    .of_passage .registersClosed
  have children : Reads o (housing .registers seen d before { p with registers := [] })
      (p.registers.flatMap Register.lines)
      (housing .registers seen d before { p with registers := p.registers }) :=
    Reads.flatMap Register.lines
      (fun earlier => housing .registers seen d before { p with registers := earlier })
      fun done x rest whole =>
        reads_register seen d before p done (registers x (by simp [← whole]))
          (based (by simp [← whole]))
  exact enters.around children leaves

/-- A peripheral is read from its lines, if the interrupts between them are read. -/
theorem reads_peripheral {d' : Device} {interrupts : List Interrupt} {p : Peripheral}
    (canonical : p.Canonical)
    (hosts : ∀ seen q, Reads o (housing .peripheral seen d before q)
      (interrupts.flatMap Interrupt.lines) (housing .peripheral seen d' before q)) :
    Reads o (placed .peripherals seen { d with peripherals := before }) (p.lines interrupts)
      (placed .peripherals p.addressBlock.isSome { d' with peripherals := before ++ [p] }) := by
  have enters : Enters o (placed .peripherals seen { d with peripherals := before }) .peripheral
      (housing .peripheral false d before {}) := by
    intro n t mark derived
    refine ⟨[.moved n .peripherals .peripheral], ?_⟩
    change inPeripherals _ t = _
    rw [inPeripherals, mark, derived]
    rfl
  have leaves : Leaves o (housing .peripheral p.addressBlock.isSome d' before p) .peripheral
      (placed .peripherals p.addressBlock.isSome { d' with peripherals := before ++ [p] }) :=
    .of_passage .peripheralClosed
  have describes := fun e => describes_peripheral (o := o) false e d before
  have attributes := Reads.nil (housing .peripheral false d before {})
    |>.text (describes .name (by decide)) Peripheral.rename (fun _ => rfl) canonical.name rfl
    |>.text (describes .groupName (by decide)) (fun v p => { p with groupName := v })
      (fun _ => rfl) canonical.groupName rfl
    |>.text (describes .description (by decide)) (fun v p => { p with description := v })
      (fun _ => rfl) canonical.description rfl
    |>.hex (describes .baseAddress (by decide)) (fun v p => { p with baseAddress := v })
      (fun _ => rfl) canonical.baseAddress (fun _ => rfl)
  have block : Reads o
      (housing .peripheral false d before { p with addressBlock := none, registers := [] })
      (p.addressBlock.toList.flatMap AddressBlock.lines)
      (housing .peripheral p.addressBlock.isSome d before { p with registers := [] }) := by
    cases has : p.addressBlock with
    | none => exact .nil _
    | some b =>
      have read := reads_addressBlock (o := o) d before
        { p with addressBlock := none, registers := [] } (canonical.addressBlock b has)
      rw [Option.toList_some, List.flatMap_singleton]
      exact read
  have children := ((attributes.append block).append (hosts _ _)).append
    (reads_registers _ d' before p canonical.registers canonical.based)
  exact enters.around children leaves

/-- An interrupt is admitted if none of those before it has its vector number. -/
theorem admits_of_keyed {before after : List (Value × Interrupt)} {entry : Value × Interrupt}
    (keyed : Interrupt.Keyed (before ++ entry :: after)) :
    Device.admits { d with interrupts := before } entry.2 = true := by
  have member : entry ∈ before ++ entry :: after := by simp
  obtain ⟨n, -, number⟩ := (keyed.canonical entry member).vector
  have free : before.any (fun other => other.1.alike entry.2.vector) = false := by
    rw [List.any_eq_false]
    intro other earlier
    have otherMember : other ∈ before ++ entry :: after := by simp [earlier]
    obtain ⟨m, -, otherNumber⟩ := (keyed.canonical other otherMember).vector
    have differ : other.1 ≠ entry.1 := by
      have distinct := keyed.distinct
      rw [List.map_append, List.map_cons, List.nodup_append] at distinct
      exact distinct.2.2 _ (List.mem_map_of_mem earlier) _ List.mem_cons_self
    rw [keyed.own other otherMember, keyed.own entry member, otherNumber, number] at differ
    rw [keyed.own other otherMember, otherNumber, number, Value.alike_int]
    simpa using fun same : m = n => differ (by rw [same])
  have vector : entry.2.vector.isNull = false := by
    rw [number]
    rfl
  rw [Device.admits, Device.hasVector, vector, free]
  rfl

theorem reads_interrupts {entries : List (Value × Interrupt)} (keyed : Interrupt.Keyed entries)
    (q : Peripheral) :
    Reads o (housing .peripheral seen { d with interrupts := [] } before q)
      ((entries.map Prod.snd).flatMap Interrupt.lines)
      (housing .peripheral seen { d with interrupts := entries } before q) := by
  rw [List.flatMap_map]
  refine Reads.flatMap (fun entry => entry.2.lines)
    (fun done => housing .peripheral seen { d with interrupts := done } before q) ?_
  rintro done entry rest rfl
  have member : entry ∈ done ++ entry :: rest := by simp
  have same : entry = (entry.2.vector, entry.2) := by rw [← keyed.own entry member]
  have read := reads_interrupt (o := o) seen
    { d with peripherals := before ++ [q], interrupts := done } (keyed.canonical entry member)
    (admits_of_keyed { d with peripherals := before ++ [q] } keyed)
  rw [← same] at read
  exact read

end

/-- Whether the last of the peripherals has an address block. -/
def lastHasBlock (ps : List Peripheral) : Bool := ps.getLast?.any fun p => p.addressBlock.isSome

section

variable {o : Settings} {d : Device}

theorem reads_peripheralLines (canonical : d.Canonical) :
    Reads o (placed .peripherals false { d with peripherals := [], interrupts := [] })
      d.peripheralLines (placed .peripherals (lastHasBlock d.peripherals) d) := by
  unfold Device.peripheralLines
  cases listed : d.peripherals with
  | nil =>
    have same : { d with peripherals := [], interrupts := [] } = d := by
      rw [← listed, ← canonical.housed listed]
    rw [same]
    exact .nil _
  | cons p rest =>
    have described : ∀ q ∈ p :: rest, q.Canonical := listed ▸ canonical.peripherals
    have first := reads_peripheral (o := o) false { d with interrupts := [] } []
      (described p List.mem_cons_self)
      (fun seen q => reads_interrupts seen d [] canonical.interrupts q)
    have others : Reads o
        (placed .peripherals (lastHasBlock [p]) { d with peripherals := [p] })
        (rest.flatMap fun q => q.lines [])
        (placed .peripherals (lastHasBlock (p :: rest)) { d with peripherals := p :: rest }) := by
      refine Reads.flatMap (fun q => q.lines [])
        (fun done => placed .peripherals (lastHasBlock (p :: done))
          { d with peripherals := p :: done }) fun done q after whole => ?_
      have hosts : ∀ seen q, Reads o (housing .peripheral seen d (p :: done) q)
          ([].flatMap Interrupt.lines) (housing .peripheral seen d (p :: done) q) :=
        fun _ _ => .nil _
      have read := reads_peripheral (lastHasBlock (p :: done)) d (p :: done)
        (described q (by simp [← whole])) hosts
      have last : lastHasBlock (p :: (done ++ [q])) = q.addressBlock.isSome := by
        rw [lastHasBlock, ← List.cons_append, List.getLast?_concat]
        rfl
      rw [last]
      exact read
    have same : { d with peripherals := p :: rest } = d := by
      rw [← listed]
    rw [same] at others
    exact first.append others

theorem reads_lines (canonical : d.Canonical) :
    Reads o {} d.lines (placed .finished (lastHasBlock d.peripherals) d) := by
  have enters : Enters o {} .device (placed .device false {}) := by
    intro n t mark _
    refine ⟨[], ?_⟩
    change inDevice _ t = _
    rw [inDevice, mark]
    dsimp only
    rw [describe, mark]
    cases t.content <;> rfl
  have leaves : Leaves o (placed .device (lastHasBlock d.peripherals) d) .device
      (placed .finished (lastHasBlock d.peripherals) d) :=
    .of_passage .deviceClosed
  have describes := fun e => describes_device (o := o) false e
  have attributes := Reads.nil (placed .device false {})
    |>.text (describes .name (by decide)) (fun v d => { d with name := v }) (fun _ => rfl)
      canonical.name rfl
    |>.text (describes .version (by decide)) (fun v d => { d with version := v }) (fun _ => rfl)
      canonical.version rfl
    |>.text (describes .description (by decide)) (fun v d => { d with description := v })
      (fun _ => rfl) canonical.description rfl
    |>.decimal (describes .addressUnitBits (by decide))
      (fun v d => { d with addressUnitBits := v }) (fun _ => rfl) canonical.addressUnitBits
      (fun _ => rfl)
    |>.decimal (describes .width (by decide)) (fun v d => { d with maxBitWidth := v })
      (fun _ => rfl) canonical.maxBitWidth (fun _ => rfl)
    |>.decimal (describes .size (by decide)) (fun v d => { d with defaultSize := v })
      (fun _ => rfl) canonical.defaultSize (fun _ => rfl)
    |>.decimal (describes .resetValue (by decide))
      (fun v d => { d with defaultResetValue := v }) (fun _ => rfl) canonical.defaultResetValue
      (fun _ => rfl)
    |>.decimal (describes .resetMask (by decide))
      (fun v d => { d with defaultResetMask := v }) (fun _ => rfl) canonical.defaultResetMask
      (fun _ => rfl)
  have cpu : Reads o
      (placed .device false { d with cpu := none, peripherals := [], interrupts := [] })
      (d.cpu.toList.flatMap Cpu.lines)
      (placed .device false { d with peripherals := [], interrupts := [] }) := by
    cases has : d.cpu with
    | none => exact .nil _
    | some c =>
      rw [Option.toList_some, List.flatMap_singleton]
      exact reads_cpu false _ (canonical.cpu c has)
  have peripherals : Reads o
      (placed .device false { d with peripherals := [], interrupts := [] })
      (Element.peripherals.around d.peripheralLines)
      (placed .device (lastHasBlock d.peripherals) d) := by
    have enters : Enters o (placed .device false { d with peripherals := [], interrupts := [] })
        .peripherals (placed .peripherals false { d with peripherals := [], interrupts := [] }) :=
      .of_passage .peripheralsOpened
    have leaves : Leaves o (placed .peripherals (lastHasBlock d.peripherals) d) .peripherals
        (placed .device (lastHasBlock d.peripherals) d) := .of_passage .peripheralsClosed
    exact enters.around (reads_peripheralLines canonical) leaves
  exact enters.around ((attributes.append cpu).append peripherals) leaves

end

end Reader

/-- The canonical description of a device is read without a fault, and gives the device again. -/
theorem read_lines (o : Settings) {d : Device} (canonical : d.Canonical) :
    (read o d.lines).fault = none ∧ (read o d.lines).device = d := by
  obtain ⟨m, smooth, run⟩ := Reader.reads_lines (o := o) canonical 0
  obtain ⟨reader, going⟩ := Reading.readLines_of_smooth (s := {}) rfl smooth
  have ends : (Reading.readLines o {} d.lines).reader =
      { Reader.placed .finished (Reader.lastHasBlock d.peripherals) d with line := m } :=
    reader.trans run
  rw [read, Reading.proceed, going, ends]
  exact ⟨rfl, rfl⟩

/-- A device with a processor, an interrupt, and a register of one field. -/
def sampleDevice : Device :=
  { name := .ofString "Sample"
    maxBitWidth := .int 32
    cpu := some { name := .ofString "CM4", mpuPresent := .bool true, nvicPrioBits := .int 4 }
    peripherals := [
      { name := .ofString "TIM2"
        baseAddress := .int 0x40000000
        addressBlock := some { offset := .int 0, size := .int 0x400 }
        registers := [
          { peripheralName := .ofString "TIM2"
            name := .ofString "CR1"
            addressOffset := .int 4
            fields := [
              { peripheralName := .ofString "TIM2"
                registerName := .ofString "CR1"
                name := .ofString "CEN"
                bitOffset := .int 0
                bitWidth := .int 1
                access := .readOnly }] }] },
      { name := .ofString "GPIO" }]
    interrupts := [(.int 28, { name := .ofString "TIM2", vector := .int 28 })] }

theorem sampleDevice_canonical : sampleDevice.Canonical := by
  have plain : ∀ s : String, '<' ∉ s.toList → (Value.ofString s).IsPlain := fun s clear =>
    ⟨s, rfl, clear⟩
  have word : ∀ n : Nat, n ≤ Numeral.maxWord → (Value.int n).IsWord := fun n bound =>
    ⟨n, bound, rfl⟩
  have empty : (Value.text []).IsPlain := plain "" (by decide)
  have cpu : Cpu.Canonical
      { name := .ofString "CM4", mpuPresent := .bool true, nvicPrioBits := .int 4 } :=
    ⟨plain _ (by decide), empty, empty, .inr ⟨true, rfl⟩, .inl rfl, .inr (word 4 (by decide)),
      .inl rfl⟩
  have interrupt : Interrupt.Canonical { name := .ofString "TIM2", vector := .int 28 } :=
    ⟨plain _ (by decide), empty, word 28 (by decide)⟩
  have field : Field.Canonical (.ofString "TIM2") (.ofString "CR1")
      { peripheralName := .ofString "TIM2"
        registerName := .ofString "CR1"
        name := .ofString "CEN"
        bitOffset := .int 0
        bitWidth := .int 1
        access := .readOnly } :=
    ⟨rfl, rfl, plain _ (by decide), empty, .inr (word 0 (by decide)), .inr (word 1 (by decide))⟩
  have block : AddressBlock.Canonical { offset := .int 0, size := .int 0x400 } :=
    ⟨.inr (word 0 (by decide)), .inr (word 0x400 (by decide)), empty⟩
  refine
    { name := plain _ (by decide)
      version := empty
      description := empty
      cpu := fun c same => Option.some.inj same ▸ cpu
      addressUnitBits := .inl rfl
      maxBitWidth := .inr (word 32 (by decide))
      defaultSize := .inl rfl
      defaultResetValue := .inl rfl
      defaultResetMask := .inl rfl
      peripherals := ?_
      interrupts := ⟨by simp [sampleDevice], by simpa [sampleDevice] using interrupt,
        by simp [sampleDevice]⟩
      housed := nofun }
  intro p member
  obtain rfl | rfl : p = _ ∨ p = _ := by simpa [sampleDevice] using member
  · refine ⟨plain _ (by decide), empty, empty, .inr (word 0x40000000 (by decide)),
      fun b same => Option.some.inj same ▸ block, fun _ => nofun, fun x member => ?_⟩
    obtain rfl := List.mem_singleton.mp member
    exact ⟨rfl, plain _ (by decide), empty, empty, .inr (word 4 (by decide)), word 32 (by decide),
      word 0 (by decide), fun f member => List.mem_singleton.mp member ▸ field⟩
  · exact ⟨plain _ (by decide), empty, empty, .inl rfl, nofun, fun some => absurd rfl some, nofun⟩

theorem read_lines_sampleDevice :
    (read {} sampleDevice.lines).fault = none ∧
      (read {} sampleDevice.lines).device = sampleDevice :=
  read_lines {} sampleDevice_canonical

end RegisterMap.Document
