import RegisterMap.Device.Interrupts
import RegisterMap.Device.Mask
import RegisterMap.Selection
import RegisterMap.Zig.Declaration

/-!
Rendering a device: its own data, its processor, a section for every selected peripheral and the
table of its interrupts. An entity without the information that its section needs is replaced by a
remark. Rendering fails for values that have no form where they are needed, such as a negative
width or a reset value that is no number.
-/

set_option autoImplicit false

namespace RegisterMap.Zig

def described (description : Value) : Declaration :=
  .doc (description.orElse (.ofString "No description")).display

/-- A name that is made of several. -/
def joined (names : List Value) : Text := Text.intercalate "_" (names.map Value.display)

def plainIfSet (name : Text) (v : Value) : List Declaration :=
  if v.isNull then [] else [.plain name v]

/-- The section of a field with its name, offset and width. -/
def fieldSection (f : Field) : Masking (List Declaration) := do
  let name := joined [f.peripheralName, f.registerName, f.name]
  let mask ← f.mask
  let valueMask ← f.valueMask
  return [described f.description, .fieldOffset name f.bitOffset, .fieldMask name mask,
    .fieldSetter name valueMask f.bitOffset]

def ofField (f : Field) : Masking (List Declaration) :=
  if f.name.isNothing then return [.remark "No name to print field value"]
  else if f.isComplete then fieldSection f
  else return [.remark "Not enough info to print field"]

/-- The functions that the effective access of a register allows. -/
def accessors (name wordType : Text) (access : Access) (mask : Nat) : List Declaration :=
  (if access.writable then [.writer name wordType mask] else []) ++
    (if access.readable then [.reader name wordType] else [])

/-- The section of a register with its name and address offset. -/
def registerSection (base : Int) (r : Register) : Masking (List Declaration) := do
  let name := joined [r.peripheralName, r.name]
  let wordType := "u" ++ r.size.display
  let mask ← r.writeMask
  let access ← r.effectiveAccess
  let offset ← r.addressOffset.hexForm
  let reset ← r.resetValue.hexForm
  let fields ← r.fields.mapM ofField
  return [described r.description, .address name base offset, .resetValue name wordType reset] ++
    accessors name wordType access mask ++ fields.flatMap (.blank :: ·)

def ofRegister (base : Int) (r : Register) : Masking (List Declaration) :=
  if r.isComplete then registerSection base r
  else return [.remark "Not enough info to print register value"]

/-- The section of a peripheral with its name and base address. -/
def peripheralSection (p : Peripheral) : Masking (List Declaration) := do
  let base ← p.baseAddress.hexForm
  let registers ← p.registers.mapM (ofRegister base)
  return [described p.description, .baseAddress p.name.display base] ++
    registers.flatMap (.blank :: ·)

def ofPeripheral (p : Peripheral) : Masking (List Declaration) :=
  if p.isComplete then peripheralSection p
  else return [.remark "Not enough info to print peripheral value"]

def ofCpu (c : Cpu) : Except Misfit (List Declaration) := do
  let name ← spelled c.name
  let revision ← spelled c.revision
  let endian ← spelled c.endian
  return [.struct "cpu" ([.string "name" name, .string "revision" revision,
    .string "endian" endian, .flag "mpu_present" (!c.mpuPresent.isNothing),
    .flag "fpu_present" (!c.fpuPresent.isNothing),
    .flag "vendor_systick_config" (!c.vendorSystickConfig.isNothing)] ++
    if c.nvicPrioBits.isNull then [] else [.plain "nvic_prio_bits" c.nvicPrioBits])]

/-- An interrupt without a name is left out. -/
def ofInterrupt (i : Interrupt) : List Member :=
  if i.name.isNothing then []
  else
    (if i.description.isNothing then [] else [.doc i.description.display]) ++
      [.plain i.name.display i.vector]

/-- The data of the device itself. -/
def deviceSection (d : Device) : Except Misfit (List Declaration) := do
  let name ← spelled d.name
  let version ← spelled d.version
  let description ← spelled d.description
  return [.string "device_name" name, .string "device_revision" version,
      .string "device_description" description] ++
    plainIfSet "device_address_unit_bits" d.addressUnitBits ++
    plainIfSet "device_width" d.maxBitWidth

/-- The data of the device and of its processor. -/
def dataSections (d : Device) : Except Misfit (List Declaration) := do
  let device ← deviceSection d
  let cpu ← d.cpu.toList.mapM ofCpu
  return device ++ cpu.flatMap (.blank :: ·)

def ofDevice (d : Device) (s : Selection) : Masking (List Declaration) := do
  let data ← dataSections d
  let peripherals ← (d.peripherals.filter s.includes).mapM ofPeripheral
  let interrupts ← d.interruptTable
  return data ++ peripherals.flatMap (.blank :: ·) ++
    [.blank, .struct "interrupts" (interrupts.flatMap ofInterrupt)]

/-- The lines of the source text, without their ends, and the masks that are known afterwards. -/
def renderKnowing (masks : Masks) (d : Device) (s : Selection) : Report (List Text) × Masks :=
  let checked := s.check d
  match checked.result with
  | .error misfit => ({ notices := checked.notices, result := .error misfit }, masks)
  | .ok () =>
    let (declarations, masks) := (ofDevice d s).run.run masks
    let lines := declarations.map fun declarations => declarations.flatMap Declaration.lines
    ({ notices := checked.notices, result := lines }, masks)

/-- The lines of the source text, without their ends. -/
def render (d : Device) (s : Selection) : Report (List Text) := (renderKnowing [] d s).1

/-- The source text, in which every line has its end. -/
def sourceText (lines : List Text) : Text := Text.intercalate "\n" lines ++ "\n"

def renderText (d : Device) (s : Selection) : Report Text := do
  return sourceText (← render d s)

end RegisterMap.Zig
