import RegisterMap.Device.Interrupts
import RegisterMap.Json.Printer
import RegisterMap.Selection

/-!
The outline of a device: an object of plain values, in which peripherals, registers, fields and
interrupts are members under their names. Values that are not set and empty texts are left out, as
are entities without a name; of several with one name the last counts, at the place of the first.
-/

set_option autoImplicit false

namespace RegisterMap

namespace Outline

def isGiven (v : Value) : Bool := !v.isNull && v ≠ .text []

/-- The members whose values are given. -/
def given (members : List (String × Value)) : List (Text × Value) :=
  (members.filter fun m => isGiven m.2).map fun m => (Text.ofString m.1, m.2)

/-- A member after those that may be left out. -/
def always (name : String) (v : Value) : List (Text × Value) := [(Text.ofString name, v)]

/-- Members under names of any kind. Names are first told apart by what they denote, and then by the
texts that they are written as. -/
def byName (members : List (Value × Value)) : Value :=
  let distinct := Members.ofList Value.alike members
  .object (Members.ofList (· == ·) (distinct.map fun m => (Json.nameText m.1, m.2)))

section

variable {α : Type}

/-- The member that an entity becomes. -/
def member (name : α → Value) (body : α → Except Misfit Value) (entity : α) :
    Except Misfit (Value × Value) := do
  let v ← body entity
  let name ← (name entity).asName
  return (name, v)

/-- An object with a member for every entity that has a name. -/
def named (name : α → Value) (body : α → Except Misfit Value) (entities : List α) :
    Except Misfit Value :=
  ((entities.filter fun e => !(name e).isNothing).mapM (member name body)).map byName

end

def ofField (f : Field) : Value :=
  .object (given
    [("description", f.description),
      ("bit_offset", f.bitOffset),
      ("bit_width", f.bitWidth),
      ("access", .ofString f.access.text)])

def ofRegister (r : Register) : Except Misfit Value := do
  let fields ← named Field.name (fun f => .ok (ofField f)) r.fields
  return .object (given
    [("display_name", r.displayName),
      ("description", r.description),
      ("address_offset", r.addressOffset),
      ("size", r.size),
      ("reset_value", r.resetValue),
      ("access", .ofString r.access.text)] ++
    always "fields" fields)

def ofAddressBlock (b : AddressBlock) : Value :=
  .object (given [("offset", b.offset), ("size", b.size), ("usage", b.usage)])

def ofPeripheral (p : Peripheral) : Except Misfit Value := do
  let registers ← named Register.name ofRegister p.registers
  return .object (given
    [("group_name", p.groupName),
      ("description", p.description),
      ("base_address", p.baseAddress)] ++
    (p.addressBlock.map fun b => always "address_block" (ofAddressBlock b)).getD [] ++
    always "registers" registers)

def ofCpu (c : Cpu) : Value :=
  .object (given
    [("name", c.name),
      ("revision", c.revision),
      ("endian", c.endian),
      ("mpu_present", c.mpuPresent),
      ("fpu_present", c.fpuPresent),
      ("nvic_prio_bits", c.nvicPrioBits),
      ("vendor_systick_config", c.vendorSystickConfig)])

/-- The vectors of the interrupts, by ascending vector number. -/
def ofInterrupts (d : Device) : Except Misfit Value := do
  named Interrupt.name (fun i => .ok i.vector) (← d.interruptTable)

/-- The members that describe the device itself. -/
def ownMembers (d : Device) : List (Text × Value) :=
  given
    [("name", d.name),
      ("version", d.version),
      ("description", d.description),
      ("address_unit_bits", d.addressUnitBits),
      ("width", d.maxBitWidth),
      ("size", d.defaultSize),
      ("reset_value", d.defaultResetValue),
      ("reset_mask", d.defaultResetMask)] ++
    (d.cpu.map fun c => always "cpu" (ofCpu c)).getD []

end Outline

open Outline

/-- The peripherals that an outline shows. -/
def Device.outlined (d : Device) (s : Selection) : List Peripheral :=
  d.peripherals.filter fun p => !p.name.isNothing && s.includes p

/-- An outline without any peripheral is noticed. -/
def Device.outline (d : Device) (s : Selection) : Report Value := do
  s.check d
  let peripherals ← .ofResult (named Peripheral.name ofPeripheral (d.outlined s))
  if (d.outlined s).isEmpty then .note .emptySelection
  let interrupts ← .ofResult (ofInterrupts d)
  return .object (ownMembers d ++ always "peripherals" peripherals ++
    always "interrupts" interrupts)

end RegisterMap
