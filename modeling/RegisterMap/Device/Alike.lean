import RegisterMap.Device.Basic

/-!
Equality of entities in all attributes, which are compared by what they denote.
-/

set_option autoImplicit false

namespace RegisterMap

def allAlike {α : Type} (same : α → α → Bool) (as bs : List α) : Bool :=
  as.length == bs.length && (as.zip bs).all fun (a, b) => same a b

def bothAlike {α : Type} (same : α → α → Bool) : Option α → Option α → Bool
  | none, none => true
  | some a, some b => same a b
  | _, _ => false

def Cpu.alike (a b : Cpu) : Bool :=
  a.name.alike b.name && a.revision.alike b.revision && a.endian.alike b.endian &&
    a.mpuPresent.alike b.mpuPresent && a.fpuPresent.alike b.fpuPresent &&
    a.nvicPrioBits.alike b.nvicPrioBits && a.vendorSystickConfig.alike b.vendorSystickConfig

def AddressBlock.alike (a b : AddressBlock) : Bool :=
  a.offset.alike b.offset && a.size.alike b.size && a.usage.alike b.usage

def Interrupt.alike (a b : Interrupt) : Bool :=
  a.name.alike b.name && a.description.alike b.description && a.vector.alike b.vector

def Field.alike (a b : Field) : Bool :=
  a.peripheralName.alike b.peripheralName && a.registerName.alike b.registerName &&
    a.name.alike b.name && a.description.alike b.description && a.bitOffset.alike b.bitOffset &&
    a.bitWidth.alike b.bitWidth && a.access == b.access

def Register.alike (a b : Register) : Bool :=
  a.peripheralName.alike b.peripheralName && a.name.alike b.name &&
    a.displayName.alike b.displayName && a.description.alike b.description &&
    a.addressOffset.alike b.addressOffset && a.size.alike b.size &&
    a.resetValue.alike b.resetValue && a.access == b.access &&
    allAlike Field.alike a.fields b.fields

def Peripheral.alike (a b : Peripheral) : Bool :=
  a.name.alike b.name && a.groupName.alike b.groupName && a.description.alike b.description &&
    a.baseAddress.alike b.baseAddress &&
    bothAlike AddressBlock.alike a.addressBlock b.addressBlock &&
    allAlike Register.alike a.registers b.registers

/-- The interrupts are compared in the order in which they were added. -/
def Device.alike (a b : Device) : Bool :=
  a.name.alike b.name && a.version.alike b.version && a.description.alike b.description &&
    bothAlike Cpu.alike a.cpu b.cpu && a.addressUnitBits.alike b.addressUnitBits &&
    a.maxBitWidth.alike b.maxBitWidth && a.defaultSize.alike b.defaultSize &&
    a.defaultResetValue.alike b.defaultResetValue &&
    a.defaultResetMask.alike b.defaultResetMask &&
    allAlike Peripheral.alike a.peripherals b.peripherals &&
    allAlike (fun i j => i.1.alike j.1 && i.2.alike j.2) a.interrupts b.interrupts

end RegisterMap
