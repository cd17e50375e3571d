import RegisterMap.Device.Access
import RegisterMap.Device.Last
import RegisterMap.Value.Alike

/-!
The model of a device: its processor, its peripherals with their registers and fields, and its
interrupts. Registers and fields carry the names of what contains them, so that they can be
rendered on their own. An attribute is a value of any kind, and null while it is not set.
-/

set_option autoImplicit false

namespace RegisterMap

structure Cpu where
  name : Value := .text []
  revision : Value := .text []
  endian : Value := .text []
  mpuPresent : Value := .null
  fpuPresent : Value := .null
  nvicPrioBits : Value := .null
  vendorSystickConfig : Value := .null
deriving DecidableEq

/-- The range of addresses that a peripheral occupies, from its base address on. -/
structure AddressBlock where
  offset : Value := .null
  size : Value := .null
  usage : Value := .text []
deriving DecidableEq

/-- An interrupt with its vector number. -/
structure Interrupt where
  name : Value := .text []
  description : Value := .text []
  vector : Value := .null
deriving DecidableEq

/-- A named range of bits in a register. -/
structure Field where
  peripheralName : Value := .text []
  registerName : Value := .text []
  name : Value := .text []
  description : Value := .text []
  bitOffset : Value := .null
  bitWidth : Value := .null
  access : Access := .readWrite
deriving DecidableEq

structure Register where
  peripheralName : Value := .text []
  name : Value := .text []
  displayName : Value := .text []
  description : Value := .text []
  addressOffset : Value := .null
  size : Value := .int 32
  resetValue : Value := .int 0
  access : Access := .readWrite
  fields : List Field := []
deriving DecidableEq

structure Peripheral where
  name : Value := .text []
  groupName : Value := .text []
  description : Value := .text []
  baseAddress : Value := .null
  addressBlock : Option AddressBlock := none
  registers : List Register := []
deriving DecidableEq

/-- A device. The defaults apply to registers that declare no size or reset value; the interrupts
are listed under their vector numbers in the order in which they were added. -/
structure Device where
  name : Value := .text []
  version : Value := .text []
  description : Value := .text []
  cpu : Option Cpu := none
  addressUnitBits : Value := .null
  maxBitWidth : Value := .null
  defaultSize : Value := .null
  defaultResetValue : Value := .null
  defaultResetMask : Value := .null
  peripherals : List Peripheral := []
  interrupts : List (Value × Interrupt) := []
deriving DecidableEq

/-- Whether enough is known of the field to render it. -/
def Field.isComplete (f : Field) : Bool :=
  !f.name.isNothing && !f.bitOffset.isNull && !f.bitWidth.isNull

def Register.isComplete (r : Register) : Bool := !r.name.isNothing && !r.addressOffset.isNull

def Peripheral.isComplete (p : Peripheral) : Bool := !p.name.isNothing && !p.baseAddress.isNull

def Field.inPeripheral (name : Value) (f : Field) : Field := { f with peripheralName := name }

def Register.inPeripheral (name : Value) (r : Register) : Register :=
  { r with peripheralName := name, fields := r.fields.map (Field.inPeripheral name) }

/-- Gives the peripheral a name, which its registers and fields then carry as well. -/
def Peripheral.rename (name : Value) (p : Peripheral) : Peripheral :=
  { p with name := name, registers := p.registers.map (Register.inPeripheral name) }

namespace Device

/-- The first peripheral of exactly this name. -/
def findPeripheral? (d : Device) (name : Value) : Option Peripheral :=
  d.peripherals.find? fun p => p.name.alike name

def hasVector (d : Device) (v : Value) : Bool := d.interrupts.any fun entry => entry.1.alike v

/-- Whether the interrupt can be added: it has a vector number, and one that is still free. -/
def admits (d : Device) (i : Interrupt) : Bool := !i.vector.isNull && !d.hasVector i.vector

/-- The first interrupt of a vector number stays; one without a number is not added. -/
def addInterrupt (d : Device) (i : Interrupt) : Device :=
  if d.admits i then { d with interrupts := d.interrupts ++ [(i.vector, i)] } else d

def changePeripheral (f : Peripheral → Peripheral) (d : Device) : Device :=
  { d with peripherals := changeLast f d.peripherals }

end Device

def Peripheral.changeRegister (f : Register → Register) (p : Peripheral) : Peripheral :=
  { p with registers := changeLast f p.registers }

def Register.changeField (f : Field → Field) (r : Register) : Register :=
  { r with fields := changeLast f r.fields }

end RegisterMap
