import RegisterMap.Document.Attribute
import RegisterMap.Document.Settings
import RegisterMap.Notice

/-!
Reading a description line by line. The reader keeps the model so far, its place in the hierarchy
and a few marks that outlive a line. What it is describing is always the last entry of its list. A
line that cannot be read counts as a line and changes nothing else.
-/

set_option autoImplicit false

namespace RegisterMap.Document

/-- The interrupt is the one being described. Of the address blocks of a peripheral the first
counts, and the content of enumerated values says nothing about their field. -/
structure Reader where
  device : Device := {}
  place : Place := .device
  line : Nat := 0
  interrupt : Option Interrupt := none
  blockSeen : Bool := false
  blockSkipped : Bool := false
  inEnumeratedValues : Bool := false
deriving DecidableEq

/-- A reader after a line that it could read, with what it noticed. -/
abbrev Progress := Except Fault (Reader × List Notice)

namespace Reader

def stay (r : Reader) : Progress := .ok (r, [])

def enter (r : Reader) (target : Place) : Progress :=
  .ok ({ r with place := target }, [.moved r.line r.place target])

/-- Applies an attribute, if the tag is an opening one with content. -/
def describe {α : Type} (r : Reader) (t : Tag) (changeOf : Element → String → Change α)
    (lift : (α → α) → Reader → Reader) : Progress :=
  match t.mark, t.content with
  | .opening e, some data =>
    match changeOf e data with
    | .ok change => (lift change r).stay
    | .error numeral => .error (.numeralTooLong numeral)
  | _, _ => r.stay

def changeDevice (f : Device → Device) (r : Reader) : Reader := { r with device := f r.device }

def changeCpu (f : Cpu → Cpu) : Reader → Reader :=
  changeDevice fun d => { d with cpu := d.cpu.map f }

def changePeripheral (f : Peripheral → Peripheral) : Reader → Reader :=
  changeDevice (Device.changePeripheral f)

def changeAddressBlock (f : AddressBlock → AddressBlock) : Reader → Reader :=
  changePeripheral fun p => { p with addressBlock := p.addressBlock.map f }

def changeInterrupt (f : Interrupt → Interrupt) (r : Reader) : Reader :=
  { r with interrupt := r.interrupt.map f }

def changeRegister (f : Register → Register) : Reader → Reader :=
  changePeripheral (Peripheral.changeRegister f)

def changeField (f : Field → Field) : Reader → Reader :=
  changeRegister (Register.changeField f)

/-- The peripheral that is being described. -/
def peripheral? (r : Reader) : Option Peripheral := r.device.peripherals.getLast?

def register? (r : Reader) : Option Register := r.peripheral?.bind fun p => p.registers.getLast?

def field? (r : Reader) : Option Field := r.register?.bind fun x => x.fields.getLast?

def inDevice (r : Reader) (t : Tag) : Progress :=
  match t.mark with
  | .closing .device => r.enter .finished
  | .opening .cpu => (r.changeDevice fun d => { d with cpu := some {} }).enter .cpu
  | .opening .peripherals => r.enter .peripherals
  | _ => r.describe t deviceAttribute changeDevice

def inCpu (r : Reader) (t : Tag) : Progress :=
  match t.mark with
  | .closing .cpu => r.enter .device
  | _ => r.describe t cpuAttribute changeCpu

/-- Begins a peripheral, with none of its address blocks seen yet. -/
def openPeripheral (r : Reader) (p : Peripheral) : Progress :=
  ({ r with
      device := { r.device with peripherals := r.device.peripherals ++ [p] }
      blockSeen := false }).enter .peripheral

/-- A derived peripheral begins as what its base is now; without its base it is skipped. -/
def inPeripherals (r : Reader) (t : Tag) : Progress :=
  match t.mark with
  | .closing .peripherals => r.enter .device
  | .opening .peripheral =>
    match t.derivedFrom with
    | none => r.openPeripheral {}
    | some name =>
      match r.device.findPeripheral? (.ofString name) with
      | some base => r.openPeripheral base
      | none => .ok (r, [.unknownBase r.line name])
  | _ => r.stay

/-- The first address block takes the place of an inherited one. -/
def openAddressBlock (r : Reader) : Progress :=
  if r.blockSeen then ({ r with blockSkipped := true }).enter .addressBlock
  else
    ({ r.changePeripheral (fun p => { p with addressBlock := some {} }) with
        blockSkipped := false
        blockSeen := true }).enter .addressBlock

def inPeripheral (r : Reader) (t : Tag) : Progress :=
  match t.mark with
  | .closing .peripheral => r.enter .peripherals
  | .opening .addressBlock => r.openAddressBlock
  | .opening .interrupt => ({ r with interrupt := some {} }).enter .interrupt
  | .opening .registers => r.enter .registers
  | _ => r.describe t peripheralAttribute changePeripheral

def inAddressBlock (r : Reader) (t : Tag) : Progress :=
  match t.mark with
  | .closing .addressBlock => r.enter .peripheral
  | _ => if r.blockSkipped then r.stay else r.describe t addressBlockAttribute changeAddressBlock

/-- Adds the interrupt to the device, or notices that it cannot be added. -/
def closeInterrupt (r : Reader) (i : Interrupt) : Progress :=
  let dropped := if r.device.admits i then [] else [.interruptDropped r.line i.name i.vector]
  (({ r with device := r.device.addInterrupt i, interrupt := none }).enter .peripheral).map
    fun (r, moved) => (r, dropped ++ moved)

def inInterrupt (r : Reader) (t : Tag) : Progress :=
  match t.mark with
  | .closing .interrupt => r.closeInterrupt (r.interrupt.getD {})
  | _ => r.describe t interruptAttribute changeInterrupt

/-- A register of the peripheral, with the device's defaults, or else those of the settings. -/
def newRegister (o : Settings) (d : Device) (p : Peripheral) : Register :=
  { peripheralName := p.name
    size := d.defaultSize.getD o.registerSize
    resetValue := d.defaultResetValue.getD o.resetValue }

/-- A register can only begin when the base address of its peripheral is known. -/
def openRegister (o : Settings) (r : Reader) (p : Peripheral) : Progress :=
  if p.baseAddress.isNull then .error (.registerBeforeBase r.line p.name)
  else
    (r.changePeripheral fun p =>
      { p with registers := p.registers ++ [newRegister o r.device p] }).enter .register

def inRegisters (o : Settings) (r : Reader) (t : Tag) : Progress :=
  match t.mark with
  | .closing .registers => r.enter .peripheral
  | .opening .register =>
    match r.peripheral? with
    | some p => r.openRegister o p
    | none => r.stay
  | _ => r.stay

def inRegister (r : Reader) (t : Tag) : Progress :=
  match t.mark with
  | .closing .register => r.enter .registers
  | .opening .fields => r.enter .fields
  | _ => r.describe t registerAttribute changeRegister

/-- A field of the register, with the access right that the register has now. -/
def newField (p : Peripheral) (x : Register) : Field :=
  { peripheralName := p.name, registerName := x.name, access := x.access }

def openField (r : Reader) : Progress :=
  (r.changePeripheral fun p =>
    p.changeRegister fun x => { x with fields := x.fields ++ [newField p x] }).enter .field

def inFields (r : Reader) (t : Tag) : Progress :=
  match t.mark with
  | .closing .fields => r.enter .register
  | .opening .field => r.openField
  | _ => r.stay

def inField (r : Reader) (t : Tag) : Progress :=
  match t.mark with
  | .closing .field => ({ r with inEnumeratedValues := false }).enter .fields
  | .opening .enumeratedValues => ({ r with inEnumeratedValues := true }).stay
  | .closing .enumeratedValues => ({ r with inEnumeratedValues := false }).stay
  | _ => if r.inEnumeratedValues then r.stay else r.describe t fieldAttribute changeField

/-- Reads a tag at the place where the reader is; behind the device nothing counts. -/
def read (o : Settings) (r : Reader) (t : Tag) : Progress :=
  match r.place with
  | .device => r.inDevice t
  | .cpu => r.inCpu t
  | .peripherals => r.inPeripherals t
  | .peripheral => r.inPeripheral t
  | .addressBlock => r.inAddressBlock t
  | .interrupt => r.inInterrupt t
  | .registers => r.inRegisters o t
  | .register => r.inRegister t
  | .fields => r.inFields t
  | .field => r.inField t
  | .finished => r.stay

end Reader

/-- What a line, or the end of the input, leads to. -/
structure Step where
  reader : Reader
  notices : List Notice := []
  fault : Option Fault := none
deriving DecidableEq

/-- Of the faults only a misplaced register is noticed as it occurs. -/
def Fault.notices : Fault → List Notice
  | .registerBeforeBase line peripheral => [.failed (.registerBeforeBase line peripheral)]
  | .truncated .. | .numeralTooLong _ => []

/-- The step that progress on a counted line makes. -/
def Step.ofProgress (counted : Reader) : Progress → Step
  | .ok (r, notices) => { reader := r, notices := notices }
  | .error fault => { reader := counted, notices := fault.notices, fault := some fault }

def Reader.feed (o : Settings) (r : Reader) (line : String) : Step :=
  let counted := { r with line := r.line + 1 }
  match Tag.ofLine? line with
  | none => { reader := counted }
  | some t => Step.ofProgress counted (counted.read o t)

/-- The input may end only behind the device. -/
def Reader.finish (r : Reader) : Step :=
  if r.place = .finished then
    { reader := r
      notices := [.completed r.device.name r.device.peripherals.length r.device.interrupts.length] }
  else { reader := r, fault := some (.truncated r.line r.place) }

end RegisterMap.Document
