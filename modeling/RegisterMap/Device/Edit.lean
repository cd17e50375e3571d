import RegisterMap.Device.Alike

/-!
Changes of a finished model at a given place: an entity is changed, repeated at the end of its list,
or gets another one inside it. Places are counted from zero; a place that does not exist is left
alone.
-/

set_option autoImplicit false

namespace RegisterMap

namespace Device

def peripheral? (d : Device) (p : Nat) : Option Peripheral := d.peripherals[p]?

def register? (d : Device) (p r : Nat) : Option Register :=
  (d.peripheral? p).bind fun x => x.registers[r]?

def field? (d : Device) (p r f : Nat) : Option Field :=
  (d.register? p r).bind fun x => x.fields[f]?

def modifyPeripheral (d : Device) (p : Nat) (change : Peripheral → Peripheral) : Device :=
  { d with peripherals := d.peripherals.modify p change }

def modifyRegister (d : Device) (p r : Nat) (change : Register → Register) : Device :=
  d.modifyPeripheral p fun x => { x with registers := x.registers.modify r change }

def modifyField (d : Device) (p r f : Nat) (change : Field → Field) : Device :=
  d.modifyRegister p r fun x => { x with fields := x.fields.modify f change }

def addPeripheral (d : Device) (x : Peripheral) : Device :=
  { d with peripherals := d.peripherals ++ [x] }

def addRegister (d : Device) (p : Nat) (x : Register) : Device :=
  d.modifyPeripheral p fun y => { y with registers := y.registers ++ [x] }

def addField (d : Device) (p r : Nat) (x : Field) : Device :=
  d.modifyRegister p r fun y => { y with fields := y.fields ++ [x] }

def repeatPeripheral (d : Device) (p : Nat) : Device :=
  match d.peripheral? p with
  | some x => d.addPeripheral x
  | none => d

def repeatRegister (d : Device) (p r : Nat) : Device :=
  match d.register? p r with
  | some x => d.addRegister p x
  | none => d

def repeatField (d : Device) (p r f : Nat) : Device :=
  match d.field? p r f with
  | some x => d.addField p r x
  | none => d

/-- The position of the first peripheral of exactly this name. Nothing is found under NaN. -/
def peripheralIndex? (d : Device) (name : Value) : Option Nat :=
  if name = .float .nan then none else d.peripherals.findIdx? fun p => p.name.alike name

end Device

end RegisterMap
