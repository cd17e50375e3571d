import RegisterMap.Proofs.Canonical.Reads

/-!
The readers that stand inside canonical descriptions. Each is told by its place and by the entity
that it is describing there, with what was read before in front of it; and all elements at the place
but those that lead elsewhere are attributes of the entity.
-/

set_option autoImplicit false

namespace RegisterMap.Document.Reader

/-- The reader at a place where it has nothing in hand. -/
def placed (place : Place) (seen : Bool) (d : Device) : Reader :=
  { device := d, place := place, blockSeen := seen }

def inCpuOf (seen : Bool) (d : Device) (c : Cpu) : Reader :=
  placed .cpu seen { d with cpu := some c }

def inInterruptOf (seen : Bool) (d : Device) (i : Interrupt) : Reader :=
  { placed .interrupt seen d with interrupt := some i }

/-- The reader at a place inside a peripheral that comes behind these. -/
def housing (place : Place) (seen : Bool) (d : Device) (before : List Peripheral)
    (p : Peripheral) : Reader :=
  placed place seen { d with peripherals := before ++ [p] }

def inBlockOf (d : Device) (before : List Peripheral) (p : Peripheral) (b : AddressBlock) :
    Reader :=
  housing .addressBlock true d before { p with addressBlock := some b }

/-- The reader at a place inside a register that comes behind these. -/
def holdingRegister (place : Place) (seen : Bool) (d : Device) (before : List Peripheral)
    (p : Peripheral) (earlier : List Register) (x : Register) : Reader :=
  housing place seen d before { p with registers := earlier ++ [x] }

def inFieldOf (seen : Bool) (d : Device) (before : List Peripheral) (p : Peripheral)
    (earlier : List Register) (x : Register) (fields : List Field) (f : Field) : Reader :=
  holdingRegister .field seen d before p earlier { x with fields := fields ++ [f] }

section

variable {o : Settings} (seen : Bool) (e : Element)

theorem describe_of_tells {α : Type} {r : Reader} {t : Tag} {data : String} {change : α → α}
    {changeOf : Element → String → Change α} {lift : (α → α) → Reader → Reader}
    (tells : t.Tells e data) (known : changeOf e data = .ok change) :
    r.describe t changeOf lift = .ok (lift change r, []) := by
  rw [describe, tells.1, tells.2]
  dsimp only
  rw [known]
  rfl

theorem describes_device (other : e ∉ [.cpu, .peripherals]) :
    Describes o deviceAttribute (placed .device seen) e := by
  intro d n t data change tells known
  change inDevice _ t = _
  unfold inDevice
  rw [tells.1]
  split
  case h_1 same => exact absurd same nofun
  case h_2 same | h_3 same => cases same; simp at other
  case h_4 => exact describe_of_tells e tells known

theorem describes_cpu (d : Device) : Describes o cpuAttribute (inCpuOf seen d) e := by
  intro c n t data change tells known
  change inCpu _ t = _
  unfold inCpu
  rw [tells.1]
  split
  case h_1 same => exact absurd same nofun
  case h_2 => exact describe_of_tells e tells known

theorem describes_interrupt (d : Device) :
    Describes o interruptAttribute (inInterruptOf seen d) e := by
  intro i n t data change tells known
  change inInterrupt _ t = _
  unfold inInterrupt
  rw [tells.1]
  split
  case h_1 same => exact absurd same nofun
  case h_2 => exact describe_of_tells e tells known

section

variable (d : Device) (before : List Peripheral)

theorem describes_peripheral (other : e ∉ [.addressBlock, .interrupt, .registers]) :
    Describes o peripheralAttribute (housing .peripheral seen d before) e := by
  intro p n t data change tells known
  change inPeripheral _ t = _
  unfold inPeripheral
  rw [tells.1]
  split
  case h_1 same => exact absurd same nofun
  case h_2 same | h_3 same | h_4 same => cases same; simp at other
  case h_5 =>
    rw [describe_of_tells e tells known]
    simp only [housing, placed, changePeripheral, changeDevice, Device.changePeripheral,
      changeLast_append]

theorem describes_addressBlock (p : Peripheral) :
    Describes o addressBlockAttribute (inBlockOf d before p) e := by
  intro b n t data change tells known
  change inAddressBlock _ t = _
  unfold inAddressBlock
  rw [tells.1]
  split
  case h_1 same => exact absurd same nofun
  case h_2 =>
    change describe _ _ _ _ = _
    rw [describe_of_tells e tells known]
    simp only [inBlockOf, housing, placed, changeAddressBlock, changePeripheral, changeDevice,
      Device.changePeripheral, changeLast_append, Option.map_some]

theorem describes_register (p : Peripheral) (earlier : List Register) (other : e ≠ .fields) :
    Describes o registerAttribute (holdingRegister .register seen d before p earlier) e := by
  intro x n t data change tells known
  change inRegister _ t = _
  unfold inRegister
  rw [tells.1]
  split
  case h_1 same => exact absurd same nofun
  case h_2 same => cases same; exact absurd rfl other
  case h_3 =>
    rw [describe_of_tells e tells known]
    simp only [holdingRegister, housing, placed, changeRegister, changePeripheral, changeDevice,
      Device.changePeripheral, Peripheral.changeRegister, changeLast_append]

theorem describes_field (p : Peripheral) (earlier : List Register) (x : Register)
    (fields : List Field) (other : e ≠ .enumeratedValues) :
    Describes o fieldAttribute (inFieldOf seen d before p earlier x fields) e := by
  intro f n t data change tells known
  change inField _ t = _
  unfold inField
  rw [tells.1]
  split
  case h_1 same | h_3 same => exact absurd same nofun
  case h_2 same => cases same; exact absurd rfl other
  case h_4 =>
    change describe _ _ _ _ = _
    rw [describe_of_tells e tells known]
    simp only [inFieldOf, holdingRegister, housing, placed, changeField, changeRegister,
      changePeripheral, changeDevice, Device.changePeripheral, Peripheral.changeRegister,
      Register.changeField, changeLast_append]

end

end

end RegisterMap.Document.Reader
