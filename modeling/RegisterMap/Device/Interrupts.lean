import RegisterMap.Device.Basic
import RegisterMap.Value.Order

/-!
The interrupts of a device as a table, and their vectors as its keys. Vectors of a description are
whole numbers; a vector of another kind may be unfit for a key, or have no order among the others.
-/

set_option autoImplicit false

namespace RegisterMap.Device

/-- The interrupts by ascending vector number. -/
def interruptTable (d : Device) : Except Misfit (List Interrupt) :=
  (Value.sortBy (·.1) d.interrupts).map fun entries => entries.map (·.2)

/-- Adds an interrupt whose vector may be of any kind. -/
def insertInterrupt (d : Device) (i : Interrupt) : Except Misfit Device :=
  i.vector.asName.map fun _ => d.addInterrupt i

end RegisterMap.Device
