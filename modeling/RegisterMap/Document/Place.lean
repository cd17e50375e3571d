/-!
Places in the hierarchy of a register description. The reader is at one of them after every line.
-/

set_option autoImplicit false

namespace RegisterMap.Document

inductive Place
  | device
  | cpu
  | peripherals
  | peripheral
  | addressBlock
  | interrupt
  | registers
  | register
  | fields
  | field
  | finished
deriving DecidableEq, Repr

namespace Place

def text : Place → String
  | .device => "device"
  | .cpu => "cpu"
  | .peripherals => "peripherals"
  | .peripheral => "peripheral"
  | .addressBlock => "address_block"
  | .interrupt => "interrupt"
  | .registers => "registers"
  | .register => "register"
  | .fields => "fields"
  | .field => "field"
  | .finished => "finished"

/-- The name in capitals. -/
def caption (p : Place) : String := p.text.toUpper

end Place

end RegisterMap.Document
