import RegisterMap.Device.Basic
import RegisterMap.Report

/-!
Selection of peripherals by name. Without names, everything is selected.
-/

set_option autoImplicit false

namespace RegisterMap

/-- An empty list of names selects as much as none. -/
structure Selection where
  names : Option (List Value) := none
deriving DecidableEq

namespace Selection

def includes (s : Selection) (p : Peripheral) : Bool :=
  match s.names with
  | none | some [] => true
  | some names => names.any fun name => name.alike p.name

/-- The selected names that no peripheral has. -/
def missing (d : Device) (names : List Value) : List Value :=
  names.filter fun name => !d.peripherals.any fun p => p.name.alike name

/-- The text of a name in a list of names; other values have no place there. -/
def partText (part : Value × Nat) : Except Misfit Text :=
  match part.1 with
  | .text s => .ok s
  | v => .error (.noPart part.2 v)

def checkNames (names : List Value) : Report Unit :=
  .ofResult ((names.mapM Value.asName).map fun _ => ())

/-- Notices the names that no peripheral has. -/
def checkMissing (names : List Value) : Report Unit :=
  if names.isEmpty then pure () else do
    let texts ← .ofResult (names.zipIdx.mapM partText)
    .note (.unknownSelection texts)

/-- Checks selected names against those of the peripherals; both have to be fit for names. -/
def check (s : Selection) (d : Device) : Report Unit :=
  match s.names with
  | none => pure ()
  | some names => do
    checkNames (d.peripherals.map Peripheral.name)
    checkNames names
    checkMissing (missing d names)

end Selection

end RegisterMap
