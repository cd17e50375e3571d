import RegisterMap.Device.Basic
import RegisterMap.Document.Element
import RegisterMap.Numeral.Word

/-!
The canonical description of a device. Each element stands on a line of its own, with its content
or with its children between its two tags. An attribute that is not set has no line, and neither has
an empty text. Numbers are decimal or hexadecimal as the reader expects them; all interrupts stand
in the first peripheral. `Canonical` collects what must hold of a device so that it can be described
in this way.
-/

set_option autoImplicit false

namespace RegisterMap

open Numeral (decimalText hexText maxWord)

/-! ## Lines -/

namespace Document.Element

def opens (e : Element) : String := "<" ++ e.text ++ ">"

def closes (e : Element) : String := "</" ++ e.text ++ ">"

/-- The element with content between its tags. -/
def holding (e : Element) (data : String) : String := e.opens ++ data ++ e.closes

/-- The lines of an element's children between those of its tags. -/
def around (e : Element) (children : List String) : List String :=
  e.opens :: (children ++ [e.closes])

def textLines (e : Element) : Value → List String
  | .text s => ((Text.string? s).filter (· ≠ "")).toList.map e.holding
  | _ => []

def decimalLines (e : Element) : Value → List String
  | .int n => [e.holding (decimalText n)]
  | _ => []

def hexLines (e : Element) : Value → List String
  | .int n => [e.holding ("0x" ++ hexText n)]
  | _ => []

def truthLines (e : Element) : Value → List String
  | .bool b => [e.holding (if b then "true" else "false")]
  | _ => []

def accessLines (e : Element) (a : Access) : List String := [e.holding a.text]

end Document.Element

open Document (Element)

def Cpu.lines (c : Cpu) : List String :=
  Element.cpu.around <|
    Element.name.textLines c.name ++ Element.revision.textLines c.revision ++
    Element.endian.textLines c.endian ++ Element.mpuPresent.truthLines c.mpuPresent ++
    Element.fpuPresent.truthLines c.fpuPresent ++
    Element.nvicPrioBits.decimalLines c.nvicPrioBits ++
    Element.vendorSystickConfig.truthLines c.vendorSystickConfig

def AddressBlock.lines (b : AddressBlock) : List String :=
  Element.addressBlock.around <|
    Element.offset.hexLines b.offset ++ Element.size.hexLines b.size ++
    Element.usage.textLines b.usage

def Interrupt.lines (i : Interrupt) : List String :=
  Element.interrupt.around <|
    Element.name.textLines i.name ++ Element.description.textLines i.description ++
    Element.value.decimalLines i.vector

def Field.lines (f : Field) : List String :=
  Element.field.around <|
    Element.name.textLines f.name ++ Element.description.textLines f.description ++
    Element.bitOffset.decimalLines f.bitOffset ++ Element.bitWidth.decimalLines f.bitWidth ++
    Element.access.accessLines f.access

def Register.lines (x : Register) : List String :=
  Element.register.around <|
    Element.name.textLines x.name ++ Element.displayName.textLines x.displayName ++
    Element.description.textLines x.description ++
    Element.addressOffset.hexLines x.addressOffset ++ Element.size.hexLines x.size ++
    Element.resetValue.hexLines x.resetValue ++ Element.access.accessLines x.access ++
    Element.fields.around (x.fields.flatMap Field.lines)

/-- The lines of a peripheral in which these interrupts stand. -/
def Peripheral.lines (interrupts : List Interrupt) (p : Peripheral) : List String :=
  Element.peripheral.around <|
    Element.name.textLines p.name ++ Element.groupName.textLines p.groupName ++
    Element.description.textLines p.description ++
    Element.baseAddress.hexLines p.baseAddress ++
    p.addressBlock.toList.flatMap AddressBlock.lines ++ interrupts.flatMap Interrupt.lines ++
    Element.registers.around (p.registers.flatMap Register.lines)

/-- The lines of peripherals, the first of which has the interrupts of the device. -/
def Device.peripheralLines (d : Device) : List String :=
  match d.peripherals with
  | [] => []
  | p :: rest =>
    p.lines (d.interrupts.map Prod.snd) ++ rest.flatMap fun p => p.lines []

def Device.lines (d : Device) : List String :=
  Element.device.around <|
    Element.name.textLines d.name ++ Element.version.textLines d.version ++
    Element.description.textLines d.description ++
    Element.addressUnitBits.decimalLines d.addressUnitBits ++
    Element.width.decimalLines d.maxBitWidth ++ Element.size.decimalLines d.defaultSize ++
    Element.resetValue.decimalLines d.defaultResetValue ++
    Element.resetMask.decimalLines d.defaultResetMask ++ d.cpu.toList.flatMap Cpu.lines ++
    Element.peripherals.around d.peripheralLines

/-! ## Devices that can be described -/

/-- A text that a line can hold: a string in which no tag begins. -/
def Value.IsPlain (v : Value) : Prop := ∃ s : String, v = .ofString s ∧ '<' ∉ s.toList

def Value.IsWord (v : Value) : Prop := ∃ n : Nat, n ≤ maxWord ∧ v = .int n

theorem Value.IsWord.ne_null {v : Value} (word : v.IsWord) : v ≠ .null := by
  obtain ⟨n, -, rfl⟩ := word
  intro same
  cases same

def Value.MaybeWord (v : Value) : Prop := v = .null ∨ v.IsWord

def Value.MaybeTruth (v : Value) : Prop := v = .null ∨ ∃ b, v = .bool b

structure Cpu.Canonical (c : Cpu) : Prop where
  name : c.name.IsPlain
  revision : c.revision.IsPlain
  endian : c.endian.IsPlain
  mpuPresent : c.mpuPresent.MaybeTruth
  fpuPresent : c.fpuPresent.MaybeTruth
  nvicPrioBits : c.nvicPrioBits.MaybeWord
  vendorSystickConfig : c.vendorSystickConfig.MaybeTruth

structure AddressBlock.Canonical (b : AddressBlock) : Prop where
  offset : b.offset.MaybeWord
  size : b.size.MaybeWord
  usage : b.usage.IsPlain

structure Interrupt.Canonical (i : Interrupt) : Prop where
  name : i.name.IsPlain
  description : i.description.IsPlain
  vector : i.vector.IsWord

/-- The field of a register that has these names. -/
structure Field.Canonical (peripheralName registerName : Value) (f : Field) : Prop where
  peripheral : f.peripheralName = peripheralName
  register : f.registerName = registerName
  name : f.name.IsPlain
  description : f.description.IsPlain
  bitOffset : f.bitOffset.MaybeWord
  bitWidth : f.bitWidth.MaybeWord

/-- The register of a peripheral of this name. Its size and its reset value are always set. -/
structure Register.Canonical (peripheralName : Value) (x : Register) : Prop where
  peripheral : x.peripheralName = peripheralName
  name : x.name.IsPlain
  displayName : x.displayName.IsPlain
  description : x.description.IsPlain
  addressOffset : x.addressOffset.MaybeWord
  size : x.size.IsWord
  resetValue : x.resetValue.IsWord
  fields : ∀ f ∈ x.fields, f.Canonical peripheralName x.name

structure Peripheral.Canonical (p : Peripheral) : Prop where
  name : p.name.IsPlain
  groupName : p.groupName.IsPlain
  description : p.description.IsPlain
  baseAddress : p.baseAddress.MaybeWord
  addressBlock : ∀ b, p.addressBlock = some b → b.Canonical
  based : p.registers ≠ [] → p.baseAddress ≠ .null
  registers : ∀ x ∈ p.registers, x.Canonical p.name

/-- Each of the interrupts is listed under its own vector number, and no two have the same one. -/
structure Interrupt.Keyed (entries : List (Value × Interrupt)) : Prop where
  own : ∀ entry ∈ entries, entry.1 = entry.2.vector
  canonical : ∀ entry ∈ entries, entry.2.Canonical
  distinct : (entries.map Prod.fst).Nodup

structure Device.Canonical (d : Device) : Prop where
  name : d.name.IsPlain
  version : d.version.IsPlain
  description : d.description.IsPlain
  cpu : ∀ c, d.cpu = some c → c.Canonical
  addressUnitBits : d.addressUnitBits.MaybeWord
  maxBitWidth : d.maxBitWidth.MaybeWord
  defaultSize : d.defaultSize.MaybeWord
  defaultResetValue : d.defaultResetValue.MaybeWord
  defaultResetMask : d.defaultResetMask.MaybeWord
  peripherals : ∀ p ∈ d.peripherals, p.Canonical
  interrupts : Interrupt.Keyed d.interrupts
  housed : d.peripherals = [] → d.interrupts = []

end RegisterMap
