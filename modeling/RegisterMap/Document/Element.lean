import RegisterMap.Document.Tag
import RegisterMap.Text.Fold

/-!
The elements of a register description that the reader knows. Their names are compared without
regard to case.
-/

set_option autoImplicit false

namespace RegisterMap.Document

inductive Element
  | device
  | cpu
  | peripherals
  | peripheral
  | addressBlock
  | interrupt
  | registers
  | register
  | fields
  | field
  | enumeratedValues
  | name
  | version
  | description
  | addressUnitBits
  | width
  | size
  | resetValue
  | resetMask
  | revision
  | endian
  | mpuPresent
  | fpuPresent
  | nvicPrioBits
  | vendorSystickConfig
  | groupName
  | baseAddress
  | offset
  | usage
  | value
  | displayName
  | addressOffset
  | access
  | bitOffset
  | bitWidth
deriving DecidableEq, Repr

namespace Element

def all : List Element :=
  [.device, .cpu, .peripherals, .peripheral, .addressBlock, .interrupt, .registers, .register,
    .fields, .field, .enumeratedValues, .name, .version, .description, .addressUnitBits, .width,
    .size, .resetValue, .resetMask, .revision, .endian, .mpuPresent, .fpuPresent, .nvicPrioBits,
    .vendorSystickConfig, .groupName, .baseAddress, .offset, .usage, .value, .displayName,
    .addressOffset, .access, .bitOffset, .bitWidth]

/-- The name as it is written in a description. -/
def text : Element → String
  | .device => "device"
  | .cpu => "cpu"
  | .peripherals => "peripherals"
  | .peripheral => "peripheral"
  | .addressBlock => "addressBlock"
  | .interrupt => "interrupt"
  | .registers => "registers"
  | .register => "register"
  | .fields => "fields"
  | .field => "field"
  | .enumeratedValues => "enumeratedValues"
  | .name => "name"
  | .version => "version"
  | .description => "description"
  | .addressUnitBits => "addressUnitBits"
  | .width => "width"
  | .size => "size"
  | .resetValue => "resetValue"
  | .resetMask => "resetMask"
  | .revision => "revision"
  | .endian => "endian"
  | .mpuPresent => "mpuPresent"
  | .fpuPresent => "fpuPresent"
  | .nvicPrioBits => "nvicPrioBits"
  | .vendorSystickConfig => "vendorSystickConfig"
  | .groupName => "groupName"
  | .baseAddress => "baseAddress"
  | .offset => "offset"
  | .usage => "usage"
  | .value => "value"
  | .displayName => "displayName"
  | .addressOffset => "addressOffset"
  | .access => "access"
  | .bitOffset => "bitOffset"
  | .bitWidth => "bitWidth"

def ofName? (name : List Char) : Option Element :=
  all.find? fun e => Text.fold name = Text.fold e.text.toList

end Element

/-- What a tag does to the element of its name. -/
inductive Mark
  | opening (e : Element)
  | closing (e : Element)
  | unknown
deriving DecidableEq, Repr

def Mark.ofName : List Char → Mark
  | '/' :: name => match Element.ofName? name with
    | some e => .closing e
    | none => .unknown
  | name => match Element.ofName? name with
    | some e => .opening e
    | none => .unknown

def Tag.mark (t : Tag) : Mark := Mark.ofName t.name.toList

end RegisterMap.Document
