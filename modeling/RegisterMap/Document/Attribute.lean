import RegisterMap.Device.Basic
import RegisterMap.Document.Element
import RegisterMap.Numeral.Word

/-!
Attributes: what an element with content says about the entity that it stands in. Each kind of
entity knows attributes of its own, and the same name may stand for numerals of different kinds in
different entities. Content that is no value of the attribute's kind changes nothing, nor does an
attribute that the entity does not know.
-/

set_option autoImplicit false

namespace RegisterMap.Document

open Numeral (decimal? hexadecimal?)

/-- The change that an attribute makes; only the length of a decimal numeral can stand against it.
-/
abbrev Change (α : Type) := Except Numeral.TooLong (α → α)

section

variable {α β : Type}

def textual (data : String) (put : Value → α → α) : Change α := .ok (put (.ofString data))

/-- The change by a value, or none without one. -/
def changeBy (v : Option β) (put : β → α → α) : α → α :=
  match v with
  | some v => put v
  | none => id

def decimal (data : String) (put : Value → α → α) : Change α :=
  (decimal? data.toList).map fun (n : Option Nat) => changeBy n fun n => put (.int n)

def hexadecimal (data : String) (put : Value → α → α) : Change α :=
  .ok (changeBy (hexadecimal? data.toList) fun n => put (.int n))

def truth (data : String) (put : Value → α → α) : Change α :=
  .ok (changeBy (truth? data.toList) fun b => put (.bool b))

def right (data : String) (put : Access → α → α) : Change α :=
  .ok (changeBy (Access.ofText? data.toList) put)

def unchanged : Change α := .ok id

end

def deviceAttribute (e : Element) (data : String) : Change Device :=
  match e with
  | .name => textual data fun s d => { d with name := s }
  | .version => textual data fun s d => { d with version := s }
  | .description => textual data fun s d => { d with description := s }
  | .addressUnitBits => decimal data fun v d => { d with addressUnitBits := v }
  | .width => decimal data fun v d => { d with maxBitWidth := v }
  | .size => decimal data fun v d => { d with defaultSize := v }
  | .resetValue => decimal data fun v d => { d with defaultResetValue := v }
  | .resetMask => decimal data fun v d => { d with defaultResetMask := v }
  | _ => unchanged

def cpuAttribute (e : Element) (data : String) : Change Cpu :=
  match e with
  | .name => textual data fun s c => { c with name := s }
  | .revision => textual data fun s c => { c with revision := s }
  | .endian => textual data fun s c => { c with endian := s }
  | .mpuPresent => truth data fun v c => { c with mpuPresent := v }
  | .fpuPresent => truth data fun v c => { c with fpuPresent := v }
  | .nvicPrioBits => decimal data fun v c => { c with nvicPrioBits := v }
  | .vendorSystickConfig => truth data fun v c => { c with vendorSystickConfig := v }
  | _ => unchanged

def peripheralAttribute (e : Element) (data : String) : Change Peripheral :=
  match e with
  | .name => textual data Peripheral.rename
  | .description => textual data fun s p => { p with description := s }
  | .groupName => textual data fun s p => { p with groupName := s }
  | .baseAddress => hexadecimal data fun v p => { p with baseAddress := v }
  | _ => unchanged

def addressBlockAttribute (e : Element) (data : String) : Change AddressBlock :=
  match e with
  | .offset => hexadecimal data fun v b => { b with offset := v }
  | .size => hexadecimal data fun v b => { b with size := v }
  | .usage => textual data fun s b => { b with usage := s }
  | _ => unchanged

def interruptAttribute (e : Element) (data : String) : Change Interrupt :=
  match e with
  | .name => textual data fun s i => { i with name := s }
  | .description => textual data fun s i => { i with description := s }
  | .value => decimal data fun v i => { i with vector := v }
  | _ => unchanged

def registerAttribute (e : Element) (data : String) : Change Register :=
  match e with
  | .name => textual data fun s r => { r with name := s }
  | .displayName => textual data fun s r => { r with displayName := s }
  | .description => textual data fun s r => { r with description := s }
  | .addressOffset => hexadecimal data fun v r => { r with addressOffset := v }
  | .size => hexadecimal data fun v r => { r with size := v }
  | .resetValue => hexadecimal data fun v r => { r with resetValue := v }
  | .access => right data fun a r => { r with access := a }
  | _ => unchanged

def fieldAttribute (e : Element) (data : String) : Change Field :=
  match e with
  | .name => textual data fun s f => { f with name := s }
  | .description => textual data fun s f => { f with description := s }
  | .bitOffset => decimal data fun v f => { f with bitOffset := v }
  | .bitWidth => decimal data fun v f => { f with bitWidth := v }
  | .access => right data fun a f => { f with access := a }
  | _ => unchanged

end RegisterMap.Document
