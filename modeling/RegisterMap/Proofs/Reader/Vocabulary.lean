import RegisterMap.Proofs.Reader.Effect
import RegisterMap.Proofs.Reader.Run

/-!
What counts at a place. A tag may be a boundary there, which begins or ends something whatever its
content is, or it may open an attribute of what is described, with content of the attribute's kind.
All other tags say nothing at the place (`read_of_ignored`), and neither does a line that holds one
of them or no tag at all: it is only counted (`feed_of_inert`).
-/

set_option autoImplicit false

namespace RegisterMap.Document

inductive Kind
  | text
  | decimal
  | hexadecimal
  | truth
  | right
deriving DecidableEq, Repr

/-- The content is no value of the kind. A decimal numeral that is too long is not refused. -/
def Kind.Refuses (data : String) : Kind → Prop
  | .text => False
  | .decimal => Numeral.decimal? data.toList = .ok none
  | .hexadecimal => Numeral.hexadecimal? data.toList = none
  | .truth => truth? data.toList = none
  | .right => Access.ofText? data.toList = none

namespace Place

def boundaries : Place → List Mark
  | .device => [.closing .device, .opening .cpu, .opening .peripherals]
  | .cpu => [.closing .cpu]
  | .peripherals => [.closing .peripherals, .opening .peripheral]
  | .peripheral =>
    [.closing .peripheral, .opening .addressBlock, .opening .interrupt, .opening .registers]
  | .addressBlock => [.closing .addressBlock]
  | .interrupt => [.closing .interrupt]
  | .registers => [.closing .registers, .opening .register]
  | .register => [.closing .register, .opening .fields]
  | .fields => [.closing .fields, .opening .field]
  | .field => [.closing .field, .opening .enumeratedValues, .closing .enumeratedValues]
  | .finished => []

def attributes : Place → List (Element × Kind)
  | .device =>
    [(.name, .text), (.version, .text), (.description, .text), (.addressUnitBits, .decimal),
      (.width, .decimal), (.size, .decimal), (.resetValue, .decimal), (.resetMask, .decimal)]
  | .cpu =>
    [(.name, .text), (.revision, .text), (.endian, .text), (.mpuPresent, .truth),
      (.fpuPresent, .truth), (.nvicPrioBits, .decimal), (.vendorSystickConfig, .truth)]
  | .peripheral =>
    [(.name, .text), (.description, .text), (.groupName, .text), (.baseAddress, .hexadecimal)]
  | .addressBlock => [(.offset, .hexadecimal), (.size, .hexadecimal), (.usage, .text)]
  | .interrupt => [(.name, .text), (.description, .text), (.value, .decimal)]
  | .register =>
    [(.name, .text), (.displayName, .text), (.description, .text), (.addressOffset, .hexadecimal),
      (.size, .hexadecimal), (.resetValue, .hexadecimal), (.access, .right)]
  | .field =>
    [(.name, .text), (.description, .text), (.bitOffset, .decimal), (.bitWidth, .decimal),
      (.access, .right)]
  | .peripherals | .registers | .fields | .finished => []

/-- Such content says nothing at the place: its element is no attribute there, or refuses it. -/
def Ignores (p : Place) (e : Element) (data : String) : Prop :=
  ∀ k, (e, k) ∈ p.attributes → k.Refuses data

end Place

theorem Passage.mem_boundaries {source target : Place} {m : Mark}
    (passage : Passage source m target) : m ∈ source.boundaries := by
  cases passage <;> decide

section

variable {α : Type} {e : Element} {data : String}

theorem decimal_of_refused {put : Value → α → α} (refused : Kind.decimal.Refuses data) :
    decimal data put = .ok id := by
  have read : Numeral.decimal? data.toList = .ok none := refused
  rw [decimal, read]
  rfl

theorem hexadecimal_of_refused {put : Value → α → α} (refused : Kind.hexadecimal.Refuses data) :
    hexadecimal data put = .ok id := by
  have read : Numeral.hexadecimal? data.toList = none := refused
  rw [hexadecimal, read]
  rfl

theorem truth_of_refused {put : Value → α → α} (refused : Kind.truth.Refuses data) :
    truth data put = .ok id := by
  have read : truth? data.toList = none := refused
  rw [truth, read]
  rfl

theorem right_of_refused {put : Access → α → α} (refused : Kind.right.Refuses data) :
    right data put = .ok id := by
  have read : Access.ofText? data.toList = none := refused
  rw [right, read]
  rfl

theorem deviceAttribute_of_ignored (ignored : Place.device.Ignores e data) :
    deviceAttribute e data = .ok id := by
  unfold deviceAttribute
  split
  case h_1 | h_2 | h_3 => exact absurd (ignored .text (by decide)) not_false
  case h_9 => rfl
  all_goals exact decimal_of_refused (ignored .decimal (by decide))

theorem cpuAttribute_of_ignored (ignored : Place.cpu.Ignores e data) :
    cpuAttribute e data = .ok id := by
  unfold cpuAttribute
  split
  case h_1 | h_2 | h_3 => exact absurd (ignored .text (by decide)) not_false
  case h_6 => exact decimal_of_refused (ignored .decimal (by decide))
  case h_8 => rfl
  all_goals exact truth_of_refused (ignored .truth (by decide))

theorem peripheralAttribute_of_ignored (ignored : Place.peripheral.Ignores e data) :
    peripheralAttribute e data = .ok id := by
  unfold peripheralAttribute
  split
  case h_4 => exact hexadecimal_of_refused (ignored .hexadecimal (by decide))
  case h_5 => rfl
  all_goals exact absurd (ignored .text (by decide)) not_false

theorem addressBlockAttribute_of_ignored (ignored : Place.addressBlock.Ignores e data) :
    addressBlockAttribute e data = .ok id := by
  unfold addressBlockAttribute
  split
  case h_3 => exact absurd (ignored .text (by decide)) not_false
  case h_4 => rfl
  all_goals exact hexadecimal_of_refused (ignored .hexadecimal (by decide))

theorem interruptAttribute_of_ignored (ignored : Place.interrupt.Ignores e data) :
    interruptAttribute e data = .ok id := by
  unfold interruptAttribute
  split
  case h_3 => exact decimal_of_refused (ignored .decimal (by decide))
  case h_4 => rfl
  all_goals exact absurd (ignored .text (by decide)) not_false

theorem registerAttribute_of_ignored (ignored : Place.register.Ignores e data) :
    registerAttribute e data = .ok id := by
  unfold registerAttribute
  split
  case h_1 | h_2 | h_3 => exact absurd (ignored .text (by decide)) not_false
  case h_7 => exact right_of_refused (ignored .right (by decide))
  case h_8 => rfl
  all_goals exact hexadecimal_of_refused (ignored .hexadecimal (by decide))

theorem fieldAttribute_of_ignored (ignored : Place.field.Ignores e data) :
    fieldAttribute e data = .ok id := by
  unfold fieldAttribute
  split
  case h_1 | h_2 => exact absurd (ignored .text (by decide)) not_false
  case h_5 => exact right_of_refused (ignored .right (by decide))
  case h_6 => rfl
  all_goals exact decimal_of_refused (ignored .decimal (by decide))

end

namespace Reader

section

variable (r : Reader)

@[simp] theorem changeDevice_id : r.changeDevice id = r := rfl

@[simp] theorem changeCpu_id : r.changeCpu id = r := by
  simp [changeCpu, changeDevice]

@[simp] theorem changePeripheral_id : r.changePeripheral id = r := by
  simp [changePeripheral, changeDevice, Device.changePeripheral]

@[simp] theorem changeAddressBlock_id : r.changeAddressBlock id = r := by
  have same : (fun p : Peripheral => { p with addressBlock := p.addressBlock.map id }) = id := by
    funext p
    simp
  rw [changeAddressBlock, same, changePeripheral_id]

@[simp] theorem changeInterrupt_id : r.changeInterrupt id = r := by
  simp [changeInterrupt]

@[simp] theorem changeRegister_id : r.changeRegister id = r := by
  have same : Peripheral.changeRegister id = id := by
    funext p
    simp [Peripheral.changeRegister]
  rw [changeRegister, same, changePeripheral_id]

@[simp] theorem changeField_id : r.changeField id = r := by
  have same : Register.changeField id = id := by
    funext x
    simp [Register.changeField]
  rw [changeField, same, changeRegister_id]

end

section

variable {o : Settings} {r : Reader} {t : Tag}

theorem describe_of_ignored {α : Type} {changeOf : Element → String → Change α}
    {lift : (α → α) → Reader → Reader}
    (ignored : ∀ e data, t.Tells e data → changeOf e data = .ok id) (idle : lift id r = r) :
    r.describe t changeOf lift = r.stay := by
  unfold describe
  split
  · rename_i e data mark content
    rw [ignored e data ⟨mark, content⟩]
    exact congrArg stay idle
  · rfl

theorem inDevice_of_ignored (inner : t.mark ∉ Place.device.boundaries)
    (ignored : ∀ e data, t.Tells e data → Place.device.Ignores e data) :
    r.inDevice t = r.stay := by
  unfold inDevice
  split
  case h_4 =>
    exact describe_of_ignored
      (fun e data tells => deviceAttribute_of_ignored (ignored e data tells)) r.changeDevice_id
  all_goals exact absurd (by rw [‹t.mark = _›]; decide) inner

theorem inCpu_of_ignored (inner : t.mark ∉ Place.cpu.boundaries)
    (ignored : ∀ e data, t.Tells e data → Place.cpu.Ignores e data) : r.inCpu t = r.stay := by
  unfold inCpu
  split
  · exact absurd (by rw [‹t.mark = _›]; decide) inner
  · exact describe_of_ignored
      (fun e data tells => cpuAttribute_of_ignored (ignored e data tells)) r.changeCpu_id

theorem inPeripherals_of_inner (inner : t.mark ∉ Place.peripherals.boundaries) :
    r.inPeripherals t = r.stay := by
  unfold inPeripherals
  split
  case h_3 => rfl
  all_goals exact absurd (by rw [‹t.mark = _›]; decide) inner

theorem inPeripheral_of_ignored (inner : t.mark ∉ Place.peripheral.boundaries)
    (ignored : ∀ e data, t.Tells e data → Place.peripheral.Ignores e data) :
    r.inPeripheral t = r.stay := by
  unfold inPeripheral
  split
  case h_5 =>
    exact describe_of_ignored
      (fun e data tells => peripheralAttribute_of_ignored (ignored e data tells))
      r.changePeripheral_id
  all_goals exact absurd (by rw [‹t.mark = _›]; decide) inner

theorem inAddressBlock_of_ignored (inner : t.mark ∉ Place.addressBlock.boundaries)
    (ignored : ∀ e data, t.Tells e data → Place.addressBlock.Ignores e data) :
    r.inAddressBlock t = r.stay := by
  unfold inAddressBlock
  split
  · exact absurd (by rw [‹t.mark = _›]; decide) inner
  · split
    · rfl
    · exact describe_of_ignored
        (fun e data tells => addressBlockAttribute_of_ignored (ignored e data tells))
        r.changeAddressBlock_id

theorem inInterrupt_of_ignored (inner : t.mark ∉ Place.interrupt.boundaries)
    (ignored : ∀ e data, t.Tells e data → Place.interrupt.Ignores e data) :
    r.inInterrupt t = r.stay := by
  unfold inInterrupt
  split
  · exact absurd (by rw [‹t.mark = _›]; decide) inner
  · exact describe_of_ignored
      (fun e data tells => interruptAttribute_of_ignored (ignored e data tells))
      r.changeInterrupt_id

theorem inRegisters_of_inner (inner : t.mark ∉ Place.registers.boundaries) :
    r.inRegisters o t = r.stay := by
  unfold inRegisters
  split
  case h_3 => rfl
  all_goals exact absurd (by rw [‹t.mark = _›]; decide) inner

theorem inRegister_of_ignored (inner : t.mark ∉ Place.register.boundaries)
    (ignored : ∀ e data, t.Tells e data → Place.register.Ignores e data) :
    r.inRegister t = r.stay := by
  unfold inRegister
  split
  case h_3 =>
    exact describe_of_ignored
      (fun e data tells => registerAttribute_of_ignored (ignored e data tells))
      r.changeRegister_id
  all_goals exact absurd (by rw [‹t.mark = _›]; decide) inner

theorem inFields_of_inner (inner : t.mark ∉ Place.fields.boundaries) :
    r.inFields t = r.stay := by
  unfold inFields
  split
  case h_3 => rfl
  all_goals exact absurd (by rw [‹t.mark = _›]; decide) inner

theorem inField_of_ignored (inner : t.mark ∉ Place.field.boundaries)
    (ignored : ∀ e data, t.Tells e data → Place.field.Ignores e data) : r.inField t = r.stay := by
  unfold inField
  split
  case h_4 =>
    split
    · rfl
    · exact describe_of_ignored
        (fun e data tells => fieldAttribute_of_ignored (ignored e data tells)) r.changeField_id
  all_goals exact absurd (by rw [‹t.mark = _›]; decide) inner

/-- A tag that is no boundary, with nothing that its place takes as content, says nothing. -/
theorem read_of_ignored (inner : t.mark ∉ r.place.boundaries)
    (ignored : ∀ e data, t.Tells e data → r.place.Ignores e data) : read o r t = r.stay := by
  unfold read
  cases here : r.place with
  | device => rw [here] at inner ignored; exact inDevice_of_ignored inner ignored
  | cpu => rw [here] at inner ignored; exact inCpu_of_ignored inner ignored
  | peripherals => rw [here] at inner; exact inPeripherals_of_inner inner
  | peripheral => rw [here] at inner ignored; exact inPeripheral_of_ignored inner ignored
  | addressBlock => rw [here] at inner ignored; exact inAddressBlock_of_ignored inner ignored
  | interrupt => rw [here] at inner ignored; exact inInterrupt_of_ignored inner ignored
  | registers => rw [here] at inner; exact inRegisters_of_inner inner
  | register => rw [here] at inner ignored; exact inRegister_of_ignored inner ignored
  | fields => rw [here] at inner; exact inFields_of_inner inner
  | field => rw [here] at inner ignored; exact inField_of_ignored inner ignored
  | finished => rfl

/-! ## Boundaries -/

/-- Only a boundary leads to another place, or into enumerated values or out of them. -/
theorem Effect.level {next : Reader} {notices : List Notice}
    (effect : Effect o r t next notices) (inner : t.mark ∉ r.place.boundaries) :
    next.place = r.place ∧ next.inEnumeratedValues = r.inEnumeratedValues := by
  cases effect with
  | passed passage => exact absurd passage.mem_boundaries inner
  | cpuOpened here mark | peripheralOpened here mark | blockOpened here mark
  | blockRepeated here mark | interruptOpened here mark | interruptClosed here mark
  | registerOpened here mark | fieldOpened here mark | fieldClosed here mark
  | valuesOpened here mark | valuesClosed here mark =>
    exact absurd (by rw [here, mark]; decide) inner
  | _ => exact ⟨rfl, rfl⟩

/-- The content of a boundary does not matter. -/
theorem read_of_boundary {u : Tag} (boundary : t.mark ∈ r.place.boundaries)
    (mark : u.mark = t.mark) (derived : u.derivedFrom = t.derivedFrom) :
    read o r u = read o r t := by
  unfold read
  cases here : r.place <;> rw [here] at boundary <;>
    simp only [Place.boundaries, List.mem_cons, List.not_mem_nil, or_false] at boundary
  case device => rcases boundary with is | is | is <;> simp only [inDevice, mark, is]
  case cpu => simp only [inCpu, mark, boundary]
  case peripherals =>
    rcases boundary with is | is <;> simp only [inPeripherals, mark, is, derived]
  case peripheral =>
    rcases boundary with is | is | is | is <;> simp only [inPeripheral, mark, is]
  case addressBlock => simp only [inAddressBlock, mark, boundary]
  case interrupt => simp only [inInterrupt, mark, boundary]
  case registers => rcases boundary with is | is <;> simp only [inRegisters, mark, is]
  case register => rcases boundary with is | is <;> simp only [inRegister, mark, is]
  case fields => rcases boundary with is | is <;> simp only [inFields, mark, is]
  case field => rcases boundary with is | is | is <;> simp only [inField, mark, is]

end

end Reader

/-! ## Lines that say nothing -/

/-- The line holds no tag, or one that the place does not know, or an attribute of the place without
content or with content that is no value of its kind. -/
inductive Inert (p : Place) (line : String) : Prop
  | untagged (none : Tag.ofLine? line = none)
  | unknown {t : Tag} (tagged : Tag.ofLine? line = some t) (inner : t.mark ∉ p.boundaries)
      (other : ∀ a ∈ p.attributes, t.mark ≠ .opening a.1)
  | bare {t : Tag} {e : Element} {k : Kind} (tagged : Tag.ofLine? line = some t)
      (listed : (e, k) ∈ p.attributes) (mark : t.mark = .opening e) (bare : t.content = none)
  | refused {t : Tag} {e : Element} {k : Kind} {data : String}
      (tagged : Tag.ofLine? line = some t) (listed : (e, k) ∈ p.attributes)
      (tells : t.Tells e data) (refuses : k.Refuses data)

namespace Place

theorem attribute_notMem_boundaries {p : Place} {e : Element} {k : Kind}
    (listed : (e, k) ∈ p.attributes) : .opening e ∉ p.boundaries := by
  have apart : ∀ a ∈ p.attributes, .opening a.1 ∉ p.boundaries := by cases p <;> decide
  exact apart (e, k) listed

/-- At one place an element has content of one kind. -/
theorem kind_unique {p : Place} {e : Element} {k l : Kind} (first : (e, k) ∈ p.attributes)
    (second : (e, l) ∈ p.attributes) : k = l := by
  have unique : ∀ a ∈ p.attributes, ∀ b ∈ p.attributes, a.1 = b.1 → a.2 = b.2 := by
    cases p <;> decide
  exact unique (e, k) first (e, l) second rfl

end Place

section

variable {o : Settings} {r : Reader} {line : String}

theorem feed_of_ignored {t : Tag} (tagged : Tag.ofLine? line = some t)
    (inner : t.mark ∉ r.place.boundaries)
    (ignored : ∀ e data, t.Tells e data → r.place.Ignores e data) :
    r.feed o line = { reader := { r with line := r.line + 1 } } := by
  have stays : Reader.read o { r with line := r.line + 1 } t =
      Reader.stay { r with line := r.line + 1 } := Reader.read_of_ignored inner ignored
  rw [Reader.feed_of_tag tagged, stays]
  rfl

theorem feed_of_inert (inert : Inert r.place line) :
    r.feed o line = { reader := { r with line := r.line + 1 } } := by
  cases inert with
  | untagged none =>
    unfold Reader.feed
    rw [none]
  | unknown tagged inner other =>
    refine feed_of_ignored tagged inner ?_
    intro e data tells k listed
    exact absurd tells.1 (other (e, k) listed)
  | bare tagged listed mark bare =>
    refine feed_of_ignored tagged (mark ▸ Place.attribute_notMem_boundaries listed) ?_
    intro e data tells
    exact absurd (bare.symm.trans tells.2) nofun
  | @refused t e k data tagged listed tells refuses =>
    refine feed_of_ignored tagged (tells.1 ▸ Place.attribute_notMem_boundaries listed) ?_
    intro e' data' tells' k' listed'
    cases tells.1.symm.trans tells'.1
    cases tells.2.symm.trans tells'.2
    rw [Place.kind_unique listed' listed]
    exact refuses

end

end RegisterMap.Document
