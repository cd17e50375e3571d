import RegisterMap.Document.Reading

/-!
What a tag can do to a reader. `Effect` lists the ways in which reading goes on, each with the place
and the tag that lead to it, and `effect_of_read` tells that there are no others; `fault_of_read`
lists the ways in which reading fails. Invariants of the reader are proved by cases on the effect.
-/

set_option autoImplicit false

namespace RegisterMap.Document

/-- The tag opens an element and has content. -/
def Tag.Tells (t : Tag) (e : Element) (data : String) : Prop :=
  t.mark = .opening e ∧ t.content = some data

/-- The tags that only lead from one place to another. -/
inductive Passage : Place → Mark → Place → Prop
  | deviceClosed : Passage .device (.closing .device) .finished
  | peripheralsOpened : Passage .device (.opening .peripherals) .peripherals
  | cpuClosed : Passage .cpu (.closing .cpu) .device
  | peripheralsClosed : Passage .peripherals (.closing .peripherals) .device
  | peripheralClosed : Passage .peripheral (.closing .peripheral) .peripherals
  | registersOpened : Passage .peripheral (.opening .registers) .registers
  | addressBlockClosed : Passage .addressBlock (.closing .addressBlock) .peripheral
  | registersClosed : Passage .registers (.closing .registers) .peripheral
  | registerClosed : Passage .register (.closing .register) .registers
  | fieldsOpened : Passage .register (.opening .fields) .fields
  | fieldsClosed : Passage .fields (.closing .fields) .register

namespace Reader

/-- What a peripheral begins as: nothing, or the base that its tag names. -/
inductive Origin (r : Reader) (t : Tag) : Peripheral → Prop
  | plain (underived : t.derivedFrom = none) : Origin r t {}
  | derived {name : String} {base : Peripheral} (derived : t.derivedFrom = some name)
      (found : r.device.findPeripheral? (.ofString name) = some base) : Origin r t base

inductive Effect (o : Settings) (r : Reader) (t : Tag) : Reader → List Notice → Prop
  | ignored : Effect o r t r []
  | passed {target : Place} (passage : Passage r.place t.mark target) :
      Effect o r t { r with place := target } [.moved r.line r.place target]
  | cpuOpened (here : r.place = .device) (mark : t.mark = .opening .cpu) :
      Effect o r t { r.changeDevice (fun d => { d with cpu := some {} }) with place := .cpu }
        [.moved r.line .device .cpu]
  | deviceDescribed {e : Element} {data : String} {change : Device → Device}
      (here : r.place = .device) (tells : t.Tells e data)
      (known : deviceAttribute e data = .ok change) : Effect o r t (r.changeDevice change) []
  | cpuDescribed {e : Element} {data : String} {change : Cpu → Cpu}
      (here : r.place = .cpu) (tells : t.Tells e data) (known : cpuAttribute e data = .ok change) :
      Effect o r t (r.changeCpu change) []
  | peripheralOpened {p : Peripheral} (here : r.place = .peripherals)
      (mark : t.mark = .opening .peripheral) (origin : r.Origin t p) :
      Effect o r t
        { r with
          device := { r.device with peripherals := r.device.peripherals ++ [p] }
          blockSeen := false
          place := .peripheral }
        [.moved r.line .peripherals .peripheral]
  | peripheralSkipped {name : String} (here : r.place = .peripherals)
      (mark : t.mark = .opening .peripheral) (derived : t.derivedFrom = some name)
      (missing : r.device.findPeripheral? (.ofString name) = none) :
      Effect o r t r [.unknownBase r.line name]
  | blockOpened (here : r.place = .peripheral) (mark : t.mark = .opening .addressBlock)
      (first : r.blockSeen = false) :
      Effect o r t
        { r.changePeripheral (fun p => { p with addressBlock := some {} }) with
          blockSkipped := false
          blockSeen := true
          place := .addressBlock }
        [.moved r.line .peripheral .addressBlock]
  | blockRepeated (here : r.place = .peripheral) (mark : t.mark = .opening .addressBlock)
      (again : r.blockSeen = true) :
      Effect o r t { r with blockSkipped := true, place := .addressBlock }
        [.moved r.line .peripheral .addressBlock]
  | interruptOpened (here : r.place = .peripheral) (mark : t.mark = .opening .interrupt) :
      Effect o r t { r with interrupt := some {}, place := .interrupt }
        [.moved r.line .peripheral .interrupt]
  | peripheralDescribed {e : Element} {data : String} {change : Peripheral → Peripheral}
      (here : r.place = .peripheral) (tells : t.Tells e data)
      (known : peripheralAttribute e data = .ok change) :
      Effect o r t (r.changePeripheral change) []
  | blockDescribed {e : Element} {data : String} {change : AddressBlock → AddressBlock}
      (here : r.place = .addressBlock) (counts : r.blockSkipped = false) (tells : t.Tells e data)
      (known : addressBlockAttribute e data = .ok change) :
      Effect o r t (r.changeAddressBlock change) []
  | interruptClosed {i : Interrupt} (here : r.place = .interrupt)
      (mark : t.mark = .closing .interrupt) (pending : i = r.interrupt.getD {}) :
      Effect o r t
        { r with device := r.device.addInterrupt i, interrupt := none, place := .peripheral }
        ((if r.device.admits i then [] else [.interruptDropped r.line i.name i.vector]) ++
          [.moved r.line .interrupt .peripheral])
  | interruptDescribed {e : Element} {data : String} {change : Interrupt → Interrupt}
      (here : r.place = .interrupt) (tells : t.Tells e data)
      (known : interruptAttribute e data = .ok change) :
      Effect o r t (r.changeInterrupt change) []
  | registerOpened {p : Peripheral} (here : r.place = .registers)
      (mark : t.mark = .opening .register) (current : r.peripheral? = some p)
      (based : p.baseAddress.isNull = false) :
      Effect o r t
        { r.changePeripheral (fun p =>
            { p with registers := p.registers ++ [newRegister o r.device p] }) with
          place := .register }
        [.moved r.line .registers .register]
  | registerDescribed {e : Element} {data : String} {change : Register → Register}
      (here : r.place = .register) (tells : t.Tells e data)
      (known : registerAttribute e data = .ok change) :
      Effect o r t (r.changeRegister change) []
  | fieldOpened (here : r.place = .fields) (mark : t.mark = .opening .field) :
      Effect o r t
        { r.changePeripheral (fun p => p.changeRegister fun x =>
            { x with fields := x.fields ++ [newField p x] }) with
          place := .field }
        [.moved r.line .fields .field]
  | fieldClosed (here : r.place = .field) (mark : t.mark = .closing .field) :
      Effect o r t { r with inEnumeratedValues := false, place := .fields }
        [.moved r.line .field .fields]
  | valuesOpened (here : r.place = .field) (mark : t.mark = .opening .enumeratedValues) :
      Effect o r t { r with inEnumeratedValues := true } []
  | valuesClosed (here : r.place = .field) (mark : t.mark = .closing .enumeratedValues) :
      Effect o r t { r with inEnumeratedValues := false } []
  | fieldDescribed {e : Element} {data : String} {change : Field → Field}
      (here : r.place = .field) (outside : r.inEnumeratedValues = false) (tells : t.Tells e data)
      (known : fieldAttribute e data = .ok change) :
      Effect o r t (r.changeField change) []

theorem read_of_passage {o : Settings} {r : Reader} {t : Tag} {target : Place}
    (passage : Passage r.place t.mark target) :
    read o r t = .ok ({ r with place := target }, [.moved r.line r.place target]) := by
  unfold read
  generalize here : r.place = place at passage ⊢
  generalize is : t.mark = mark at passage
  cases passage <;>
    simp only [inDevice, inCpu, inPeripherals, inPeripheral, inAddressBlock, inRegisters,
      inRegister, inFields, is, enter, here]

section

variable {α : Type} {r next : Reader} {t : Tag} {notices : List Notice}
  {changeOf : Element → String → Change α} {lift : (α → α) → Reader → Reader}

theorem describe_eq_ok (ok : r.describe t changeOf lift = .ok (next, notices)) :
    notices = [] ∧ (next = r ∨ ∃ e data change,
      t.Tells e data ∧ changeOf e data = .ok change ∧ next = lift change r) := by
  unfold describe at ok
  split at ok
  · rename_i e data mark content
    split at ok
    · rename_i change known
      obtain ⟨rfl, rfl⟩ := Prod.mk.inj (Except.ok.inj ok)
      exact ⟨rfl, Or.inr ⟨e, data, change, ⟨mark, content⟩, known, rfl⟩⟩
    · exact absurd ok nofun
  · obtain ⟨rfl, rfl⟩ := Prod.mk.inj (Except.ok.inj ok)
    exact ⟨rfl, Or.inl rfl⟩

theorem describe_eq_error {fault : Fault} (fails : r.describe t changeOf lift = .error fault) :
    ∃ e data numeral, t.Tells e data ∧ changeOf e data = .error numeral ∧
      fault = .numeralTooLong numeral := by
  unfold describe at fails
  split at fails
  · rename_i e data mark content
    split at fails
    · exact absurd fails nofun
    · rename_i numeral known
      exact ⟨e, data, numeral, ⟨mark, content⟩, known, (Except.error.inj fails).symm⟩
  · exact absurd fails nofun

end

section

variable {o : Settings} {r next : Reader} {t : Tag} {notices : List Notice}

theorem effect_inDevice (here : r.place = .device) (ok : r.inDevice t = .ok (next, notices)) :
    Effect o r t next notices := by
  unfold inDevice at ok
  split at ok
  · cases ok
    exact .passed (by rw [here, ‹t.mark = _›]; exact .deviceClosed)
  · cases ok
    exact here ▸ .cpuOpened here ‹_›
  · cases ok
    exact .passed (by rw [here, ‹t.mark = _›]; exact .peripheralsOpened)
  · obtain ⟨rfl, rfl | ⟨e, data, change, tells, known, rfl⟩⟩ := describe_eq_ok ok
    · exact .ignored
    · exact .deviceDescribed here tells known

theorem effect_inCpu (here : r.place = .cpu) (ok : r.inCpu t = .ok (next, notices)) :
    Effect o r t next notices := by
  unfold inCpu at ok
  split at ok
  · cases ok
    exact .passed (by rw [here, ‹t.mark = _›]; exact .cpuClosed)
  · obtain ⟨rfl, rfl | ⟨e, data, change, tells, known, rfl⟩⟩ := describe_eq_ok ok
    · exact .ignored
    · exact .cpuDescribed here tells known

theorem effect_inPeripherals (here : r.place = .peripherals)
    (ok : r.inPeripherals t = .ok (next, notices)) : Effect o r t next notices := by
  unfold inPeripherals at ok
  split at ok
  · cases ok
    exact .passed (by rw [here, ‹t.mark = _›]; exact .peripheralsClosed)
  · split at ok
    · cases ok
      exact here ▸ .peripheralOpened here ‹_› (.plain ‹_›)
    · split at ok
      · cases ok
        exact here ▸ .peripheralOpened here ‹_› (.derived ‹_› ‹_›)
      · cases ok
        exact .peripheralSkipped here ‹_› ‹_› ‹_›
  · cases ok
    exact .ignored

theorem effect_inPeripheral (here : r.place = .peripheral)
    (ok : r.inPeripheral t = .ok (next, notices)) : Effect o r t next notices := by
  unfold inPeripheral at ok
  split at ok
  · cases ok
    exact .passed (by rw [here, ‹t.mark = _›]; exact .peripheralClosed)
  · unfold openAddressBlock at ok
    split at ok
    · cases ok
      exact here ▸ .blockRepeated here ‹_› ‹_›
    · rename_i mark notSeen
      cases ok
      exact here ▸ .blockOpened here mark (eq_false_of_ne_true notSeen)
  · cases ok
    exact here ▸ .interruptOpened here ‹_›
  · cases ok
    exact .passed (by rw [here, ‹t.mark = _›]; exact .registersOpened)
  · obtain ⟨rfl, rfl | ⟨e, data, change, tells, known, rfl⟩⟩ := describe_eq_ok ok
    · exact .ignored
    · exact .peripheralDescribed here tells known

theorem effect_inAddressBlock (here : r.place = .addressBlock)
    (ok : r.inAddressBlock t = .ok (next, notices)) : Effect o r t next notices := by
  unfold inAddressBlock at ok
  split at ok
  · cases ok
    exact .passed (by rw [here, ‹t.mark = _›]; exact .addressBlockClosed)
  · split at ok
    · cases ok
      exact .ignored
    · rename_i counts
      obtain ⟨rfl, rfl | ⟨e, data, change, tells, known, rfl⟩⟩ := describe_eq_ok ok
      · exact .ignored
      · exact .blockDescribed here (eq_false_of_ne_true counts) tells known

theorem effect_inInterrupt (here : r.place = .interrupt)
    (ok : r.inInterrupt t = .ok (next, notices)) : Effect o r t next notices := by
  unfold inInterrupt at ok
  split at ok
  · cases ok
    exact here ▸ .interruptClosed here ‹_› rfl
  · obtain ⟨rfl, rfl | ⟨e, data, change, tells, known, rfl⟩⟩ := describe_eq_ok ok
    · exact .ignored
    · exact .interruptDescribed here tells known

theorem effect_inRegisters (here : r.place = .registers)
    (ok : r.inRegisters o t = .ok (next, notices)) : Effect o r t next notices := by
  unfold inRegisters at ok
  split at ok
  · cases ok
    exact .passed (by rw [here, ‹t.mark = _›]; exact .registersClosed)
  · split at ok
    · unfold openRegister at ok
      split at ok
      · exact absurd ok nofun
      · rename_i mark _ p current based
        cases ok
        exact here ▸ .registerOpened here mark current (eq_false_of_ne_true based)
    · cases ok
      exact .ignored
  · cases ok
    exact .ignored

theorem effect_inRegister (here : r.place = .register)
    (ok : r.inRegister t = .ok (next, notices)) : Effect o r t next notices := by
  unfold inRegister at ok
  split at ok
  · cases ok
    exact .passed (by rw [here, ‹t.mark = _›]; exact .registerClosed)
  · cases ok
    exact .passed (by rw [here, ‹t.mark = _›]; exact .fieldsOpened)
  · obtain ⟨rfl, rfl | ⟨e, data, change, tells, known, rfl⟩⟩ := describe_eq_ok ok
    · exact .ignored
    · exact .registerDescribed here tells known

theorem effect_inFields (here : r.place = .fields) (ok : r.inFields t = .ok (next, notices)) :
    Effect o r t next notices := by
  unfold inFields at ok
  split at ok
  · cases ok
    exact .passed (by rw [here, ‹t.mark = _›]; exact .fieldsClosed)
  · cases ok
    exact here ▸ .fieldOpened here ‹_›
  · cases ok
    exact .ignored

theorem effect_inField (here : r.place = .field) (ok : r.inField t = .ok (next, notices)) :
    Effect o r t next notices := by
  unfold inField at ok
  split at ok
  · cases ok
    exact here ▸ .fieldClosed here ‹_›
  · cases ok
    exact .valuesOpened here ‹_›
  · cases ok
    exact .valuesClosed here ‹_›
  · split at ok
    · cases ok
      exact .ignored
    · rename_i outside
      obtain ⟨rfl, rfl | ⟨e, data, change, tells, known, rfl⟩⟩ := describe_eq_ok ok
      · exact .ignored
      · exact .fieldDescribed here (eq_false_of_ne_true outside) tells known

/-- A tag that can be read has one of the effects. -/
theorem effect_of_read (ok : r.read o t = .ok (next, notices)) : Effect o r t next notices := by
  unfold read at ok
  cases here : r.place with
  | device => rw [here] at ok; exact effect_inDevice here ok
  | cpu => rw [here] at ok; exact effect_inCpu here ok
  | peripherals => rw [here] at ok; exact effect_inPeripherals here ok
  | peripheral => rw [here] at ok; exact effect_inPeripheral here ok
  | addressBlock => rw [here] at ok; exact effect_inAddressBlock here ok
  | interrupt => rw [here] at ok; exact effect_inInterrupt here ok
  | registers => rw [here] at ok; exact effect_inRegisters here ok
  | register => rw [here] at ok; exact effect_inRegister here ok
  | fields => rw [here] at ok; exact effect_inFields here ok
  | field => rw [here] at ok; exact effect_inField here ok
  | finished =>
    rw [here] at ok
    cases ok
    exact .ignored

end

end Reader

end RegisterMap.Document
