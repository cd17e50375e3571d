import RegisterMap.Proofs.Names
import RegisterMap.Proofs.Reader.Housed

/-!
Derivation of peripherals. A derived peripheral begins with the registers of its base, and what its
element says comes on top of them. So its lines are read as they would be if it had begun without
registers, and putting those of the base in front afterwards, under the name that it has then, gives
the same peripheral.
-/

set_option autoImplicit false

namespace RegisterMap

/-- The peripheral with these registers in front of its own, under its own name. -/
def Peripheral.inherit (inherited : List Register) (p : Peripheral) : Peripheral :=
  { p with registers := inherited.map (Register.inPeripheral p.name) ++ p.registers }

def Peripheral.withoutRegisters (p : Peripheral) : Peripheral := { p with registers := [] }

namespace Document

/-- Whether the place is inside the element of a peripheral. -/
def Place.isInside : Place → Bool
  | .peripheral | .addressBlock | .interrupt | .registers | .register | .fields | .field => true
  | .device | .cpu | .peripherals | .finished => false

namespace Reader

/-- Every one of the lines stands inside the element of a peripheral, where only the last one may
leave it. -/
def Inside (o : Settings) : Reader → List String → Prop
  | _, [] => True
  | r, line :: rest => r.place.isInside = true ∧ Inside o (r.feed o line).reader rest

instance decidableInside (o : Settings) :
    (r : Reader) → (lines : List String) → Decidable (Inside o r lines)
  | _, [] => inferInstanceAs (Decidable True)
  | r, line :: rest =>
    have := decidableInside o (r.feed o line).reader rest
    inferInstanceAs (Decidable (r.place.isInside = true ∧ Inside o (r.feed o line).reader rest))

/-- What can be told of a run from outside: after each line the place, the notices and the fault. -/
def trace (o : Settings) : Reader → List String → List (Place × List Notice × Option Fault)
  | _, [] => []
  | r, line :: rest =>
    let step := r.feed o line
    (step.reader.place, step.notices, step.fault) :: trace o step.reader rest

def inherit (inherited : List Register) : Reader → Reader :=
  changePeripheral (Peripheral.inherit inherited)

def withoutRegisters : Reader → Reader := changePeripheral Peripheral.withoutRegisters

/-- Progress with the registers in front of those of the peripheral. -/
def inheritProgress (inherited : List Register) (progress : Progress) : Progress :=
  progress.map fun (r, notices) => (r.inherit inherited, notices)

section

variable {o : Settings} {r : Reader} {t : Tag} {inherited : List Register}

@[simp] theorem place_inherit : (r.inherit inherited).place = r.place := rfl

theorem rename_inherit (name : Value) (p : Peripheral) :
    (p.inherit inherited).rename name = (p.rename name).inherit inherited := by
  have renamed : Register.inPeripheral name ∘ Register.inPeripheral p.name =
      Register.inPeripheral name := by
    funext x
    simp [Register.inPeripheral, Field.inPeripheral, Function.comp_def]
  simp [Peripheral.rename, Peripheral.inherit, renamed]

/-- No attribute of a peripheral depends on its registers. -/
theorem peripheralAttribute_inherit {e : Element} {data : String}
    {change : Peripheral → Peripheral} (known : peripheralAttribute e data = .ok change)
    (p : Peripheral) : change (p.inherit inherited) = (change p).inherit inherited := by
  unfold peripheralAttribute at known
  split at known
  · obtain rfl := textual_eq_ok known
    exact rename_inherit _ p
  · obtain rfl := textual_eq_ok known; rfl
  · obtain rfl := textual_eq_ok known; rfl
  · obtain rfl | ⟨n, -, rfl⟩ := hexadecimal_eq_ok known <;> rfl
  · cases known; rfl

theorem changeRegister_inherit (f : Register → Register) {p : Peripheral}
    (some : p.registers ≠ []) :
    (p.inherit inherited).changeRegister f = (p.changeRegister f).inherit inherited := by
  simp only [Peripheral.changeRegister, Peripheral.inherit, changeLast_append_right f _ some]

/-! ## Handlers -/

theorem inherit_changePeripheral {f : Peripheral → Peripheral}
    (commutes : ∀ p, r.peripheral? = some p → f (p.inherit inherited) = (f p).inherit inherited) :
    (r.inherit inherited).changePeripheral f = (r.changePeripheral f).inherit inherited := by
  simp only [inherit, changePeripheral, changeDevice, Device.changePeripheral,
    changeLast_changeLast, changeLast_congr commutes]

theorem inherit_changeRegister {x : Register} (f : Register → Register)
    (current : r.register? = some x) :
    (r.inherit inherited).changeRegister f = (r.changeRegister f).inherit inherited := by
  -- The last register is one of the peripheral's own, so the inherited ones are out of reach.
  refine inherit_changePeripheral fun p known => changeRegister_inherit f ?_
  obtain ⟨q, same, last⟩ := peripheral_of_register current
  cases known.symm.trans same
  exact List.ne_nil_of_mem (List.mem_of_getLast? last)

theorem describe_inherit {α : Type} {changeOf : Element → String → Change α}
    {lift : (α → α) → Reader → Reader}
    (commutes : ∀ e data change, changeOf e data = .ok change →
      lift change (r.inherit inherited) = (lift change r).inherit inherited) :
    (r.inherit inherited).describe t changeOf lift =
      inheritProgress inherited (r.describe t changeOf lift) := by
  unfold describe
  split
  · rename_i e data _ _
    cases known : changeOf e data with
    | error numeral => rfl
    | ok change => exact congrArg stay (commutes e data change known)
  · rfl

theorem inPeripheral_inherit :
    (r.inherit inherited).inPeripheral t = inheritProgress inherited (r.inPeripheral t) := by
  unfold inPeripheral
  split
  · rfl
  · unfold openAddressBlock
    have seen : (r.inherit inherited).blockSeen = r.blockSeen := rfl
    rw [seen]
    split
    · rfl
    · have opened : (r.inherit inherited).changePeripheral
            (fun p => { p with addressBlock := some {} }) =
          (r.changePeripheral fun p => { p with addressBlock := some {} }).inherit inherited :=
        inherit_changePeripheral fun p _ => rfl
      rw [opened]
      rfl
  · rfl
  · rfl
  · exact describe_inherit fun e data change known =>
      inherit_changePeripheral fun p _ => peripheralAttribute_inherit known p

theorem inAddressBlock_inherit :
    (r.inherit inherited).inAddressBlock t = inheritProgress inherited (r.inAddressBlock t) := by
  unfold inAddressBlock
  split
  · rfl
  · have skipped : (r.inherit inherited).blockSkipped = r.blockSkipped := rfl
    rw [skipped]
    split
    · rfl
    · exact describe_inherit fun e data change _ => inherit_changePeripheral fun p _ => rfl

theorem addInterrupt_changePeripheral (f : Peripheral → Peripheral) (d : Device) (i : Interrupt) :
    (d.changePeripheral f).addInterrupt i = (d.addInterrupt i).changePeripheral f := by
  have same : (d.changePeripheral f).admits i = d.admits i := rfl
  unfold Device.addInterrupt
  rw [same]
  split <;> rfl

theorem inInterrupt_inherit :
    (r.inherit inherited).inInterrupt t = inheritProgress inherited (r.inInterrupt t) := by
  unfold inInterrupt
  split
  · have pending : (r.inherit inherited).interrupt = r.interrupt := rfl
    rw [pending]
    unfold closeInterrupt
    have added : (r.inherit inherited).device.addInterrupt (r.interrupt.getD {}) =
        (r.device.addInterrupt (r.interrupt.getD {})).changePeripheral
          (Peripheral.inherit inherited) := addInterrupt_changePeripheral ..
    rw [added]
    rfl
  · exact describe_inherit fun e data change _ => rfl

theorem inRegisters_inherit :
    (r.inherit inherited).inRegisters o t = inheritProgress inherited (r.inRegisters o t) := by
  unfold inRegisters
  split
  · rfl
  · have current : (r.inherit inherited).peripheral? =
        r.peripheral?.map (Peripheral.inherit inherited) := peripheral?_changePeripheral ..
    rw [current]
    cases r.peripheral? with
    | none => rfl
    | some p =>
      dsimp only [Option.map_some]
      unfold openRegister
      have based : (p.inherit inherited).baseAddress = p.baseAddress := rfl
      rw [based]
      split
      · rfl
      · have opened : (r.inherit inherited).changePeripheral
              (fun p => { p with registers := p.registers ++ [newRegister o r.device p] }) =
            (r.changePeripheral fun p =>
              { p with registers := p.registers ++ [newRegister o r.device p] }).inherit
                inherited := by
          refine inherit_changePeripheral fun p _ => ?_
          simp only [Peripheral.inherit, List.append_assoc]
          rfl
        exact congrArg (fun s => enter s .register) opened
  · rfl

theorem inRegister_inherit {x : Register} (current : r.register? = some x) :
    (r.inherit inherited).inRegister t = inheritProgress inherited (r.inRegister t) := by
  unfold inRegister
  split
  · rfl
  · rfl
  · exact describe_inherit fun e data change _ => inherit_changeRegister change current

theorem inFields_inherit {x : Register} (current : r.register? = some x) :
    (r.inherit inherited).inFields t = inheritProgress inherited (r.inFields t) := by
  unfold inFields
  split
  · rfl
  · unfold openField
    have opened : (r.inherit inherited).changePeripheral
          (fun p => p.changeRegister fun x => { x with fields := x.fields ++ [newField p x] }) =
        (r.changePeripheral fun p =>
          p.changeRegister fun x => { x with fields := x.fields ++ [newField p x] }).inherit
            inherited := by
      refine inherit_changePeripheral fun p known => ?_
      obtain ⟨q, same, last⟩ := peripheral_of_register current
      cases known.symm.trans same
      exact changeRegister_inherit _ (List.ne_nil_of_mem (List.mem_of_getLast? last))
    rw [opened]
    rfl
  · rfl

theorem inField_inherit {x : Register} (current : r.register? = some x) :
    (r.inherit inherited).inField t = inheritProgress inherited (r.inField t) := by
  unfold inField
  split
  · rfl
  · rfl
  · rfl
  · have skipped : (r.inherit inherited).inEnumeratedValues = r.inEnumeratedValues := rfl
    rw [skipped]
    split
    · rfl
    · exact describe_inherit fun e data change _ =>
        inherit_changeRegister (Register.changeField change) current

/-- Inside a peripheral a tag is read without regard to the registers that it has inherited. -/
theorem read_inherit (consistent : r.Consistent) (inside : r.place.isInside = true) :
    read o (r.inherit inherited) t = inheritProgress inherited (read o r t) := by
  have housed := consistent.housed
  unfold read Housed at *
  rw [place_inherit]
  cases here : r.place with
  | device | cpu | peripherals | finished => rw [here] at inside; exact absurd inside nofun
  | peripheral => exact inPeripheral_inherit
  | addressBlock => exact inAddressBlock_inherit
  | interrupt => exact inInterrupt_inherit
  | registers => exact inRegisters_inherit
  | register =>
    rw [here] at housed
    obtain ⟨x, current⟩ := housed
    exact inRegister_inherit current
  | fields =>
    rw [here] at housed
    obtain ⟨x, current⟩ := housed
    exact inFields_inherit current
  | field =>
    rw [here] at housed
    obtain ⟨f, current⟩ := housed
    obtain ⟨x, known, -⟩ := register_of_field current
    exact inField_inherit known

/-! ## Runs -/

theorem feed_inherit (consistent : r.Consistent) (inside : r.place.isInside = true)
    (line : String) :
    (r.inherit inherited).feed o line =
      { r.feed o line with reader := (r.feed o line).reader.inherit inherited } := by
  unfold feed
  cases Tag.ofLine? line with
  | none => rfl
  | some t =>
    have counted : Consistent { r with line := r.line + 1 } := ⟨consistent.housed, consistent.block⟩
    have same : read o { r.inherit inherited with line := r.line + 1 } t =
        inheritProgress inherited (read o { r with line := r.line + 1 } t) :=
      read_inherit counted inside
    dsimp only
    have lines : (r.inherit inherited).line = r.line := rfl
    rw [lines, same]
    cases read o { r with line := r.line + 1 } t with
    | error fault => rfl
    | ok progress => rfl

/-- The registers that a peripheral has inherited stay in front of its own for as long as its
element lasts, and nobody can tell from the outside that they are there. -/
theorem run_inherit {body : List String} (consistent : r.Consistent)
    (inside : Inside o (r.inherit inherited) body) :
    fed o (r.inherit inherited) body = (fed o r body).inherit inherited ∧
      trace o (r.inherit inherited) body = trace o r body := by
  induction body generalizing r with
  | nil => exact ⟨rfl, rfl⟩
  | cons line rest ih =>
    obtain ⟨here, inside⟩ := inside
    have step : (r.inherit inherited).feed o line =
        { r.feed o line with reader := (r.feed o line).reader.inherit inherited } :=
      feed_inherit consistent here line
    rw [step] at inside
    obtain ⟨run, traced⟩ := ih (consistent_feed line consistent) inside
    rw [fed_cons, fed_cons, trace, trace, step]
    dsimp only
    rw [place_inherit, traced]
    exact ⟨run, rfl⟩

/-- Inside a peripheral no other peripheral changes. -/
theorem earlier_feed {earlier : List Peripheral} {q : Peripheral}
    (inside : r.place.isInside = true) (line : String)
    (before : r.device.peripherals = earlier ++ [q]) :
    ∃ p, (r.feed o line).reader.device.peripherals = earlier ++ [p] := by
  refine feed_cases
    (motive := fun step => ∃ p, step.reader.device.peripherals = earlier ++ [p]) line
    (fun _ => ⟨q, before⟩) ?_ (fun _ _ _ _ => ⟨q, before⟩)
  intro t next notices _ ok
  obtain same | ⟨p, here, -⟩ | ⟨f, -, same⟩ := (effect_of_read ok).peripherals
  · exact ⟨q, same.trans before⟩
  · change r.place = .peripherals at here
    rw [here] at inside
    exact absurd inside nofun
  · exact ⟨f q, by rw [same, before, changeLast_append]⟩

theorem earlier_fed {earlier : List Peripheral} {q : Peripheral} {body : List String}
    (inside : Inside o r body) (before : r.device.peripherals = earlier ++ [q]) :
    ∃ p, (fed o r body).device.peripherals = earlier ++ [p] := by
  induction body generalizing r q with
  | nil => exact ⟨q, before⟩
  | cons line rest ih =>
    obtain ⟨p, next⟩ := earlier_feed (o := o) inside.1 line before
    exact ih inside.2 next

theorem inside_append (first second : List String) :
    Inside o r (first ++ second) ↔ Inside o r first ∧ Inside o (r.fed o first) second := by
  induction first generalizing r with
  | nil => exact (iff_of_eq (true_and _)).symm
  | cons line rest ih => simp only [List.cons_append, Inside, fed_cons, ih, and_assoc]

theorem inside_of_inherit {body : List String} (consistent : r.Consistent)
    (inside : Inside o (r.inherit inherited) body) : Inside o r body := by
  induction body generalizing r with
  | nil => trivial
  | cons line rest ih =>
    obtain ⟨here, inside⟩ := inside
    rw [feed_inherit consistent here line] at inside
    exact ⟨here, ih (consistent_feed line consistent) inside⟩

/-! ## The derived peripheral -/

theorem feed_derived {line name : String} {base : Peripheral} (here : r.place = .peripherals)
    (tagged : Tag.ofLine? line = some t) (mark : t.mark = .opening .peripheral)
    (derived : t.derivedFrom = some name)
    (found : r.device.findPeripheral? (.ofString name) = some base) :
    (r.feed o line).reader.place = .peripheral ∧
      (r.feed o line).reader.device.peripherals = r.device.peripherals ++ [base] := by
  rw [feed_of_tag tagged, read, here]
  simp only [inPeripherals, mark, derived, found]
  exact ⟨rfl, rfl⟩

theorem inherit_withoutRegisters {p : Peripheral} (coheres : p.NamesCohere) :
    p.withoutRegisters.inherit p.registers = p := by
  have same : p.registers.map (Register.inPeripheral p.name) = p.registers :=
    (List.map_congr_left fun x member => (coheres x member).inPeripheral_eq).trans
      (List.map_id _)
  rw [Peripheral.inherit, Peripheral.withoutRegisters, List.append_nil, same]

/-- A base is found under a name if it is the first peripheral of exactly this name. -/
theorem findPeripheral?_eq_some_iff (d : Device) (name : String) (base : Peripheral) :
    d.findPeripheral? (.ofString name) = some base ↔
      base.name = .ofString name ∧ ∃ earlier later, d.peripherals = earlier ++ base :: later ∧
        ∀ p ∈ earlier, p.name ≠ .ofString name := by
  rw [Device.findPeripheral?, List.find?_eq_some_iff_append]
  simp only [Value.ofString, Value.alike_text_iff, Bool.not_eq_true', ← Bool.not_eq_true, ne_eq]

/-- A peripheral that begins as its base goes on as one that begins without registers would. -/
theorem extends_of_begun {first : Reader} {earlier : List Peripheral} {base : Peripheral}
    {body : List String} (place : first.place = .peripheral)
    (begun : first.device.peripherals = earlier ++ [base]) (coheres : base.NamesCohere)
    (consistent : first.Consistent) (inside : Inside o first body) :
    first.withoutRegisters.device.peripherals = earlier ++ [base.withoutRegisters] ∧
      trace o first body = trace o first.withoutRegisters body ∧
      ∃ q, (fed o first.withoutRegisters body).device.peripherals = earlier ++ [q] ∧
        fed o first body = { fed o first.withoutRegisters body with
          device := { (fed o first.withoutRegisters body).device with
            peripherals := earlier ++ [q.inherit base.registers] } } := by
  have bare : first.withoutRegisters.device.peripherals = earlier ++ [base.withoutRegisters] := by
    change changeLast _ first.device.peripherals = _
    rw [begun, changeLast_append]
  have rejoined : first.withoutRegisters.inherit base.registers = first := by
    have same : changeLast (Peripheral.inherit base.registers)
        first.withoutRegisters.device.peripherals = first.device.peripherals := by
      rw [bare, changeLast_append, inherit_withoutRegisters coheres, begun]
    change { first with device := { first.device with peripherals := changeLast _ _ } } = first
    rw [same]
  -- The place speaks of no register yet, so that none of them is missed.
  have bareConsistent : first.withoutRegisters.Consistent := by
    refine ⟨?_, fun seen => block_changePeripheral (fun _ => rfl) (consistent.block seen)⟩
    change first.withoutRegisters.Houses first.place
    rw [place]
    exact ⟨base.withoutRegisters, by rw [peripheral?, bare, List.getLast?_concat]⟩
  rw [← rejoined] at inside
  obtain ⟨run, traced⟩ := run_inherit bareConsistent inside
  obtain ⟨q, last⟩ := earlier_fed (inside_of_inherit bareConsistent inside) bare
  rw [rejoined] at run traced
  refine ⟨bare, traced, q, last, ?_⟩
  rw [run, inherit, changePeripheral, changeDevice, Device.changePeripheral, last,
    changeLast_append]

/-- A derived peripheral is its base, extended by what its element says: apart from the registers
of the base, which stand in front under the present name, it is what the same lines make of a copy
of the base without registers, and reading them looks the same. -/
theorem derivation_extends {line name : String} {base : Peripheral} {body : List String}
    (reached : ∃ before, r = fed o {} before) (here : r.place = .peripherals)
    (tagged : Tag.ofLine? line = some t) (mark : t.mark = .opening .peripheral)
    (derived : t.derivedFrom = some name)
    (found : r.device.findPeripheral? (.ofString name) = some base)
    (inside : Inside o (r.feed o line).reader body) :
    let first := (r.feed o line).reader
    let second := first.withoutRegisters
    (base.name = .ofString name ∧ ∃ earlier later, r.device.peripherals = earlier ++ base :: later ∧
        ∀ p ∈ earlier, p.name ≠ .ofString name) ∧
      first.device.peripherals = r.device.peripherals ++ [base] ∧
      second.device.peripherals = r.device.peripherals ++ [base.withoutRegisters] ∧
      trace o first body = trace o second body ∧
      ∃ q, (fed o second body).device.peripherals = r.device.peripherals ++ [q] ∧
        fed o first body = { fed o second body with
          device := { (fed o second body).device with
            peripherals := r.device.peripherals ++ [q.inherit base.registers] } } := by
  obtain ⟨before, rfl⟩ := reached
  obtain ⟨place, begun⟩ := feed_derived (o := o) here tagged mark derived found
  have coheres := namesCohere_fed o before base (List.mem_of_find?_eq_some found)
  have consistent := consistent_feed (o := o) line (consistent_fed o before)
  exact ⟨(findPeripheral?_eq_some_iff _ name base).mp found, begun,
    extends_of_begun place begun coheres consistent inside⟩

end

def timer : Peripheral :=
  { name := .ofString "TIM2"
    baseAddress := .int 0x40
    registers := [{ peripheralName := .ofString "TIM2" }] }

def behindTimer : Reader :=
  { device := { peripherals := [timer] }, place := .peripherals, line := 9 }

theorem behindTimer_reached :
    behindTimer = fed {} {} ["<peripherals>", "<peripheral>", "<name>TIM2</name>",
      "<baseAddress>0x40</baseAddress>", "<registers>", "<register>", "</register>",
      "</registers>", "</peripheral>"] := by
  decide +kernel

/-- The element of a derived timer, which gets its name behind a register of its own. -/
def derivedTimer : List String :=
  ["<registers>", "<register>", "</register>", "</registers>", "<name>TIM5</name>", "</peripheral>"]

theorem derivation_extends_timer :
    let first := (behindTimer.feed {} "<peripheral derivedFrom=\"TIM2\">").reader
    trace {} first derivedTimer = trace {} first.withoutRegisters derivedTimer := by
  have tagged : Tag.ofLine? "<peripheral derivedFrom=\"TIM2\">" =
      some { name := "peripheral", derivedFrom := some "TIM2" } := by decide +kernel
  have found : behindTimer.device.findPeripheral? (.ofString "TIM2") = some timer := by
    decide +kernel
  have inside : Inside {} (behindTimer.feed {} "<peripheral derivedFrom=\"TIM2\">").reader
      derivedTimer := by decide +kernel
  obtain ⟨-, -, -, traced, -⟩ := derivation_extends ⟨_, behindTimer_reached⟩ rfl tagged
    (by decide +kernel) rfl found inside
  exact traced

end Reader

end Document

end RegisterMap
