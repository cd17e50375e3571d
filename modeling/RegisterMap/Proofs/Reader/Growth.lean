import RegisterMap.Device.Edit
import RegisterMap.Proofs.Reader.Run
import RegisterMap.Proofs.Reader.Touch

/-!
The register at a fixed position in the model. Registers never move: the one in position `j` of the
peripheral in position `i` stays there, so that its history can be followed through a run. `Growth`
lists what a tag can make of it.
-/

set_option autoImplicit false

namespace RegisterMap.Document.Reader

/-- The position is that of the last register of the last peripheral. -/
def IsCurrent (r : Reader) (i j : Nat) : Prop :=
  i + 1 = r.device.peripherals.length ∧ ∃ p, r.peripheral? = some p ∧ j + 1 = p.registers.length

/-- The tag begins a peripheral behind all others, which is derived from the one in position `b`. -/
def Derives (r : Reader) (t : Tag) (i b : Nat) : Prop :=
  r.place = .peripherals ∧ t.mark = .opening .peripheral ∧ i = r.device.peripherals.length ∧
    ∃ name, t.derivedFrom = some name ∧ r.device.peripheralIndex? (.ofString name) = some b

inductive Growth (o : Settings) (r : Reader) (t : Tag) (i j : Nat) :
    Option Register → Option Register → Prop
  | same (x : Option Register) : Growth o r t i j x x
  | named {data : String} (x : Register) (here : r.place = .peripheral)
      (tells : t.Tells .name data) :
      Growth o r t i j (some x) (some (x.inPeripheral (.ofString data)))
  | described {e : Element} {data : String} {change : Register → Register} (x : Register)
      (here : r.place = .register) (current : r.IsCurrent i j) (tells : t.Tells e data)
      (known : registerAttribute e data = .ok change) :
      Growth o r t i j (some x) (some (change x))
  | fieldBegun {p : Peripheral} (x : Register) (here : r.place = .fields)
      (mark : t.mark = .opening .field) (current : r.IsCurrent i j)
      (owner : r.peripheral? = some p) :
      Growth o r t i j (some x) (some { x with fields := x.fields ++ [newField p x] })
  | fieldDescribed {e : Element} {data : String} {change : Field → Field} (x : Register)
      (here : r.place = .field) (current : r.IsCurrent i j) (tells : t.Tells e data)
      (known : fieldAttribute e data = .ok change) :
      Growth o r t i j (some x) (some (x.changeField change))
  | begun {p : Peripheral} (here : r.place = .registers) (mark : t.mark = .opening .register)
      (owner : r.peripheral? = some p) :
      Growth o r t i j none (some (newRegister o r.device p))
  | copied {b : Nat} {x : Register} (derives : r.Derives t i b)
      (source : r.device.register? b j = some x) : Growth o r t i j none (some x)

section

variable {o : Settings} {r next : Reader} {t : Tag} {notices : List Notice} {i j : Nat}

theorem register?_eq (d : Device) (i j : Nat) :
    d.register? i j = (d.peripherals[i]?).bind fun p => p.registers[j]? := rfl

theorem changeRegister_registers (f : Register → Register) (p : Peripheral) :
    (p.changeRegister f).registers = changeLast f p.registers := rfl

/-- A change of the last register of the last peripheral shows at the current position only. -/
theorem Growth.of_changeRegister {f : Register → Register} {p : Peripheral}
    (last : i + 1 = r.device.peripherals.length) (owner : r.peripheral? = some p)
    (grows : ∀ x, r.IsCurrent i j → Growth o r t i j (some x) (some (f x))) :
    Growth o r t i j p.registers[j]? (p.changeRegister f).registers[j]? := by
  rw [changeRegister_registers, getElem?_changeLast]
  split
  · rename_i lastRegister
    cases p.registers[j]? with
    | none => exact .same none
    | some x => exact grows x ⟨last, p, owner, lastRegister⟩
  · exact .same _

/-- What a touch of the last peripheral makes of its registers. -/
theorem Touch.growth {f : Peripheral → Peripheral} {p : Peripheral} (touch : Touch o r t f)
    (last : i + 1 = r.device.peripherals.length) (current : r.peripheral? = some p) :
    Growth o r t i j p.registers[j]? (f p).registers[j]? := by
  cases touch with
  | described here tells known =>
    obtain ⟨rfl, rfl⟩ | kept := peripheralAttribute_cases known
    · rw [Peripheral.rename, List.getElem?_map]
      cases p.registers[j]? with
      | none => exact .same none
      | some x => exact .named x here tells
    · rw [(kept p).2.1]
      exact .same _
  | blockBegun | blockDescribed => exact .same _
  -- The new register takes the first free position and moves no other.
  | @registerBegun q here mark owner =>
    cases current.symm.trans owner
    rw [List.getElem?_append]
    split
    · exact .same _
    · rename_i beyond
      rw [List.getElem?_eq_none (by omega), List.getElem?_singleton]
      split
      · exact .begun here mark owner
      · exact .same none
  | registerDescribed here tells known =>
    exact .of_changeRegister last current fun x behind => .described x here behind tells known
  | fieldBegun here mark =>
    exact .of_changeRegister last current fun x behind => .fieldBegun x here mark behind current
  | fieldDescribed here _ tells known =>
    exact .of_changeRegister last current fun x behind => .fieldDescribed x here behind tells known

theorem peripheralIndex?_of_found {d : Device} {name : String} {p : Peripheral}
    (found : d.findPeripheral? (.ofString name) = some p) :
    ∃ b, d.peripheralIndex? (.ofString name) = some b ∧ d.peripherals[b]? = some p := by
  obtain ⟨same, b, bound, rfl, others⟩ := List.find?_eq_some_iff_getElem.mp found
  refine ⟨b, ?_, List.getElem?_eq_getElem bound⟩
  have text : Value.ofString name ≠ .float .nan := nofun
  rw [Device.peripheralIndex?, if_neg text, List.findIdx?_eq_some_iff_getElem]
  exact ⟨bound, same, fun k less => by simpa using others k less⟩

theorem found_of_peripheralIndex? {d : Device} {name : String} {b : Nat}
    (index : d.peripheralIndex? (.ofString name) = some b) :
    ∃ p, d.findPeripheral? (.ofString name) = some p ∧ d.peripherals[b]? = some p := by
  have text : Value.ofString name ≠ .float .nan := nofun
  rw [Device.peripheralIndex?, if_neg text, List.findIdx?_eq_some_iff_getElem] at index
  obtain ⟨bound, same, others⟩ := index
  refine ⟨d.peripherals[b], ?_, List.getElem?_eq_getElem bound⟩
  exact List.find?_eq_some_iff_getElem.mpr
    ⟨same, b, bound, rfl, fun k less => by simpa using others k less⟩

theorem Effect.growth (effect : Effect o r t next notices) (i j : Nat) :
    Growth o r t i j (r.device.register? i j) (next.device.register? i j) := by
  rw [register?_eq, register?_eq]
  obtain same | ⟨p, here, mark, origin, same⟩ | ⟨f, touch, same⟩ := effect.peripherals
  · rw [same]
    exact .same _
  · rw [same, List.getElem?_append]
    split
    · exact .same _
    · rename_i beyond
      rw [List.getElem?_eq_none (by omega), List.getElem?_singleton]
      split
      · cases origin with
        | plain => exact .same none
        | derived derived found =>
          obtain ⟨b, index, base⟩ := peripheralIndex?_of_found found
          have new : i = r.device.peripherals.length := by omega
          cases source : p.registers[j]? with
          | none => rw [Option.bind_none, Option.bind_some, source]; exact .same none
          | some x =>
            rw [Option.bind_none, Option.bind_some, source]
            refine .copied ⟨here, mark, new, _, derived, index⟩ ?_
            rw [register?_eq, base, Option.bind_some, source]
      · exact .same none
  · rw [same, getElem?_changeLast]
    split
    · rename_i last
      have current : r.device.peripherals[i]? = r.peripheral? := by
        rw [peripheral?, List.getLast?_eq_getElem?]
        congr 1
        omega
      rw [current]
      cases known : r.peripheral? with
      | none => exact .same none
      | some p => exact touch.growth last known
    · exact .same _

theorem Growth.of_counted {x y : Option Register} {n : Nat}
    (growth : Growth o { r with line := n } t i j x y) : Growth o r t i j x y := by
  cases growth with
  | same => exact .same x
  | named x here tells => exact .named x here tells
  | described x here current tells known => exact .described x here current tells known
  | fieldBegun x here mark current owner => exact .fieldBegun x here mark current owner
  | fieldDescribed x here current tells known => exact .fieldDescribed x here current tells known
  | begun here mark owner => exact .begun here mark owner
  | copied derives source => exact .copied derives source

/-- What a line makes of the register: nothing, or what its tag does. -/
theorem growth_feed (line : String) (i j : Nat) :
    (r.feed o line).reader.device.register? i j = r.device.register? i j ∨
      ∃ t, Tag.ofLine? line = some t ∧
        Growth o r t i j (r.device.register? i j)
          ((r.feed o line).reader.device.register? i j) := by
  refine feed_cases (motive := fun step =>
    step.reader.device.register? i j = r.device.register? i j ∨ ∃ t, Tag.ofLine? line = some t ∧
      Growth o r t i j (r.device.register? i j) (step.reader.device.register? i j))
    line (fun _ => Or.inl rfl) ?_ (fun _ _ _ _ => Or.inl rfl)
  intro t next notices tagged ok
  exact Or.inr ⟨t, tagged, ((effect_of_read ok).growth i j).of_counted⟩

end

end RegisterMap.Document.Reader
