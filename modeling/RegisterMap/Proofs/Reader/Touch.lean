import RegisterMap.Proofs.Reader.Effect
import RegisterMap.Proofs.Reader.Frame

/-!
What a tag can do to the peripherals. It leaves them alone, adds one behind them, or touches the
last one, and `Touch` lists the ways of touching it. What holds of each peripheral separately is
proved by cases on the touch.
-/

set_option autoImplicit false

namespace RegisterMap.Document.Reader

/-- The ways in which a tag changes the peripheral that is described. -/
inductive Touch (o : Settings) (r : Reader) (t : Tag) : (Peripheral → Peripheral) → Prop
  | described {e : Element} {data : String} {change : Peripheral → Peripheral}
      (here : r.place = .peripheral) (tells : t.Tells e data)
      (known : peripheralAttribute e data = .ok change) : Touch o r t change
  | blockBegun (here : r.place = .peripheral) :
      Touch o r t fun p => { p with addressBlock := some {} }
  | blockDescribed {e : Element} {data : String} {change : AddressBlock → AddressBlock}
      (here : r.place = .addressBlock) (tells : t.Tells e data)
      (known : addressBlockAttribute e data = .ok change) :
      Touch o r t fun p => { p with addressBlock := p.addressBlock.map change }
  | registerBegun {p : Peripheral} (here : r.place = .registers)
      (mark : t.mark = .opening .register) (current : r.peripheral? = some p)
      (based : p.baseAddress.isNull = false) :
      Touch o r t fun p => { p with registers := p.registers ++ [newRegister o r.device p] }
  | registerDescribed {e : Element} {data : String} {change : Register → Register}
      (here : r.place = .register) (tells : t.Tells e data)
      (known : registerAttribute e data = .ok change) :
      Touch o r t (Peripheral.changeRegister change)
  | fieldBegun (here : r.place = .fields) (mark : t.mark = .opening .field) :
      Touch o r t fun p => p.changeRegister fun x => { x with fields := x.fields ++ [newField p x] }
  | fieldDescribed {e : Element} {data : String} {change : Field → Field}
      (here : r.place = .field) (outside : r.inEnumeratedValues = false) (tells : t.Tells e data)
      (known : fieldAttribute e data = .ok change) :
      Touch o r t (Peripheral.changeRegister (Register.changeField change))

section

variable {o : Settings} {r next : Reader} {t : Tag} {notices : List Notice}

theorem Effect.peripherals (effect : Effect o r t next notices) :
    next.device.peripherals = r.device.peripherals ∨
      (∃ p, r.place = .peripherals ∧ t.mark = .opening .peripheral ∧ r.Origin t p ∧
        next.device.peripherals = r.device.peripherals ++ [p]) ∨
      ∃ f, Touch o r t f ∧ next.device.peripherals = changeLast f r.device.peripherals := by
  cases effect with
  | ignored | passed | cpuOpened | peripheralSkipped | blockRepeated | interruptOpened
  | interruptDescribed | fieldClosed | valuesOpened | valuesClosed | cpuDescribed =>
    exact Or.inl rfl
  | deviceDescribed _ _ known => exact Or.inl (deviceAttribute_keeps known r.device).1
  | interruptClosed => exact Or.inl (r.device.addInterrupt_peripherals _)
  | peripheralOpened here mark origin => exact Or.inr (Or.inl ⟨_, here, mark, origin, rfl⟩)
  | peripheralDescribed here tells known =>
    exact Or.inr (Or.inr ⟨_, .described here tells known, rfl⟩)
  | blockOpened here => exact Or.inr (Or.inr ⟨_, .blockBegun here, rfl⟩)
  | blockDescribed here _ tells known =>
    exact Or.inr (Or.inr ⟨_, .blockDescribed here tells known, rfl⟩)
  | registerOpened here mark current based =>
    exact Or.inr (Or.inr ⟨_, .registerBegun here mark current based, rfl⟩)
  | registerDescribed here tells known =>
    exact Or.inr (Or.inr ⟨_, .registerDescribed here tells known, rfl⟩)
  | fieldOpened here mark => exact Or.inr (Or.inr ⟨_, .fieldBegun here mark, rfl⟩)
  | fieldDescribed here outside tells known =>
    exact Or.inr (Or.inr ⟨_, .fieldDescribed here outside tells known, rfl⟩)

/-- A tag leaves the stored interrupts alone, or stores the one that it closes. -/
theorem Effect.interrupts (effect : Effect o r t next notices) :
    next.device.interrupts = r.device.interrupts ∨
      ∃ i, r.place = .interrupt ∧ t.mark = .closing .interrupt ∧ i = r.interrupt.getD {} ∧
        r.device.admits i = true ∧
        next.device = { r.device with interrupts := r.device.interrupts ++ [(i.vector, i)] } := by
  cases effect with
  | @interruptClosed i here mark pending =>
    by_cases admitted : r.device.admits i = true
    · exact Or.inr ⟨i, here, mark, pending, admitted, if_pos admitted⟩
    · exact Or.inl (congrArg Device.interrupts (if_neg admitted))
  | deviceDescribed _ _ known => exact Or.inl (deviceAttribute_keeps known r.device).2.1
  | _ => exact Or.inl rfl

theorem Origin.mem {p : Peripheral} (origin : r.Origin t p) :
    p = {} ∨ p ∈ r.device.peripherals := by
  cases origin with
  | plain => exact Or.inl rfl
  | derived _ found => exact Or.inr (List.mem_of_find?_eq_some found)

/-- What a fresh peripheral has and every touch keeps, all peripherals keep. -/
theorem Effect.forall_peripherals {holds : Peripheral → Prop} (effect : Effect o r t next notices)
    (fresh : holds {})
    (touched : ∀ f p, Touch o r t f → r.peripheral? = some p → holds p → holds (f p))
    (before : ∀ p ∈ r.device.peripherals, holds p) : ∀ p ∈ next.device.peripherals, holds p := by
  intro p member
  obtain same | ⟨q, -, -, origin, same⟩ | ⟨f, touch, same⟩ := effect.peripherals
  · exact before p (same ▸ member)
  · rw [same, List.mem_append, List.mem_singleton] at member
    rcases member with old | rfl
    · exact before p old
    · rcases origin.mem with rfl | old
      · exact fresh
      · exact before p old
  · rw [same] at member
    exact forall_changeLast (fun q last => touched f q touch last) before p member

end

end RegisterMap.Document.Reader
