import RegisterMap.Proofs.Reader.Effect
import RegisterMap.Proofs.Reader.Frame
import RegisterMap.Proofs.Reader.Run

/-!
At every place the reader has something to describe there. A tag only leads to a place inside an
entity when that entity has just been begun or its part is left, and no change takes an entity away.
A repeated address block is entered without a new one, so it must be known besides that a peripheral
whose address block was seen still has it.
-/

set_option autoImplicit false

namespace RegisterMap.Document.Reader

/-- What tags at the place speak of exists. -/
def Houses (r : Reader) : Place → Prop
  | .device | .peripherals | .finished => True
  | .cpu => ∃ c, r.device.cpu = some c
  | .peripheral | .registers => ∃ p, r.peripheral? = some p
  | .addressBlock => ∃ p b, r.peripheral? = some p ∧ p.addressBlock = some b
  | .interrupt => (∃ p, r.peripheral? = some p) ∧ ∃ i, r.interrupt = some i
  | .register | .fields => ∃ x, r.register? = some x
  | .field => ∃ f, r.field? = some f

def Housed (r : Reader) : Prop := r.Houses r.place

/-- The reader is housed, and the address block that it has seen is there. -/
structure Consistent (r : Reader) : Prop where
  housed : r.Housed
  block : r.blockSeen = true → ∃ p b, r.peripheral? = some p ∧ p.addressBlock = some b

section

variable (r : Reader)

@[simp] theorem peripheral?_changePeripheral (f : Peripheral → Peripheral) :
    (r.changePeripheral f).peripheral? = r.peripheral?.map f :=
  getLast?_changeLast f r.device.peripherals

@[simp] theorem register?_changeRegister (f : Register → Register) :
    (r.changeRegister f).register? = r.register?.map f := by
  simp only [register?, changeRegister, peripheral?_changePeripheral]
  cases r.peripheral? with
  | none => rfl
  | some p => exact getLast?_changeLast f p.registers

@[simp] theorem field?_changeField (f : Field → Field) :
    (r.changeField f).field? = r.field?.map f := by
  simp only [field?, changeField, register?_changeRegister]
  cases r.register? with
  | none => rfl
  | some x => exact getLast?_changeLast f x.fields

end

section

variable {r : Reader}

theorem peripheral_of_register {x : Register} (current : r.register? = some x) :
    ∃ p, r.peripheral? = some p ∧ p.registers.getLast? = some x :=
  Option.bind_eq_some_iff.mp current

theorem register_of_field {f : Field} (current : r.field? = some f) :
    ∃ x, r.register? = some x ∧ x.fields.getLast? = some f :=
  Option.bind_eq_some_iff.mp current

/-- A change that leaves the address block of a peripheral leaves the seen one in its place. -/
theorem block_changePeripheral {f : Peripheral → Peripheral}
    (keeps : ∀ p, (f p).addressBlock = p.addressBlock)
    (block : ∃ p b, r.peripheral? = some p ∧ p.addressBlock = some b) :
    ∃ p b, (r.changePeripheral f).peripheral? = some p ∧ p.addressBlock = some b := by
  obtain ⟨p, b, current, has⟩ := block
  exact ⟨f p, b, by simp [current], (keeps p).trans has⟩

theorem houses_of_passage {source target : Place} {m : Mark} (passage : Passage source m target)
    (housed : r.Houses source) : r.Houses target := by
  cases passage with
  | deviceClosed | peripheralsOpened | cpuClosed | peripheralsClosed | peripheralClosed =>
    exact trivial
  | registersOpened | registersClosed | fieldsOpened | fieldsClosed => exact housed
  | addressBlockClosed =>
    obtain ⟨p, -, current, -⟩ := housed
    exact ⟨p, current⟩
  | registerClosed =>
    obtain ⟨x, current⟩ := housed
    obtain ⟨p, known, -⟩ := peripheral_of_register current
    exact ⟨p, known⟩

/-! ## What changes leave in its place -/

theorem housed_at {next : Reader} {place : Place} (there : next.place = place)
    (houses : next.Houses place) : next.Housed := by
  rw [Housed, there]
  exact houses

theorem houses_changeCpu (f : Cpu → Cpu) (housed : r.Houses .cpu) :
    (r.changeCpu f).Houses .cpu := by
  obtain ⟨c, has⟩ := housed
  exact ⟨f c, by simp [changeCpu, changeDevice, has]⟩

theorem houses_changePeripheral (f : Peripheral → Peripheral) (housed : r.Houses .peripheral) :
    (r.changePeripheral f).Houses .peripheral := by
  obtain ⟨p, current⟩ := housed
  exact ⟨f p, by simp [current]⟩

theorem houses_openBlock (housed : r.Houses .peripheral) :
    (r.changePeripheral fun p => { p with addressBlock := some {} }).Houses .addressBlock := by
  obtain ⟨p, current⟩ := housed
  exact ⟨{ p with addressBlock := some {} }, {}, by simp [current], rfl⟩

theorem houses_changeAddressBlock (f : AddressBlock → AddressBlock)
    (housed : r.Houses .addressBlock) : (r.changeAddressBlock f).Houses .addressBlock := by
  obtain ⟨p, b, current, has⟩ := housed
  exact ⟨{ p with addressBlock := p.addressBlock.map f }, f b,
    by simp [changeAddressBlock, current], by simp [has]⟩

theorem houses_changeInterrupt (f : Interrupt → Interrupt) (housed : r.Houses .interrupt) :
    (r.changeInterrupt f).Houses .interrupt := by
  obtain ⟨known, i, pending⟩ := housed
  exact ⟨known, f i, by simp [changeInterrupt, pending]⟩

theorem houses_openRegister {p : Peripheral} (begin : Peripheral → Register)
    (current : r.peripheral? = some p) :
    (r.changePeripheral fun p => { p with registers := p.registers ++ [begin p] }).Houses
      .register :=
  ⟨begin p, by simp [register?, current]⟩

theorem houses_changeRegister (f : Register → Register) (housed : r.Houses .register) :
    (r.changeRegister f).Houses .register := by
  obtain ⟨x, current⟩ := housed
  exact ⟨f x, by simp [current]⟩

theorem houses_openField (begin : Peripheral → Register → Field) (housed : r.Houses .fields) :
    (r.changePeripheral fun p => p.changeRegister fun x =>
      { x with fields := x.fields ++ [begin p x] }).Houses .field := by
  obtain ⟨x, current⟩ := housed
  obtain ⟨p, known, last⟩ := peripheral_of_register current
  exact ⟨begin p x, by simp [field?, register?, known, Peripheral.changeRegister, last]⟩

theorem houses_changeField (f : Field → Field) (housed : r.Houses .field) :
    (r.changeField f).Houses .field := by
  obtain ⟨x, current⟩ := housed
  exact ⟨f x, by simp [current]⟩

theorem peripheral?_addInterrupt (i : Interrupt) :
    peripheral? { r with device := r.device.addInterrupt i } = r.peripheral? :=
  congrArg List.getLast? (r.device.addInterrupt_peripherals i)

end

/-! ## The invariant -/

theorem Effect.consistent {o : Settings} {r next : Reader} {t : Tag} {notices : List Notice}
    (effect : Effect o r t next notices) (before : r.Consistent) : next.Consistent := by
  obtain ⟨housed, block⟩ := before
  unfold Housed at housed
  cases effect with
  | ignored | peripheralSkipped => exact ⟨housed, block⟩
  | passed passage => exact ⟨houses_of_passage passage housed, block⟩
  | cpuOpened => exact ⟨⟨_, rfl⟩, block⟩
  | @deviceDescribed e data change here _ known =>
    have same : (r.changeDevice change).peripheral? = r.peripheral? :=
      congrArg List.getLast? (deviceAttribute_keeps known r.device).1
    refine ⟨housed_at here trivial, ?_⟩
    rw [same]
    exact block
  | @cpuDescribed _ _ change here =>
    rw [here] at housed
    exact ⟨housed_at here (houses_changeCpu change housed), block⟩
  | @peripheralOpened p => exact ⟨⟨p, by simp [peripheral?]⟩, nofun⟩
  | blockOpened here =>
    rw [here] at housed
    exact ⟨houses_openBlock housed, fun _ => houses_openBlock housed⟩
  -- Nothing is begun here, so only the block that was seen before can be meant.
  | blockRepeated _ _ again => exact ⟨block again, block⟩
  | interruptOpened here =>
    rw [here] at housed
    exact ⟨⟨housed, _, rfl⟩, block⟩
  | @peripheralDescribed _ _ change here _ known =>
    have keeps := peripheralAttribute_addressBlock known
    rw [here] at housed
    exact ⟨housed_at here (houses_changePeripheral change housed),
      fun seen => block_changePeripheral keeps (block seen)⟩
  | @blockDescribed _ _ change here =>
    rw [here] at housed
    have kept := houses_changeAddressBlock change housed
    exact ⟨housed_at here kept, fun _ => kept⟩
  | @interruptClosed i here =>
    rw [here] at housed
    obtain ⟨⟨p, current⟩, -⟩ := housed
    refine ⟨⟨p, (peripheral?_addInterrupt i).trans current⟩, fun seen => ?_⟩
    obtain ⟨q, b, known, has⟩ := block seen
    exact ⟨q, b, (peripheral?_addInterrupt i).trans known, has⟩
  | @interruptDescribed _ _ change here =>
    rw [here] at housed
    exact ⟨housed_at here (houses_changeInterrupt change housed), block⟩
  | registerOpened _ _ current =>
    exact ⟨houses_openRegister (newRegister o r.device) current,
      fun seen => block_changePeripheral (fun _ => rfl) (block seen)⟩
  | @registerDescribed _ _ change here =>
    rw [here] at housed
    exact ⟨housed_at here (houses_changeRegister change housed),
      fun seen => block_changePeripheral (fun _ => rfl) (block seen)⟩
  | fieldOpened here =>
    rw [here] at housed
    exact ⟨houses_openField newField housed,
      fun seen => block_changePeripheral (fun _ => rfl) (block seen)⟩
  | fieldClosed here =>
    rw [here] at housed
    obtain ⟨f, current⟩ := housed
    obtain ⟨x, known, -⟩ := register_of_field current
    exact ⟨⟨x, known⟩, block⟩
  | valuesOpened | valuesClosed => exact ⟨housed, block⟩
  | @fieldDescribed _ _ change here =>
    rw [here] at housed
    exact ⟨housed_at here (houses_changeField change housed),
      fun seen => block_changePeripheral (fun _ => rfl) (block seen)⟩

theorem consistent_feed {o : Settings} {r : Reader} (line : String) (before : r.Consistent) :
    (r.feed o line).reader.Consistent :=
  feed_keeps (fun _ held => ⟨held.housed, held.block⟩)
    (fun _ _ _ _ held ok => (effect_of_read ok).consistent held) line before

theorem consistent_fed (o : Settings) (lines : List String) : (fed o {} lines).Consistent :=
  fed_induction o {} (fun _ line held => consistent_feed line held) ⟨trivial, nofun⟩ lines

end RegisterMap.Document.Reader
