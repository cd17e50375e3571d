import RegisterMap.Proofs.Fitting

/-!
Where the values of a model come from. A tag says a text, a word or a truth value, and a register
without a size or a reset value has that of the device or of the settings. Values are copied with
what contains them, but never made of others. So each value of a reachable model is said by one of
the lines that were read, or is a setting, or stands for nothing.
-/

set_option autoImplicit false

namespace RegisterMap

/-! ## The values of a model -/

structure Cpu.All (holds : Value → Prop) (c : Cpu) : Prop where
  name : holds c.name
  revision : holds c.revision
  endian : holds c.endian
  mpuPresent : holds c.mpuPresent
  fpuPresent : holds c.fpuPresent
  nvicPrioBits : holds c.nvicPrioBits
  vendorSystickConfig : holds c.vendorSystickConfig

structure AddressBlock.All (holds : Value → Prop) (b : AddressBlock) : Prop where
  offset : holds b.offset
  size : holds b.size
  usage : holds b.usage

structure Interrupt.All (holds : Value → Prop) (i : Interrupt) : Prop where
  name : holds i.name
  description : holds i.description
  vector : holds i.vector

structure Field.All (holds : Value → Prop) (f : Field) : Prop where
  peripheralName : holds f.peripheralName
  registerName : holds f.registerName
  name : holds f.name
  description : holds f.description
  bitOffset : holds f.bitOffset
  bitWidth : holds f.bitWidth

structure Register.All (holds : Value → Prop) (x : Register) : Prop where
  peripheralName : holds x.peripheralName
  name : holds x.name
  displayName : holds x.displayName
  description : holds x.description
  addressOffset : holds x.addressOffset
  size : holds x.size
  resetValue : holds x.resetValue
  fields : ∀ f ∈ x.fields, f.All holds

structure Peripheral.All (holds : Value → Prop) (p : Peripheral) : Prop where
  name : holds p.name
  groupName : holds p.groupName
  description : holds p.description
  baseAddress : holds p.baseAddress
  addressBlock : ∀ b, p.addressBlock = some b → b.All holds
  registers : ∀ x ∈ p.registers, x.All holds

/-- The values of the device itself and of its processor. -/
structure Device.OwnAll (holds : Value → Prop) (d : Device) : Prop where
  name : holds d.name
  version : holds d.version
  description : holds d.description
  addressUnitBits : holds d.addressUnitBits
  maxBitWidth : holds d.maxBitWidth
  defaultSize : holds d.defaultSize
  defaultResetValue : holds d.defaultResetValue
  defaultResetMask : holds d.defaultResetMask
  cpu : ∀ c, d.cpu = some c → c.All holds

structure Device.All (holds : Value → Prop) (d : Device) : Prop where
  own : d.OwnAll holds
  peripherals : ∀ p ∈ d.peripherals, p.All holds
  interrupts : ∀ entry ∈ d.interrupts, entry.2.All holds

namespace Document

/-- What the content of a tag can mean. -/
inductive Means (data : String) : Value → Prop
  | text : Means data (.ofString data)
  | word {n : Nat} (small : n ≤ Numeral.maxWord) : Means data (.int n)
  | truth (b : Bool) : Means data (.bool b)

/-- The values that reading the lines with these settings can put into a model. -/
inductive Told (o : Settings) (lines : List String) : Value → Prop
  | unset : Told o lines .null
  | empty : Told o lines (.text [])
  | size : Told o lines o.registerSize
  | reset : Told o lines o.resetValue
  | content {line data : String} {t : Tag} {v : Value} (member : line ∈ lines)
      (tagged : Tag.ofLine? line = some t) (content : t.content = some data)
      (means : Means data v) : Told o lines v

/-! ## Attributes -/

section

variable {α : Type} {data : String} {put : Value → α → α} {change : α → α} {post : α → Prop}
  {x : α}

theorem textual_means (known : textual data put = .ok change)
    (said : ∀ v, Means data v → post (put v x)) : post (change x) := by
  obtain rfl := textual_eq_ok known
  exact said _ .text

theorem decimal_means (known : decimal data put = .ok change) (before : post x)
    (said : ∀ v, Means data v → post (put v x)) : post (change x) :=
  decimal_fits known before fun _ ⟨_, small, same⟩ => said _ (same ▸ .word small)

theorem hexadecimal_means (known : hexadecimal data put = .ok change) (before : post x)
    (said : ∀ v, Means data v → post (put v x)) : post (change x) :=
  hexadecimal_fits known before fun _ ⟨_, small, same⟩ => said _ (same ▸ .word small)

theorem truth_means (known : truth data put = .ok change) (before : post x)
    (said : ∀ v, Means data v → post (put v x)) : post (change x) :=
  truth_fits known before fun b => said _ (.truth b)

end

section

variable {e : Element} {data : String} {holds : Value → Prop}

theorem holds_getD {v other : Value} (held : holds v) (default : holds other) :
    holds (v.getD other) := by
  unfold Value.getD
  split
  · exact default
  · exact held

theorem deviceAttribute_all {change : Device → Device} {d : Device}
    (known : deviceAttribute e data = .ok change) (said : ∀ v, Means data v → holds v)
    (all : d.OwnAll holds) : (change d).OwnAll holds := by
  unfold deviceAttribute at known
  split at known
  · exact textual_means known fun v means => { all with name := said v means }
  · exact textual_means known fun v means => { all with version := said v means }
  · exact textual_means known fun v means => { all with description := said v means }
  · exact decimal_means known all fun v means => { all with addressUnitBits := said v means }
  · exact decimal_means known all fun v means => { all with maxBitWidth := said v means }
  · exact decimal_means known all fun v means => { all with defaultSize := said v means }
  · exact decimal_means known all fun v means => { all with defaultResetValue := said v means }
  · exact decimal_means known all fun v means => { all with defaultResetMask := said v means }
  · cases known
    exact all

theorem cpuAttribute_all {change : Cpu → Cpu} {c : Cpu} (known : cpuAttribute e data = .ok change)
    (said : ∀ v, Means data v → holds v) (all : c.All holds) : (change c).All holds := by
  unfold cpuAttribute at known
  split at known
  · exact textual_means known fun v means => { all with name := said v means }
  · exact textual_means known fun v means => { all with revision := said v means }
  · exact textual_means known fun v means => { all with endian := said v means }
  · exact truth_means known all fun v means => { all with mpuPresent := said v means }
  · exact truth_means known all fun v means => { all with fpuPresent := said v means }
  · exact decimal_means known all fun v means => { all with nvicPrioBits := said v means }
  · exact truth_means known all fun v means => { all with vendorSystickConfig := said v means }
  · cases known
    exact all

theorem addressBlockAttribute_all {change : AddressBlock → AddressBlock} {b : AddressBlock}
    (known : addressBlockAttribute e data = .ok change) (said : ∀ v, Means data v → holds v)
    (all : b.All holds) : (change b).All holds := by
  unfold addressBlockAttribute at known
  split at known
  · exact hexadecimal_means known all fun v means => { all with offset := said v means }
  · exact hexadecimal_means known all fun v means => { all with size := said v means }
  · exact textual_means known fun v means => { all with usage := said v means }
  · cases known
    exact all

theorem interruptAttribute_all {change : Interrupt → Interrupt} {i : Interrupt}
    (known : interruptAttribute e data = .ok change) (said : ∀ v, Means data v → holds v)
    (all : i.All holds) : (change i).All holds := by
  unfold interruptAttribute at known
  split at known
  · exact textual_means known fun v means => { all with name := said v means }
  · exact textual_means known fun v means => { all with description := said v means }
  · exact decimal_means known all fun v means => { all with vector := said v means }
  · cases known
    exact all

theorem fieldAttribute_all {change : Field → Field} {f : Field}
    (known : fieldAttribute e data = .ok change) (said : ∀ v, Means data v → holds v)
    (all : f.All holds) : (change f).All holds := by
  unfold fieldAttribute at known
  split at known
  · exact textual_means known fun v means => { all with name := said v means }
  · exact textual_means known fun v means => { all with description := said v means }
  · exact decimal_means known all fun v means => { all with bitOffset := said v means }
  · exact decimal_means known all fun v means => { all with bitWidth := said v means }
  · obtain rfl | ⟨a, -, rfl⟩ := right_eq_ok known
    · exact all
    · exact { all with }
  · cases known
    exact all

theorem registerAttribute_all {change : Register → Register} {x : Register}
    (known : registerAttribute e data = .ok change) (said : ∀ v, Means data v → holds v)
    (all : x.All holds) : (change x).All holds := by
  unfold registerAttribute at known
  split at known
  · exact textual_means known fun v means => { all with name := said v means }
  · exact textual_means known fun v means => { all with displayName := said v means }
  · exact textual_means known fun v means => { all with description := said v means }
  · exact hexadecimal_means known all fun v means => { all with addressOffset := said v means }
  · exact hexadecimal_means known all fun v means => { all with size := said v means }
  · exact hexadecimal_means known all fun v means => { all with resetValue := said v means }
  · obtain rfl | ⟨a, -, rfl⟩ := right_eq_ok known
    · exact all
    · exact { all with }
  · cases known
    exact all

theorem all_inPeripheral {name : Value} {x : Register} (held : holds name) (all : x.All holds) :
    (x.inPeripheral name).All holds := by
  refine { all with peripheralName := held, fields := fun f member => ?_ }
  obtain ⟨g, old, rfl⟩ := List.mem_map.mp member
  exact { all.fields g old with peripheralName := held }

theorem peripheralAttribute_all {change : Peripheral → Peripheral} {p : Peripheral}
    (known : peripheralAttribute e data = .ok change) (said : ∀ v, Means data v → holds v)
    (all : p.All holds) : (change p).All holds := by
  unfold peripheralAttribute at known
  split at known
  · refine textual_means known fun v means =>
      { all with name := said v means, registers := fun x member => ?_ }
    obtain ⟨y, old, rfl⟩ := List.mem_map.mp member
    exact all_inPeripheral (said v means) (all.registers y old)
  · exact textual_means known fun v means => { all with description := said v means }
  · exact textual_means known fun v means => { all with groupName := said v means }
  · exact hexadecimal_means known all fun v means => { all with baseAddress := said v means }
  · cases known
    exact all

end

namespace Reader

/-- Every value of the model, and of the interrupt that is being described. -/
structure All (holds : Value → Prop) (r : Reader) : Prop where
  device : r.device.All holds
  pending : ∀ i, r.interrupt = some i → i.All holds

/-- The predicate holds of all that a tag can put into a model. -/
structure Allows (o : Settings) (t : Tag) (holds : Value → Prop) : Prop where
  unset : holds .null
  empty : holds (.text [])
  size : holds o.registerSize
  reset : holds o.resetValue
  content : ∀ data, t.content = some data → ∀ v, Means data v → holds v

/-! ## Tags -/

section

variable {o : Settings} {r next : Reader} {t : Tag} {notices : List Notice} {holds : Value → Prop}

theorem Allows.tells (allows : Allows o t holds) {e : Element} {data : String}
    (tells : t.Tells e data) : ∀ v, Means data v → holds v :=
  allows.content data tells.2

theorem Allows.interrupt (allows : Allows o t holds) : Interrupt.All holds {} :=
  ⟨allows.empty, allows.empty, allows.unset⟩

theorem Allows.peripheral (allows : Allows o t holds) : Peripheral.All holds {} :=
  ⟨allows.empty, allows.empty, allows.empty, allows.unset, nofun, nofun⟩

theorem Allows.cpu (allows : Allows o t holds) : Cpu.All holds {} :=
  ⟨allows.empty, allows.empty, allows.empty, allows.unset, allows.unset, allows.unset,
    allows.unset⟩

theorem Allows.newRegister (allows : Allows o t holds) {d : Device} {p : Peripheral}
    (own : d.OwnAll holds) (named : holds p.name) : (newRegister o d p).All holds where
  peripheralName := named
  name := allows.empty
  displayName := allows.empty
  description := allows.empty
  addressOffset := allows.unset
  size := holds_getD own.defaultSize allows.size
  resetValue := holds_getD own.defaultResetValue allows.reset
  fields := nofun

theorem Allows.newField (allows : Allows o t holds) {p : Peripheral} {x : Register}
    (owner : holds p.name) (register : holds x.name) : (newField p x).All holds :=
  ⟨owner, register, allows.empty, allows.empty, allows.unset, allows.unset⟩

theorem Touch.all {f : Peripheral → Peripheral} {p : Peripheral} (touch : Touch o r t f)
    (allows : Allows o t holds) (own : r.device.OwnAll holds) (all : p.All holds) :
    (f p).All holds := by
  cases touch with
  | described _ tells known => exact peripheralAttribute_all known (allows.tells tells) all
  | blockBegun =>
    refine { all with addressBlock := ?_ }
    rintro b ⟨⟩
    exact ⟨allows.unset, allows.unset, allows.empty⟩
  | blockDescribed _ tells known =>
    refine { all with addressBlock := fun b has => ?_ }
    obtain ⟨c, old, rfl⟩ := Option.map_eq_some_iff.mp has
    exact addressBlockAttribute_all known (allows.tells tells) (all.addressBlock c old)
  | registerBegun =>
    have added := allows.newRegister own all.name
    exact { all with registers := forall_mem_concat all.registers added }
  | registerDescribed _ tells known =>
    refine { all with registers := ?_ }
    exact forall_changeLast (fun x _ => registerAttribute_all known (allows.tells tells))
      all.registers
  | fieldBegun =>
    refine { all with registers := forall_changeLast (fun x _ held => ?_) all.registers }
    have added := allows.newField all.name held.name
    exact { held with fields := forall_mem_concat held.fields added }
  | fieldDescribed _ _ tells known =>
    refine { all with registers := forall_changeLast (fun x _ held => ?_) all.registers }
    exact { held with
      fields :=
        forall_changeLast (fun f _ => fieldAttribute_all known (allows.tells tells)) held.fields }

theorem Effect.ownAll (effect : Effect o r t next notices) (allows : Allows o t holds)
    (own : r.device.OwnAll holds) : next.device.OwnAll holds := by
  cases effect with
  | deviceDescribed _ tells known => exact deviceAttribute_all known (allows.tells tells) own
  | cpuOpened =>
    refine { own with cpu := ?_ }
    rintro c ⟨⟩
    exact allows.cpu
  | cpuDescribed _ tells known =>
    refine { own with cpu := fun c has => ?_ }
    obtain ⟨b, old, rfl⟩ := Option.map_eq_some_iff.mp has
    exact cpuAttribute_all known (allows.tells tells) (own.cpu b old)
  | @interruptClosed i =>
    obtain ⟨entries, added⟩ := r.device.addInterrupt_eq i
    rw [added]
    exact { own with }
  | _ => exact { own with }

theorem Effect.pendingAll (effect : Effect o r t next notices) (allows : Allows o t holds)
    (pending : ∀ i, r.interrupt = some i → i.All holds) :
    ∀ i, next.interrupt = some i → i.All holds := by
  cases effect with
  | interruptOpened =>
    rintro i ⟨⟩
    exact allows.interrupt
  | interruptClosed => nofun
  | interruptDescribed _ tells known =>
    intro i has
    obtain ⟨j, old, rfl⟩ := Option.map_eq_some_iff.mp has
    exact interruptAttribute_all known (allows.tells tells) (pending j old)
  | _ => exact pending

theorem Effect.all (effect : Effect o r t next notices) (allows : Allows o t holds)
    (before : r.All holds) : next.All holds := by
  obtain ⟨⟨own, peripherals, interrupts⟩, pending⟩ := before
  refine ⟨⟨effect.ownAll allows own, ?_, ?_⟩, effect.pendingAll allows pending⟩
  · exact effect.forall_peripherals allows.peripheral
      (fun f p touch _ held => touch.all allows own held) peripherals
  · obtain same | ⟨i, -, -, closed, -, stored⟩ := effect.interrupts
    · rw [same]
      exact interrupts
    · rw [stored]
      refine forall_mem_concat interrupts ?_
      rw [closed]
      cases described : r.interrupt with
      | none => exact allows.interrupt
      | some i => exact pending i described

end

/-! ## Runs -/

section

variable {o : Settings} {r : Reader} {all : List String} {holds : Value → Prop}

theorem allows_of_told (each : ∀ v, Told o all v → holds v) {line : String} {t : Tag}
    (member : line ∈ all) (tagged : Tag.ofLine? line = some t) : Allows o t holds :=
  ⟨each _ .unset, each _ .empty, each _ .size, each _ .reset,
    fun _ content _ means => each _ (.content member tagged content means)⟩

theorem all_feed (each : ∀ v, Told o all v → holds v) {line : String} (member : line ∈ all)
    (before : r.All holds) : (r.feed o line).reader.All holds := by
  have counted : ∀ n, ({ r with line := n } : Reader).All holds :=
    fun _ => ⟨before.device, before.pending⟩
  refine feed_cases (motive := fun step => step.reader.All holds) line
    (fun _ => counted _) ?_ (fun _ _ _ _ => counted _)
  intro t next notices tagged ok
  exact (effect_of_read ok).all (allows_of_told each member tagged) (counted _)

theorem all_run (each : ∀ v, Told o all v → holds v) {lines : List String}
    (among : ∀ line ∈ lines, line ∈ all) (before : r.All holds) : (fed o r lines).All holds := by
  induction lines generalizing r with
  | nil => exact before
  | cons line rest ih =>
    obtain ⟨member, others⟩ := List.forall_mem_cons.mp among
    exact ih others (all_feed each member before)

theorem all_start (each : ∀ v, Told o all v → holds v) : ({} : Reader).All holds where
  device.own := by
    have unset := each _ .unset
    have empty := each _ .empty
    exact ⟨empty, empty, empty, unset, unset, unset, unset, unset, nofun⟩
  device.peripherals _ member := absurd member List.not_mem_nil
  device.interrupts _ member := absurd member List.not_mem_nil
  pending _ has := absurd has nofun

end

end Reader

/-- A model that was read holds nothing but what the lines or the settings tell, so that it has each
property which all of that has. -/
theorem all_read {o : Settings} {lines : List String} {holds : Value → Prop}
    (each : ∀ v, Told o lines v → holds v) : (read o lines).device.All holds := by
  obtain ⟨taken, within, same⟩ := read_reader o lines
  unfold Reading.device
  rw [same]
  exact (Reader.all_run each (fun _ member => within.subset member) (Reader.all_start each)).device

end Document

end RegisterMap
