import RegisterMap.Device.Edit
import RegisterMap.Proofs.Reader.SideBySide

/-!
Defaults of registers. A register begins with the size and the reset value that the device declares,
or else with those of the settings. The settings are used for nothing else: under others a document
is read with the same notices and faults and into the same model, apart from registers that have
kept a setting. None has if the device declares both values before its first register.
-/

set_option autoImplicit false

namespace RegisterMap

/-! ## Models without the values that settings can give -/

def Register.withoutDefaults (x : Register) : Register :=
  { x with size := .null, resetValue := .null }

def Peripheral.withoutDefaults (p : Peripheral) : Peripheral :=
  { p with registers := p.registers.map Register.withoutDefaults }

def Device.withoutDefaults (d : Device) : Device :=
  { d with peripherals := d.peripherals.map Peripheral.withoutDefaults }

namespace Document

/-- The values that a device can declare for all of its registers. -/
inductive Default
  | size
  | resetValue

namespace Default

def element : Default → Element
  | .size => .size
  | .resetValue => .resetValue

def ofDevice : Default → Device → Value
  | .size => Device.defaultSize
  | .resetValue => Device.defaultResetValue

end Default

namespace Reader

/-- The line declares a default of the device with a numeral that denotes a word. -/
def Accepts (r : Reader) (k : Default) (line : String) : Prop :=
  r.place = .device ∧ ∃ (t : Tag) (data : String) (n : Nat), Tag.ofLine? line = some t ∧
    t.Tells k.element data ∧ Numeral.decimal? data.toList = .ok (some n)

/-- One of the lines declares a default of the device. -/
def Declares (o : Settings) (lines : List String) (k : Default) : Prop :=
  ∃ before line after, lines = before ++ line :: after ∧ (fed o {} before).Accepts k line

/-- Before every line that begins a register, the device has declared both defaults. -/
def DeclaresFirst (o : Settings) (lines : List String) : Prop :=
  ∀ before line after, lines = before ++ line :: after → Smooth o {} before →
    (fed o {} before).place = .registers →
    ((fed o {} before).feed o line).reader.place = .register → ∀ k, Declares o before k

section

variable {o : Settings} {r next : Reader} {t : Tag} {notices : List Notice}

theorem deviceAttribute_declared {e : Element} {data : String} {change : Device → Device}
    (known : deviceAttribute e data = .ok change) {k : Default} {d : Device}
    (declared : (k.ofDevice d).isNull = false) : (k.ofDevice (change d)).isNull = false := by
  unfold deviceAttribute at known
  split at known
  case h_9 => cases known; exact declared
  case h_1 | h_2 | h_3 => obtain rfl := textual_eq_ok known; cases k <;> exact declared
  case h_6 =>
    obtain rfl | ⟨n, -, rfl⟩ := decimal_eq_ok known
    · exact declared
    · cases k with
      | size => rfl
      | resetValue => exact declared
  case h_7 =>
    obtain rfl | ⟨n, -, rfl⟩ := decimal_eq_ok known
    · exact declared
    · cases k with
      | size => exact declared
      | resetValue => rfl
  all_goals obtain rfl | ⟨n, -, rfl⟩ := decimal_eq_ok known <;> cases k <;> exact declared

/-- A default stays declared. -/
theorem Effect.declared (effect : Effect o r t next notices) {k : Default}
    (declared : (k.ofDevice r.device).isNull = false) :
    (k.ofDevice next.device).isNull = false := by
  cases effect with
  | deviceDescribed _ _ known => exact deviceAttribute_declared known declared
  | @interruptClosed i =>
    obtain ⟨entries, added⟩ := r.device.addInterrupt_eq i
    rw [added]
    cases k <;> exact declared
  | _ => cases k <;> exact declared

theorem declared_feed {k : Default} (line : String)
    (declared : (k.ofDevice r.device).isNull = false) :
    (k.ofDevice (r.feed o line).reader.device).isNull = false :=
  feed_keeps (fun _ held => held) (fun _ _ _ _ held ok => (effect_of_read ok).declared held) line
    declared

theorem declared_of_accepts {k : Default} {line : String} (accepts : r.Accepts k line) :
    (k.ofDevice (r.feed o line).reader.device).isNull = false := by
  obtain ⟨here, t, data, n, tagged, ⟨mark, content⟩, number⟩ := accepts
  rw [feed_of_tag tagged]
  cases k with
  | size | resetValue =>
    simp only [read, here, inDevice, mark, Default.element, describe, content, deviceAttribute,
      decimal, number]
    rfl

theorem declared_fed {k : Default} {lines : List String} (declares : Declares o lines k) :
    (k.ofDevice (fed o {} lines).device).isNull = false := by
  obtain ⟨before, line, after, rfl, accepts⟩ := declares
  rw [fed_append, fed_cons]
  have kept : ∀ (r : Reader) (line : String), (k.ofDevice r.device).isNull = false →
      (k.ofDevice (r.feed o line).reader.device).isNull = false :=
    fun _ line held => declared_feed line held
  exact fed_induction o _ kept (declared_of_accepts accepts) after

/-- The line begins a register, as the base address of its peripheral is known. -/
theorem feed_register {line : String} {p : Peripheral} (here : r.place = .registers)
    (tagged : Tag.ofLine? line = some t) (mark : t.mark = .opening .register)
    (current : r.peripheral? = some p) (based : p.baseAddress.isNull = false) :
    (r.feed o line).reader.place = .register := by
  rw [peripheral?] at current
  rw [feed_of_tag tagged, read, here]
  simp only [inRegisters, mark, peripheral?, current, openRegister, based]
  rfl

end

/-! ## Readings under different settings -/

section

variable (o u : Settings)

/-- Registers may differ in values that both have from the settings. -/
def settingsContrast : Contrast where
  size v w := w = v ∨ v = o.registerSize ∧ w = u.registerSize
  resetValue v w := w = v ∨ v = o.resetValue ∧ w = u.resetValue
  size_refl _ := .inl rfl
  resetValue_refl _ := .inl rfl
  earlier := []
  otherEarlier := []
  stored := []
  otherStored := []

theorem counterpart_start {c : Contrast} (earlier : c.earlier = [] ∧ c.otherEarlier = [])
    (stored : c.stored = [] ∧ c.otherStored = []) : Reader.Counterpart c {} {} := by
  have start : Reader.Counterpart c {}
      { device := { peripherals := c.otherEarlier ++ [], interrupts := c.otherStored ++ [] } } := by
    refine .intro ?_ .nil nofun ?_ (fun _ => rfl) fun _ => rfl
    · rw [earlier.1]; rfl
    · rw [stored.1]; rfl
  rw [earlier.2, stored.2] at start
  exact start

variable {o u} {r s : Reader} {t : Tag}

theorem agrees_settings (held : r.Counterpart (settingsContrast o u) s) :
    Agrees (settingsContrast o u) o u r s t where
  derived _ _ := .inr rfl
  admitted _ _ := admits_of_stored held rfl _
  begun _ _ _ _ _ := by
    constructor
    · cases r.device.defaultSize with
      | null => exact .inr ⟨rfl, rfl⟩
      | _ => exact .inl rfl
    · cases r.device.defaultResetValue with
      | null => exact .inr ⟨rfl, rfl⟩
      | _ => exact .inl rfl

theorem read_settings (o u : Settings) (lines : List String) :
    Reading.Counterpart (settingsContrast o u) (Document.read o lines)
      (Document.read u lines) :=
  Reading.read_alongside (counterpart_start ⟨rfl, rfl⟩ ⟨rfl, rfl⟩) rfl rfl
    fun _ _ _ _ _ _ _ held => agrees_settings held

/-- Where the defaults are declared first, none comes from the settings. -/
theorem read_declared {lines : List String} (declares : DeclaresFirst o lines) :
    Reading.Counterpart (.exact [] [] [] []) (Document.read o lines) (Document.read u lines) := by
  refine Reading.read_alongside (counterpart_start ⟨rfl, rfl⟩ ⟨rfl, rfl⟩) rfl rfl ?_
  intro before line after t split smooth tagged held
  refine ⟨fun _ _ => .inr rfl, fun _ _ => admits_of_stored held rfl _, ?_⟩
  intro p here mark current based
  have begins := feed_register (o := o) here tagged mark current based
  have declared := fun k => declared_fed (declares before line after split smooth here begins k)
  have size := declared .size
  have reset := declared .resetValue
  dsimp only [Default.ofDevice] at size reset
  unfold Value.getD
  rw [size, reset]
  exact ⟨rfl, rfl⟩

end

end Reader

/-- A register under two settings: its values are the same, or both are from the settings. -/
structure Defaulted (o u : Settings) (x y : Register) : Prop where
  size : y.size = x.size ∨ x.size = o.registerSize ∧ y.size = u.registerSize
  resetValue : y.resetValue = x.resetValue ∨
    x.resetValue = o.resetValue ∧ y.resetValue = u.resetValue

section

variable {o u : Settings} {p q : Peripheral}

theorem withoutDefaults_counterpart (held : p.Counterpart (Reader.settingsContrast o u) q) :
    q.withoutDefaults = p.withoutDefaults := by
  obtain ⟨each⟩ := held
  have registers : ∀ x y : Register, x.Counterpart (Reader.settingsContrast o u) y →
      y.withoutDefaults = x.withoutDefaults := by
    rintro x _ ⟨-, -⟩
    rfl
  unfold Peripheral.withoutDefaults
  rw [map_eq_of_forall₂ each registers]

/-- The models of two settings, position by position. -/
theorem device_settings {r s : Reader} (held : r.Counterpart (Reader.settingsContrast o u) s) :
    s.device.withoutDefaults = r.device.withoutDefaults ∧
      ∀ i j x, r.device.register? i j = some x →
        ∃ y, s.device.register? i j = some y ∧ Defaulted o u x y := by
  obtain ⟨peripherals, each, -, interrupts, -, -⟩ := held
  dsimp only [Reader.settingsContrast, List.nil_append] at peripherals interrupts ⊢
  rw [← peripherals] at each
  constructor
  · unfold Device.withoutDefaults
    rw [map_eq_of_forall₂ each fun p q => withoutDefaults_counterpart, interrupts]
  · intro i j x found
    obtain ⟨p, place, found⟩ := Option.bind_eq_some_iff.mp found
    obtain ⟨_, other, ⟨registers⟩⟩ := forall₂_getElem? each place
    obtain ⟨y, known, defaulted⟩ := forall₂_getElem? registers found
    refine ⟨y, ?_, ?_⟩
    · rw [Device.register?, Device.peripheral?, other]
      exact known
    · obtain ⟨sized, reset⟩ := defaulted
      exact ⟨sized, reset⟩

/-- The settings do not reach beyond the sizes and the reset values of registers, and where the
device has declared both before its first register they do not reach the model at all. -/
theorem settings_reach_defaults_only (o u : Settings) (lines : List String) :
    (read u lines).fault = (read o lines).fault ∧ (read u lines).notices = (read o lines).notices ∧
      (read u lines).device.withoutDefaults = (read o lines).device.withoutDefaults ∧
      (∀ i j x, (read o lines).device.register? i j = some x →
        ∃ y, (read u lines).device.register? i j = some y ∧ Defaulted o u x y) ∧
      (Reader.DeclaresFirst o lines → (read u lines).device = (read o lines).device) := by
  obtain ⟨reader, notices, fault⟩ := Reader.read_settings o u lines
  obtain ⟨erased, registers⟩ := device_settings reader
  refine ⟨fault, notices, erased, registers, fun declares => ?_⟩
  obtain ⟨held, -, -⟩ := Reader.read_declared (u := u) declares
  obtain ⟨later, entries, peripherals, interrupts, same⟩ := held.device_exact
  rw [Reading.device, Reading.device, same, List.nil_append, List.nil_append]
  rw [List.nil_append] at peripherals interrupts
  rw [← peripherals, ← interrupts]

end

/-- Both defaults are declared, and then a register begins. -/
def declaredRegister : List String :=
  ["<size>16</size>", "<resetValue>5</resetValue>", "<peripherals>", "<peripheral>",
    "<baseAddress>0x40</baseAddress>", "<registers>", "<register>"]

theorem declaresFirst_declaredRegister : Reader.DeclaresFirst {} declaredRegister := by
  have size : (Reader.fed {} {} []).Accepts .size "<size>16</size>" :=
    ⟨rfl, { name := "size", content := some "16" }, "16", 16, by decide +kernel,
      ⟨by decide +kernel, rfl⟩, by decide⟩
  have reset : (Reader.fed {} {} ["<size>16</size>"]).Accepts .resetValue
      "<resetValue>5</resetValue>" :=
    ⟨by decide +kernel, { name := "resetValue", content := some "5" }, "5", 5, by decide +kernel,
      ⟨by decide +kernel, rfl⟩, by decide⟩
  intro before line after split _ here _ k
  cases before with
  | nil => exact absurd here (by decide)
  | cons first rest =>
    obtain ⟨rfl, behind⟩ := List.cons.inj split
    cases rest with
    | nil => exact absurd here (by decide +kernel)
    | cons second more =>
      obtain ⟨rfl, -⟩ := List.cons.inj behind
      cases k with
      | size => exact ⟨[], _, _, rfl, size⟩
      | resetValue => exact ⟨["<size>16</size>"], _, _, rfl, reset⟩

theorem settings_reach_defaults_only_declared :
    let u : Settings := { registerSize := .int 8, resetValue := .int 3 }
    Reader.DeclaresFirst {} declaredRegister ∧
      (read {} declaredRegister).device.register? 0 0 =
        some { size := .int 16, resetValue := .int 5 } ∧
      (read u declaredRegister).device = (read {} declaredRegister).device := by
  intro u
  have declares := declaresFirst_declaredRegister
  have only := settings_reach_defaults_only {} u declaredRegister
  exact ⟨declares, by decide +kernel, only.2.2.2.2 declares⟩

end Document

end RegisterMap
