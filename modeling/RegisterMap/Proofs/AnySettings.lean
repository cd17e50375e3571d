import RegisterMap.Proofs.Defaults
import RegisterMap.Proofs.Rendering
import RegisterMap.Proofs.Zig.Sections

/-!
Values that fit under any settings. A setting may be a value of any kind, and it reaches nothing but
the sizes and the reset values of registers. So in every reachable model all other attributes fit,
and such a size or reset value is a word or the setting itself. Rendering can fail for nothing but a
reset value, and does not if the setting is a whole number.
-/

set_option autoImplicit false

namespace RegisterMap

open Document (Settings)

structure Register.FitsUnder (o : Settings) (x : Register) : Prop where
  name : x.name.IsText
  addressOffset : x.addressOffset.MaybeWord
  resetValue : x.resetValue.IsWord ∨ x.resetValue = o.resetValue
  fields : ∀ f ∈ x.fields, f.Fits

structure Peripheral.FitsUnder (o : Settings) (p : Peripheral) : Prop where
  name : p.name.IsText
  baseAddress : p.baseAddress.MaybeWord
  registers : ∀ x ∈ p.registers, x.FitsUnder o

structure Device.FitsUnder (o : Settings) (d : Device) : Prop where
  own : d.OwnFits
  peripherals : ∀ p ∈ d.peripherals, p.FitsUnder o
  interrupts : Interrupt.Stored d.interrupts

section

variable {o : Settings} {d e : Device}

theorem Register.FitsUnder.of_counterpart {x y : Register} (fits : x.Fits)
    (held : x.Counterpart (Document.Reader.settingsContrast {} o) y) : y.FitsUnder o := by
  obtain ⟨-, reset⟩ := held
  refine ⟨fits.name, fits.addressOffset, ?_, fits.fields⟩
  rcases reset with rfl | ⟨-, setting⟩
  · exact .inl fits.resetValue
  · exact .inr setting

theorem Peripheral.FitsUnder.of_counterpart {p q : Peripheral} (fits : p.Fits)
    (held : p.Counterpart (Document.Reader.settingsContrast {} o) q) : q.FitsUnder o := by
  obtain ⟨each⟩ := held
  refine ⟨fits.name, fits.baseAddress, fun y member => ?_⟩
  obtain ⟨x, listed, held⟩ := exists_of_forall₂ each member
  exact .of_counterpart (fits.registers x listed) held

end

namespace Document.Reader

/-- A model under any settings is one whose values fit, with other sizes and reset values where they
come from the settings. -/
theorem counterpart_fed (o : Settings) (lines : List String) :
    ∃ (plain : Device) (peripherals : List Peripheral), plain.Fits ∧
      List.Forall₂ (Peripheral.Counterpart (settingsContrast {} o)) plain.peripherals peripherals ∧
      (fed o {} lines).device = { plain with peripherals := peripherals } := by
  have fits : (fed {} {} lines).Fits := fits_fed ⟨⟨32, by decide, rfl⟩, ⟨0, by decide, rfl⟩⟩ lines
  have held : (fed {} {} lines).Counterpart (settingsContrast {} o) (fed o {} lines) :=
    (run_alongside (counterpart_start ⟨rfl, rfl⟩ ⟨rfl, rfl⟩)
      fun _ _ _ _ _ _ held => agrees_settings held).1
  generalize fed o {} lines = s at held ⊢
  obtain ⟨peripherals, each, -, interrupts, -, -⟩ := held
  dsimp only [settingsContrast, List.nil_append] at peripherals interrupts ⊢
  rw [← peripherals] at each
  exact ⟨_, _, fits.device, each, by rw [interrupts]⟩

theorem fitsUnder_fed (o : Settings) (lines : List String) :
    (fed o {} lines).device.FitsUnder o := by
  obtain ⟨plain, peripherals, fits, each, same⟩ := counterpart_fed o lines
  rw [same]
  refine ⟨{ fits.own with }, fun q member => ?_, fits.interrupts⟩
  obtain ⟨p, listed, held⟩ := exists_of_forall₂ each member
  exact .of_counterpart (fits.peripherals p listed) held

end Document.Reader

theorem Document.fitsUnder_read (o : Settings) (lines : List String) :
    (read o lines).device.FitsUnder o := by
  obtain ⟨taken, -, same⟩ := read_reader o lines
  unfold Reading.device
  rw [same]
  exact Reader.fitsUnder_fed o taken

/-! ## Rendering -/

section

variable {o : Settings} {n : Int}

namespace Zig

theorem gives_resetForm {v : Value} (whole : o.resetValue.whole? = some n)
    (fits : v.IsWord ∨ v = o.resetValue) : Gives (fun _ => True) v.hexForm := by
  rcases fits with word | rfl
  · obtain ⟨reset, -, made⟩ := gives_hexForm word
    exact ⟨reset, trivial, made⟩
  · unfold Value.hexForm
    rw [whole]
    exact gives_pure trivial

theorem gives_any_ofRegister (whole : o.resetValue.whole? = some n) (base : Int) {x : Register}
    (fits : x.FitsUnder o) : Gives (fun _ => True) (ofRegister base x) := by
  unfold ofRegister
  split
  case isTrue complete =>
    simp only [Register.isComplete, Bool.and_eq_true, Bool.not_eq_true'] at complete
    have placed := gives_hexForm (fits.addressOffset.isWord complete.2)
    refine (Register.gives_writeMask fits.fields).bind fun mask _ => ?_
    refine (Register.gives_effectiveAccess fits.fields).bind fun access _ => ?_
    refine placed.lift.bind fun offset _ => ?_
    refine (gives_resetForm whole fits.resetValue).lift.bind fun reset _ => ?_
    exact (gives_mapM fun f member => gives_ofField (fits.fields f member)).bind
      fun _ _ => gives_pure trivial
  · exact gives_pure trivial

theorem gives_any_ofPeripheral (whole : o.resetValue.whole? = some n) {p : Peripheral}
    (fits : p.FitsUnder o) : Gives (fun _ => True) (ofPeripheral p) := by
  unfold ofPeripheral
  split
  case isTrue complete =>
    simp only [Peripheral.isComplete, Bool.and_eq_true, Bool.not_eq_true'] at complete
    refine (gives_hexForm (fits.baseAddress.isWord complete.2)).lift.bind fun base _ => ?_
    have registers : ∀ x ∈ p.registers, Gives (fun _ => True) (ofRegister base x) :=
      fun x member => gives_any_ofRegister whole base (fits.registers x member)
    exact (gives_mapM registers).bind fun _ _ => gives_pure trivial
  · exact gives_pure trivial

theorem gives_any_ofDevice (whole : o.resetValue.whole? = some n) {d : Device}
    (fits : d.FitsUnder o) (s : Selection) : Gives (fun _ => True) (ofDevice d s) := by
  unfold ofDevice
  refine (gives_dataSections fits.own).lift.bind fun _ _ => ?_
  have selected : ∀ p ∈ d.peripherals.filter s.includes,
      Gives (fun _ => True) (ofPeripheral p) :=
    fun p member => gives_any_ofPeripheral whole (fits.peripherals p (List.mem_filter.mp member).1)
  refine (gives_mapM selected).bind fun _ _ => ?_
  exact (gives_interruptTable fits.interrupts).lift.bind fun _ _ => gives_pure trivial

/-- No model that was read with a whole number as the reset value fails to be rendered. -/
theorem rendered_of_whole (whole : o.resetValue.whole? = some n) {d : Device}
    (fits : d.FitsUnder o) (names : Option (List Text)) (masks : Masks) :
    ∃ lines, (renderKnowing masks d (.ofTexts names)).1.result = .ok lines := by
  obtain ⟨declarations, -, made⟩ := gives_any_ofDevice whole fits (.ofTexts names)
  have named : ∀ p ∈ d.peripherals, p.name.IsText :=
    fun p listed => (fits.peripherals p listed).name
  obtain ⟨_, -, checked⟩ := Selection.gives_check named names
  refine ⟨declarations.flatMap Declaration.lines, ?_⟩
  simp only [renderKnowing, checked, made]
  rfl

end Zig

end

end RegisterMap
