import RegisterMap.Proofs.AnySettings
import RegisterMap.Proofs.Names
import RegisterMap.Proofs.Zig.Sections

/-!
Base addresses. A register can only begin where the base address of its peripheral is known, and
neither a base address nor an address block that is set is ever unset again. So in every reachable
model a peripheral with registers has a base address, wherever its registers came from, and if it is
rendered under a name, then its base address and the places of its registers are there.
-/

set_option autoImplicit false

namespace RegisterMap

/-- A peripheral with registers has a base address. -/
def Peripheral.Based (p : Peripheral) : Prop := p.registers ≠ [] → p.baseAddress.isNull = false

/-- What is set in the one is set in the other. -/
structure Peripheral.StaysSet (p q : Peripheral) : Prop where
  baseAddress : p.baseAddress.isNull = false → q.baseAddress.isNull = false
  addressBlock : p.addressBlock ≠ none → q.addressBlock ≠ none

namespace Peripheral.StaysSet

variable {p q s : Peripheral}

theorem refl (p : Peripheral) : p.StaysSet p := ⟨id, id⟩

theorem trans (first : p.StaysSet q) (second : q.StaysSet s) : p.StaysSet s :=
  ⟨second.baseAddress ∘ first.baseAddress, second.addressBlock ∘ first.addressBlock⟩

end Peripheral.StaysSet

namespace Document

theorem peripheralAttribute_staysSet {e : Element} {data : String}
    {change : Peripheral → Peripheral} (known : peripheralAttribute e data = .ok change)
    (p : Peripheral) : p.StaysSet (change p) := by
  have block := peripheralAttribute_addressBlock known p
  refine ⟨fun set => ?_, fun set => block ▸ set⟩
  unfold peripheralAttribute at known
  split at known
  case h_5 =>
    cases known
    exact set
  case h_4 =>
    obtain rfl | ⟨n, -, rfl⟩ := hexadecimal_eq_ok known
    · exact set
    · rfl
  all_goals
    obtain rfl := textual_eq_ok known
    exact set

namespace Reader

section

variable {o : Settings} {r next : Reader} {t : Tag} {notices : List Notice}

/-! ## One tag -/

theorem Touch.staysSet {f : Peripheral → Peripheral} (touch : Touch o r t f) (p : Peripheral) :
    p.StaysSet (f p) := by
  cases touch with
  | described _ _ known => exact peripheralAttribute_staysSet known p
  | blockBegun => exact ⟨id, fun _ => nofun⟩
  | blockDescribed => exact ⟨id, fun set none => set (Option.map_eq_none_iff.mp none)⟩
  | registerBegun | registerDescribed | fieldBegun | fieldDescribed => exact ⟨id, id⟩

/-- A peripheral has no register before it has a base address. -/
theorem Touch.registers_of_base {f : Peripheral → Peripheral} {p : Peripheral}
    (touch : Touch o r t f) (current : r.peripheral? = some p) (none : p.registers = [])
    (unset : p.baseAddress.isNull = true) : (f p).registers = [] := by
  cases touch with
  | described _ _ known =>
    obtain ⟨-, rfl⟩ | kept := peripheralAttribute_cases known
    · exact List.map_eq_nil_iff.mpr none
    · exact (kept p).2.1.trans none
  | blockBegun | blockDescribed => exact none
  | registerBegun _ _ owner based =>
    cases current.symm.trans owner
    exact absurd (unset.symm.trans based) nofun
  | registerDescribed | fieldBegun | fieldDescribed =>
    rw [changeRegister_registers, none]
    rfl

theorem Touch.based {f : Peripheral → Peripheral} {p : Peripheral} (touch : Touch o r t f)
    (current : r.peripheral? = some p) (before : p.Based) : (f p).Based := by
  intro some
  apply (touch.staysSet p).baseAddress
  by_cases none : p.registers = []
  · apply eq_false_of_ne_true
    intro unset
    exact some (touch.registers_of_base current none unset)
  · exact before none

/-- A tag leaves every peripheral in its position, with all that was set in it. -/
theorem Effect.staysSet (effect : Effect o r t next notices) {i : Nat} {p : Peripheral}
    (known : r.device.peripheral? i = some p) :
    ∃ q, next.device.peripheral? i = some q ∧ p.StaysSet q := by
  unfold Device.peripheral? at known ⊢
  obtain same | ⟨q, -, -, -, same⟩ | ⟨f, touch, same⟩ := effect.peripherals
  · rw [same]
    exact ⟨p, known, .refl p⟩
  · rw [same, List.getElem?_append_left (List.getElem?_eq_some_iff.mp known).1]
    exact ⟨p, known, .refl p⟩
  · rw [same, getElem?_changeLast, known]
    split
    · exact ⟨f p, rfl, touch.staysSet p⟩
    · exact ⟨p, rfl, .refl p⟩

end

/-! ## Runs -/

section

variable {o : Settings} {r : Reader}

theorem based_fed (o : Settings) (lines : List String) :
    ∀ p ∈ (fed o {} lines).device.peripherals, p.Based :=
  fed_induction o {} (motive := fun r => ∀ p ∈ r.device.peripherals, p.Based)
    (fun _ line held => feed_keeps (motive := fun r => ∀ p ∈ r.device.peripherals, p.Based)
      (fun _ held => held)
      (fun _ _ _ _ held ok => (effect_of_read ok).forall_peripherals
        (fun some => absurd rfl some) (fun _ _ touch current => touch.based current) held)
      line held)
    nofun lines

theorem staysSet_feed (line : String) {i : Nat} {p : Peripheral}
    (known : r.device.peripheral? i = some p) :
    ∃ q, (r.feed o line).reader.device.peripheral? i = some q ∧ p.StaysSet q := by
  refine feed_cases
    (motive := fun step => ∃ q, step.reader.device.peripheral? i = some q ∧ p.StaysSet q)
    line (fun _ => ⟨p, known, .refl p⟩) ?_ (fun _ _ _ _ => ⟨p, known, .refl p⟩)
  intro t next notices _ ok
  exact (effect_of_read ok).staysSet known

theorem staysSet_fed (lines : List String) {i : Nat} {p : Peripheral}
    (known : r.device.peripheral? i = some p) :
    ∃ q, (fed o r lines).device.peripheral? i = some q ∧ p.StaysSet q := by
  induction lines generalizing r p with
  | nil => exact ⟨p, known, .refl p⟩
  | cons line rest ih =>
    obtain ⟨q, after, first⟩ := staysSet_feed (o := o) line known
    obtain ⟨s, last, second⟩ := ih after
    exact ⟨s, last, first.trans second⟩

end

end Reader

end Document

/-! ## Rendering -/

theorem Value.IsText.isNothing_iff {v : Value} (text : v.IsText) :
    v.isNothing = true ↔ v = .text [] := by
  obtain ⟨s, rfl⟩ := text
  cases s with
  | nil => exact ⟨fun _ => rfl, fun _ => rfl⟩
  | cons p s => exact ⟨nofun, nofun⟩

theorem hexForm_eq_ok {v : Value} {n : Int} (fits : v.MaybeWord) (ok : v.hexForm = .ok n) :
    v = .int n := by
  obtain rfl | ⟨m, -, rfl⟩ := fits
  · cases ok
  · cases ok
    rfl

namespace Zig

/-- The section of a register that has a name and an address offset: its address and its reset value
stand in front, under its name and that of its peripheral. -/
def Placed (p : Peripheral) (base : Int) (x : Register) (part : List Declaration) : Prop :=
  x.name ≠ .text [] → x.addressOffset ≠ .null →
    ∃ (offset reset : Int) (rest : List Declaration), x.addressOffset = .int offset ∧
      x.resetValue.hexForm = .ok reset ∧
      part = described x.description :: .address (joined [p.name, x.name]) base offset ::
        .resetValue (joined [p.name, x.name]) ("u" ++ x.size.display) reset :: rest

/-- The section of a peripheral. If it has a name and registers, then these are placed; the remark
instead of a section is for others. -/
structure PlacesRegisters (p : Peripheral) (part : List Declaration) : Prop where
  remark : part = [unplacedPeripheral] → p.registers ≠ [] → p.name = .text []
  registers : p.name ≠ .text [] → p.registers ≠ [] →
    ∃ (base : Int) (parts : List (List Declaration)), p.baseAddress = .int base ∧
      List.Forall₂ (Placed p base) p.registers parts ∧
      part = described p.description :: .baseAddress p.name.display base ::
        parts.flatMap (.blank :: ·)

variable {o : Document.Settings} {p : Peripheral}

theorem placed_of_shows {base : Int} {x : Register} {part : List Declaration}
    (fits : x.FitsUnder o) (owner : x.peripheralName = p.name) (shows : ShowsRegister base x part) :
    Placed p base x part := by
  intro named offset
  have complete : x.isComplete = true := by
    unfold Register.isComplete
    have name : ¬ x.name.isNothing = true := fun empty => named (fits.name.isNothing_iff.mp empty)
    have set : ¬ x.addressOffset.isNull = true := fun null => offset (Value.isNull_iff.mp null)
    rw [eq_false_of_ne_true name, eq_false_of_ne_true set]
    rfl
  cases shows with
  | remark incomplete => exact absurd (incomplete.symm.trans complete) nofun
  | shown _ placed valued =>
    rw [registerName, owner]
    exact ⟨_, _, _, hexForm_eq_ok fits.addressOffset placed, valued, rfl⟩

theorem placesRegisters_of_shows {part : List Declaration} (fits : p.FitsUnder o) (based : p.Based)
    (coheres : p.NamesCohere) (shows : ShowsPeripheral p part) : PlacesRegisters p part := by
  have complete : p.name ≠ .text [] → p.registers ≠ [] → p.isComplete = true := by
    intro named some
    unfold Peripheral.isComplete
    have name : ¬ p.name.isNothing = true := fun empty => named (fits.name.isNothing_iff.mp empty)
    rw [eq_false_of_ne_true name, based some]
    rfl
  cases shows with
  | remark incomplete =>
    refine ⟨fun _ some => ?_, fun named some => ?_⟩
    · by_contra named
      exact absurd (incomplete.symm.trans (complete named some)) nofun
    · exact absurd (incomplete.symm.trans (complete named some)) nofun
  | shown _ base each =>
    refine ⟨fun same => absurd same nofun, fun _ _ => ?_⟩
    refine ⟨_, _, hexForm_eq_ok fits.baseAddress base, ?_, rfl⟩
    have known : ∀ x ∈ p.registers, x.FitsUnder o ∧ x.peripheralName = p.name :=
      fun x member => ⟨fits.registers x member, (coheres x member).1⟩
    refine ((List.forall₂_and_left _ _).mpr ⟨known, each⟩).imp ?_
    rintro x part ⟨⟨fits, owner⟩, shows⟩
    exact placed_of_shows fits owner shows

end Zig

namespace Document

open Reader (fed)

/-- No register is without a base address, so that a peripheral with registers and a name is never
replaced by a remark. Rendering succeeds if the reset value of the settings is a whole number. -/
theorem registers_have_bases (o : Settings) (lines : List String) :
    let d := (read o lines).device
    (∀ p ∈ (fed o {} lines).device.peripherals, p.registers ≠ [] → p.baseAddress.IsWord) ∧
      (∀ later i p, (fed o {} lines).device.peripheral? i = some p →
        ∃ q, (fed o {} (lines ++ later)).device.peripheral? i = some q ∧ p.StaysSet q) ∧
      (∀ s masks out, (Zig.renderKnowing masks d s).1.result = .ok out →
        ∃ (data table : List Zig.Declaration) (sections : List (List Zig.Declaration)),
          Zig.dataSections d = .ok data ∧
          List.Forall₂ Zig.PlacesRegisters (d.peripherals.filter s.includes) sections ∧
          out = (data ++ sections.flatMap (.blank :: ·) ++ table).flatMap Zig.Declaration.lines) ∧
      ∀ n, o.resetValue.whole? = some n → ∀ names masks,
        ∃ out, (Zig.renderKnowing masks d (.ofTexts names)).1.result = .ok out := by
  intro d
  obtain ⟨taken, -, reader⟩ := read_reader o lines
  have same : d = (fed o {} taken).device := congrArg Reader.device reader
  have fits : d.FitsUnder o := same ▸ Reader.fitsUnder_fed o taken
  refine ⟨fun p member some => ?_, fun later i p known => ?_, fun s masks out rendered => ?_,
    fun n whole names masks => Zig.rendered_of_whole whole fits names masks⟩
  · have base := Reader.based_fed o lines p member some
    exact ((Reader.fitsUnder_fed o lines).peripherals p member).baseAddress.isWord base
  · rw [Reader.fed_append]
    exact Reader.staysSet_fed later known
  · obtain ⟨_, ⟨own, each, -⟩, rfl⟩ :=
      Zig.declarations_of_rendered rendered (Zig.yields_ofDevice d s)
    refine ⟨_, _, _, own, ?_, rfl⟩
    have known : ∀ p ∈ d.peripherals.filter s.includes,
        p.FitsUnder o ∧ p.Based ∧ p.NamesCohere := by
      intro p member
      have listed := (List.mem_filter.mp member).1
      refine ⟨fits.peripherals p listed, ?_, ?_⟩
      · exact Reader.based_fed o taken p (same ▸ listed)
      · exact Reader.namesCohere_fed o taken p (same ▸ listed)
    refine ((List.forall₂_and_left _ _).mpr ⟨known, each⟩).imp ?_
    rintro p part ⟨⟨fits, based, coheres⟩, shows⟩
    exact Zig.placesRegisters_of_shows fits based coheres shows

/-- A peripheral that has its base address and its register from another one. -/
def copiedRegister : List String :=
  ["<peripherals>", "<peripheral>", "<name>A</name>", "<baseAddress>0x10</baseAddress>",
    "<registers>", "<register>", "<name>R</name>", "<addressOffset>0x4</addressOffset>",
    "</register>", "</registers>", "</peripheral>", "<peripheral derivedFrom=\"A\">",
    "<name>B</name>", "</peripheral>", "</peripherals>", "</device>"]

theorem registers_have_bases_copied :
    (read {} copiedRegister).fault = none ∧
      (read {} copiedRegister).device.peripherals.map Peripheral.name =
        [.ofString "A", .ofString "B"] ∧
      (∀ p ∈ (fed {} {} copiedRegister).device.peripherals,
        p.registers ≠ [] ∧ p.baseAddress.IsWord) ∧
      ∃ (data table : List Zig.Declaration) (sections : List (List Zig.Declaration)),
        List.Forall₂ Zig.PlacesRegisters
          ((read {} copiedRegister).device.peripherals.filter
            (Selection.ofTexts (some ["B"])).includes) sections ∧
        (Zig.renderKnowing [] (read {} copiedRegister).device
            (.ofTexts (some ["B"]))).1.result =
          .ok ((data ++ sections.flatMap (.blank :: ·) ++ table).flatMap
            Zig.Declaration.lines) := by
  have facts : ((read {} copiedRegister).fault = none ∧
      (read {} copiedRegister).device.peripherals.map Peripheral.name =
        [.ofString "A", .ofString "B"]) ∧
      ∀ p ∈ (fed {} {} copiedRegister).device.peripherals, p.registers ≠ [] := by
    decide +kernel
  obtain ⟨⟨passes, names⟩, registers⟩ := facts
  obtain ⟨bases, -, shown, renders⟩ := registers_have_bases {} copiedRegister
  obtain ⟨out, rendered⟩ := renders 0 rfl (some ["B"]) []
  obtain ⟨data, table, sections, -, each, rfl⟩ := shown _ _ _ rendered
  refine ⟨passes, names, fun p member => ?_, data, table, sections, each, rendered⟩
  exact ⟨registers p member, bases p member (registers p member)⟩

end Document

end RegisterMap
