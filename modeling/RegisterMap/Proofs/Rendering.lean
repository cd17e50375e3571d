import RegisterMap.Outline
import RegisterMap.Proofs.InterruptTable
import RegisterMap.Proofs.Results
import RegisterMap.Proofs.Zig.Sections

/-!
Rendering cannot fail. In a model whose values fit their attributes nothing that a declaration or
an outline needs is missing: names are texts, interrupts have a table, and widths, offsets and reset
values are words. So every selection of peripherals by texts gives declarations and an outline,
without a mask being remembered, and every number in the declarations is a word.
-/

set_option autoImplicit false

namespace RegisterMap

open Numeral (maxWord)

/-! ## Work that gives a result -/

section

variable {m : Type → Type} [Monad m] {α β : Type} {holds : α → Prop} {post : β → Prop}

/-- The work comes down to a value of this kind: it neither fails nor changes anything. -/
def Gives (holds : α → Prop) (work : m α) : Prop := ∃ a, holds a ∧ work = pure a

theorem gives_pure {a : α} (held : holds a) : Gives holds (pure a : m α) := ⟨a, held, rfl⟩

variable [LawfulMonad m]

theorem Gives.bind {work : m α} {next : α → m β} (first : Gives holds work)
    (second : ∀ a, holds a → Gives post (next a)) : Gives post (work >>= next) := by
  obtain ⟨a, held, rfl⟩ := first
  rw [pure_bind]
  exact second a held

theorem gives_mapM {f : α → m β} {xs : List α} (each : ∀ x ∈ xs, Gives post (f x)) :
    Gives (fun ys => ∀ y ∈ ys, post y) (xs.mapM f) := by
  induction xs with
  | nil =>
    rw [List.mapM_nil]
    exact gives_pure nofun
  | cons x rest ih =>
    rw [List.mapM_cons]
    refine (each x List.mem_cons_self).bind fun y first => ?_
    refine (ih fun z member => each z (List.mem_cons_of_mem x member)).bind fun ys others => ?_
    exact gives_pure (List.forall_mem_cons.mpr ⟨first, others⟩)

theorem gives_foldlM {f : β → α → m β} {xs : List α} {start : β} (before : post start)
    (each : ∀ x ∈ xs, ∀ b, post b → Gives post (f b x)) : Gives post (xs.foldlM f start) := by
  induction xs generalizing start with
  | nil => exact gives_pure before
  | cons x rest ih =>
    rw [List.foldlM_cons]
    refine (each x List.mem_cons_self start before).bind fun b held => ?_
    exact ih held fun y member => each y (List.mem_cons_of_mem x member)

end

section

variable {α β : Type} {holds : α → Prop} {post : β → Prop} {work : Except Misfit α}

theorem pure_masking_inj {a b : α} (same : (pure a : Masking α) = pure b) : a = b :=
  Except.ok.inj (congrArg Prod.fst (congrFun same []))

/-- A result without a mask is one among the work on masks. -/
theorem Gives.lift (gives : Gives holds work) : Gives holds (liftM work : Masking α) := by
  obtain ⟨a, held, rfl⟩ := gives
  exact ⟨a, held, rfl⟩

theorem Gives.map {f : α → β} (gives : Gives holds work) (maps : ∀ a, holds a → post (f a)) :
    Gives post (work.map f) := by
  obtain ⟨a, held, rfl⟩ := gives
  exact ⟨f a, maps a held, rfl⟩

end

/-! ## Words -/

theorem isWord_orElse {v other : Value} (fits : v.MaybeWord) (word : other.IsWord) :
    (v.orElse other).IsWord := by
  unfold Value.orElse
  split
  · exact word
  case isFalse something =>
    apply fits.resolve_left
    rintro rfl
    exact something rfl

theorem gives_hexForm {v : Value} (word : v.IsWord) :
    Gives (fun n => (Value.int n).IsWord) v.hexForm := by
  obtain ⟨n, small, rfl⟩ := word
  exact gives_pure (isWord_of_le small)

theorem gives_asName {v : Value} (text : v.IsText) : Gives (fun _ => True) v.asName := by
  obtain ⟨s, rfl⟩ := text
  exact gives_pure trivial

theorem Zig.gives_spelled {v : Value} (text : v.IsText) : Gives (fun _ => True) (spelled v) := by
  obtain ⟨s, rfl⟩ := text
  unfold spelled
  split
  · exact gives_pure trivial
  · exact gives_pure trivial

/-- The interrupts of the table are those that are stored, so each of them has a number. -/
theorem gives_interruptTable {d : Device} (stored : Interrupt.Stored d.interrupts) :
    Gives (fun entries => ∀ i ∈ entries, i.Fits ∧ i.vector.IsWord) d.interruptTable := by
  rw [interruptTable_eq stored.listed]
  refine gives_pure fun i member => ?_
  obtain ⟨entry, sorted, rfl⟩ := List.mem_map.mp member
  have listed := (sortedInterrupts_perm d.interrupts).mem_iff.mp sorted
  refine ⟨stored.fits entry listed, ?_⟩
  rw [← stored.own entry listed]
  exact stored.numbered entry listed

/-! ## Masks -/

theorem lowMask_le {width : Nat} : Gives (· ≤ maxWord) (lowMask width) := by
  unfold lowMask
  have whole : wholeMask ≤ maxWord := by decide
  split
  case isTrue negative => omega
  split
  · exact gives_pure whole
  case isFalse small =>
    have bits : width ≤ wordBits := by omega
    have power : Nat.pow 2 width ≤ Nat.pow 2 wordBits := Nat.pow_le_pow_right (by omega) bits
    refine gives_pure (le_trans ?_ whole)
    rw [Int.toNat_natCast]
    exact Nat.sub_le_sub_right power 1

theorem gives_maskOfWidth {width : Value} (word : width.IsWord) :
    Gives (· ≤ maxWord) (maskOfWidth width) := by
  obtain ⟨n, -, rfl⟩ := word
  exact lowMask_le.lift

theorem gives_shiftOfOffset {offset : Value} (fits : offset.MaybeWord) :
    Gives (fun _ => True) (shiftOfOffset offset) := by
  unfold shiftOfOffset
  split
  · exact gives_pure trivial
  case isFalse something =>
    obtain rfl | ⟨n, -, rfl⟩ := fits
    · exact absurd rfl something
    · exact gives_pure trivial

theorem Field.gives_valueMask {f : Field} (fits : f.Fits) : Gives (· ≤ maxWord) f.valueMask :=
  gives_maskOfWidth (isWord_orElse fits.bitWidth (isWord_of_le (Nat.zero_le _)))

theorem Field.gives_mask {f : Field} (fits : f.Fits) : Gives (· ≤ maxWord) f.mask := by
  unfold Field.mask
  refine (gives_valueMask fits).bind fun bits _ => ?_
  refine (gives_shiftOfOffset fits.bitOffset).lift.bind fun shift _ => gives_pure ?_
  have bound : (bits <<< shift) % Nat.pow 2 wordBits < Nat.pow 2 wordBits :=
    Nat.mod_lt _ (by decide)
  exact Nat.le_pred_of_lt bound

theorem or_le_maxWord {a b : Nat} (first : a ≤ maxWord) (second : b ≤ maxWord) :
    a ||| b ≤ maxWord :=
  Nat.le_of_lt_succ (Nat.or_lt_two_pow (Nat.lt_succ_of_le first) (Nat.lt_succ_of_le second) :
    a ||| b < 2 ^ 32)

theorem Register.gives_writeMask {x : Register} (fits : ∀ f ∈ x.fields, f.Fits) :
    Gives (· ≤ maxWord) x.writeMask := by
  unfold Register.writeMask
  refine gives_foldlM (Nat.zero_le _) fun f member bits small => ?_
  refine (Field.gives_mask (fits f (List.mem_filter.mp member).1)).bind fun mask fit => ?_
  exact gives_pure (or_le_maxWord small fit)

theorem Register.gives_effectiveAccess {x : Register} (fits : ∀ f ∈ x.fields, f.Fits) :
    Gives (fun _ => True) x.effectiveAccess :=
  (gives_writeMask fits).bind fun _ _ => gives_pure trivial

/-! ## Declarations -/

namespace Zig

def Member.Fits : Member → Prop
  | .plain _ value => value.IsWord
  | _ => True

/-- Every number that is written out is a word. -/
def Declaration.Fits : Declaration → Prop
  | .plain _ value | .fieldOffset _ value => value.IsWord
  | .struct _ members => ∀ x ∈ members, x.Fits
  | .baseAddress _ base => (Value.int base).IsWord
  | .address _ base offset => (Value.int base).IsWord ∧ (Value.int offset).IsWord
  | .resetValue _ _ value => (Value.int value).IsWord
  | .writer _ _ mask | .fieldMask _ mask => mask ≤ maxWord
  | .fieldSetter _ mask offset => mask ≤ maxWord ∧ offset.IsWord
  | _ => True

/-- Declarations that all fit. -/
def Fit (declarations : List Declaration) : Prop := ∀ x ∈ declarations, x.Fits

theorem fit_append {xs ys : List Declaration} (first : Fit xs) (second : Fit ys) :
    Fit (xs ++ ys) :=
  fun x member => (List.mem_append.mp member).elim (first x) (second x)

theorem fit_remark (comment : String) : Fit [.remark comment] := by simp [Fit, Declaration.Fits]

theorem fit_sections {sections : List (List Declaration)} (fit : ∀ part ∈ sections, Fit part) :
    Fit (sections.flatMap (.blank :: ·)) :=
  forall_mem_sections trivial fit

theorem fit_plainIfSet {name : Text} {v : Value} (fits : v.MaybeWord) :
    Fit (plainIfSet name v) := by
  unfold plainIfSet
  split
  · exact nofun
  case isFalse set =>
    simpa [Fit, Declaration.Fits] using fits.isWord (Bool.eq_false_of_not_eq_true set)

theorem gives_ofField {f : Field} (fits : f.Fits) : Gives Fit (ofField f) := by
  unfold ofField
  split
  · exact gives_pure (fit_remark _)
  split
  case isTrue complete =>
    simp only [Field.isComplete, Bool.and_eq_true, Bool.not_eq_true'] at complete
    have offset := fits.bitOffset.isWord complete.1.2
    refine (Field.gives_mask fits).bind fun mask small => ?_
    refine (Field.gives_valueMask fits).bind fun valueMask low => gives_pure ?_
    simp [Fit, Declaration.Fits, described, offset, small, low]
  · exact gives_pure (fit_remark _)

theorem fit_accessors {name wordType : Text} {access : Access} {mask : Nat}
    (small : mask ≤ maxWord) : Fit (accessors name wordType access mask) := by
  unfold accessors
  refine fit_append ?_ ?_
  · split <;> simp [Fit, Declaration.Fits, small]
  · split <;> simp [Fit, Declaration.Fits]

theorem gives_ofRegister {base : Int} {x : Register} (based : (Value.int base).IsWord)
    (fits : x.Fits) : Gives Fit (ofRegister base x) := by
  unfold ofRegister
  split
  case isTrue complete =>
    simp only [Register.isComplete, Bool.and_eq_true, Bool.not_eq_true'] at complete
    have offset := fits.addressOffset.isWord complete.2
    refine (Register.gives_writeMask fits.fields).bind fun mask small => ?_
    refine (Register.gives_effectiveAccess fits.fields).bind fun access _ => ?_
    refine (gives_hexForm offset).lift.bind fun offset placed => ?_
    refine (gives_hexForm fits.resetValue).lift.bind fun reset word => ?_
    refine (gives_mapM fun f member => gives_ofField (fits.fields f member)).bind fun _ fields => ?_
    refine gives_pure (fit_append (fit_append ?_ (fit_accessors small)) (fit_sections fields))
    simp [Fit, Declaration.Fits, described, based, placed, word]
  · exact gives_pure (fit_remark _)

theorem gives_ofPeripheral {p : Peripheral} (fits : p.Fits) : Gives Fit (ofPeripheral p) := by
  unfold ofPeripheral
  split
  case isTrue complete =>
    simp only [Peripheral.isComplete, Bool.and_eq_true, Bool.not_eq_true'] at complete
    refine (gives_hexForm (fits.baseAddress.isWord complete.2)).lift.bind fun base based => ?_
    refine (gives_mapM fun x member => gives_ofRegister based (fits.registers x member)).bind
      fun _ registers => gives_pure (fit_append ?_ (fit_sections registers))
    simp [Fit, Declaration.Fits, described, based]
  · exact gives_pure (fit_remark _)

theorem gives_ofCpu {c : Cpu} (fits : c.Fits) : Gives Fit (ofCpu c) := by
  unfold ofCpu
  refine (gives_spelled fits.name).bind fun name _ => ?_
  refine (gives_spelled fits.revision).bind fun revision _ => ?_
  refine (gives_spelled fits.endian).bind fun endian _ => gives_pure ?_
  have bits : ∀ x ∈ (if c.nvicPrioBits.isNull then []
      else [Member.plain "nvic_prio_bits" c.nvicPrioBits]), x.Fits := by
    split
    · exact nofun
    case isFalse set =>
      simpa [Member.Fits] using fits.nvicPrioBits.isWord (Bool.eq_false_of_not_eq_true set)
  simpa [Fit, Declaration.Fits, Member.Fits, or_imp, forall_and] using bits

theorem fits_ofInterrupt {i : Interrupt} (word : i.vector.IsWord) :
    ∀ x ∈ ofInterrupt i, x.Fits := by
  unfold ofInterrupt
  split
  · exact nofun
  · split <;> simp [Member.Fits, word]

theorem gives_deviceSection {d : Device} (own : d.OwnFits) : Gives Fit (deviceSection d) := by
  unfold deviceSection
  refine (gives_spelled own.name).bind fun name _ => ?_
  refine (gives_spelled own.version).bind fun version _ => ?_
  refine (gives_spelled own.description).bind fun description _ => gives_pure ?_
  refine fit_append (fit_append ?_ (fit_plainIfSet own.addressUnitBits))
    (fit_plainIfSet own.maxBitWidth)
  simp [Fit, Declaration.Fits]

theorem gives_dataSections {d : Device} (own : d.OwnFits) : Gives Fit (dataSections d) := by
  unfold dataSections
  refine (gives_deviceSection own).bind fun _ data => ?_
  have cpus : ∀ c ∈ d.cpu.toList, Gives Fit (ofCpu c) :=
    fun c member => gives_ofCpu (own.cpu c (Option.mem_toList.mp member))
  exact (gives_mapM cpus).bind fun _ cpu => gives_pure (fit_append data (fit_sections cpu))

theorem gives_ofDevice {d : Device} (fits : d.Fits) (s : Selection) : Gives Fit (ofDevice d s) := by
  unfold ofDevice
  refine (gives_dataSections fits.own).lift.bind fun _ data => ?_
  have selected : ∀ p ∈ d.peripherals.filter s.includes, Gives Fit (ofPeripheral p) :=
    fun p member => gives_ofPeripheral (fits.peripherals p (List.mem_filter.mp member).1)
  refine (gives_mapM selected).bind fun _ peripherals => ?_
  refine (gives_interruptTable fits.interrupts).lift.bind fun interrupts listed => gives_pure ?_
  refine fit_append (fit_append data (fit_sections peripherals)) ?_
  have members : ∀ x ∈ interrupts.flatMap ofInterrupt, x.Fits := by
    intro x member
    obtain ⟨i, entry, inside⟩ := List.mem_flatMap.mp member
    exact fits_ofInterrupt (listed i entry).2 x inside
  simpa [Fit, Declaration.Fits] using members

end Zig

/-! ## Selections and outlines -/

/-- The selection of peripherals by texts, or of all of them. -/
def Selection.ofTexts (names : Option (List Text)) : Selection where
  names := names.map fun texts => texts.map Value.text

/-- The names that no peripheral has. -/
def Device.unknownNames (names : List Text) (d : Device) : List Text :=
  names.filter fun s => .text s ∉ d.peripherals.map Peripheral.name

namespace Selection

theorem checkNames_eq {names : List Value} (fit : ∀ v ∈ names, v.isName = true) :
    checkNames names = pure () := by
  have each : ∀ v ∈ names, Gives (fun _ => True) v.asName :=
    fun v listed => ⟨v, trivial, if_pos (fit v listed)⟩
  obtain ⟨_, -, made⟩ := gives_mapM each
  rw [checkNames, made]
  rfl

theorem mapM_partText (names : List Text) (start : Nat) :
    ((names.map Value.text).zipIdx start).mapM partText = .ok names := by
  induction names generalizing start with
  | nil => rfl
  | cons s rest ih =>
    rw [List.map_cons, List.zipIdx_cons, List.mapM_cons, ih]
    rfl

theorem missing_texts (d : Device) (names : List Text) :
    missing d (names.map Value.text) = (d.unknownNames names).map Value.text := by
  unfold missing Device.unknownNames
  rw [List.filter_map]
  refine congrArg _ (List.filter_congr fun s _ => ?_)
  rw [Bool.eq_iff_iff]
  simp [Value.alike_text_iff]

section

variable {d : Device} (fit : ∀ p ∈ d.peripherals, p.name.isName = true)

include fit

/-- A selection by texts passes its check, and the names that are unknown are noticed. -/
theorem check_texts (names : List Text) :
    (ofTexts (some names)).check d =
      if (d.unknownNames names).isEmpty then pure ()
      else .note (.unknownSelection (d.unknownNames names)) := by
  have known : ∀ v ∈ d.peripherals.map Peripheral.name, v.isName = true :=
    List.forall_mem_map.mpr fit
  have given : ∀ v ∈ names.map Value.text, v.isName = true := List.forall_mem_map.mpr fun _ _ => rfl
  change (checkNames _ >>= fun _ => checkNames _ >>= fun _ => checkMissing (missing d _)) = _
  rw [checkNames_eq known, checkNames_eq given, Report.bind_of_pure, Report.bind_of_pure,
    missing_texts, checkMissing, mapM_partText, List.isEmpty_map]
  rfl

theorem check_result (names : Option (List Text)) : ((ofTexts names).check d).result = .ok () := by
  cases names with
  | none => rfl
  | some texts =>
    rw [check_texts fit]
    split <;> rfl

end

theorem gives_check {d : Device} (named : ∀ p ∈ d.peripherals, p.name.IsText)
    (names : Option (List Text)) : Gives (fun _ => True) ((ofTexts names).check d).result := by
  refine ⟨(), trivial, check_result (fun p listed => ?_) names⟩
  obtain ⟨s, text⟩ := named p listed
  rw [text]
  rfl

end Selection

/-- What an outline shows of a device, and of these of its peripherals. -/
def Outline.shown (d : Device) (peripherals : List Peripheral) : Except Misfit Value := do
  let shown ← named Peripheral.name ofPeripheral peripherals
  let interrupts ← ofInterrupts d
  return .object (ownMembers d ++ always "peripherals" shown ++ always "interrupts" interrupts)

theorem Device.outline_result {d : Device} {s : Selection} (checked : (s.check d).result = .ok ()) :
    (d.outline s).result = Outline.shown d (d.outlined s) := by
  unfold Device.outline Outline.shown
  rw [Report.result_bind, checked]
  change (_ >>= _ : Report Value).result = _
  rw [Report.result_bind]
  refine congrArg _ (funext fun peripherals => ?_)
  split
  · rw [Report.result_bind]
    change (_ >>= _ : Report Value).result = _
    rw [Report.result_bind]
    rfl
  · rw [Report.result_bind]
    rfl

namespace Outline

variable {α : Type} {name : α → Value} {body : α → Except Misfit Value} {entities : List α}

theorem gives_named (texts : ∀ e ∈ entities, (name e).IsText)
    (bodies : ∀ e ∈ entities, Gives (fun _ => True) (body e)) :
    Gives (fun _ => True) (named name body entities) := by
  have members : ∀ e ∈ entities.filter fun e => !(name e).isNothing,
      Gives (fun _ => True) (member name body e) := by
    intro e kept
    have listed := (List.mem_filter.mp kept).1
    refine (bodies e listed).bind fun v _ => ?_
    exact (gives_asName (texts e listed)).bind fun _ _ => gives_pure trivial
  exact (gives_mapM members).map fun _ _ => trivial

theorem gives_ofRegister {x : Register} (fits : x.Fits) : Gives (fun _ => True) (ofRegister x) :=
  (gives_named (fun f member => (fits.fields f member).name)
    fun _ _ => gives_pure trivial).bind fun _ _ => gives_pure trivial

theorem gives_ofPeripheral {p : Peripheral} (fits : p.Fits) :
    Gives (fun _ => True) (ofPeripheral p) :=
  (gives_named (fun x member => (fits.registers x member).name)
    fun x member => gives_ofRegister (fits.registers x member)).bind
      fun _ _ => gives_pure trivial

/-- The interrupts are shown by ascending number. -/
theorem ofInterrupts_eq {d : Device} (listed : Interrupt.Listed d.interrupts) :
    ofInterrupts d = named Interrupt.name (fun i => .ok i.vector)
      ((sortedInterrupts d.interrupts).map Prod.snd) := by
  unfold ofInterrupts
  rw [interruptTable_eq listed]
  rfl

theorem gives_ofInterrupts {d : Device} (fits : d.Fits) : Gives (fun _ => True) (ofInterrupts d) :=
  (gives_interruptTable fits.interrupts).bind fun _ listed =>
    gives_named (fun i member => (listed i member).1.name) fun _ _ => gives_pure trivial

end Outline

theorem Outline.gives_shown {d : Device} (fits : d.Fits) {peripherals : List Peripheral}
    (listed : ∀ p ∈ peripherals, p.Fits) : Gives (fun _ => True) (shown d peripherals) := by
  have made := gives_named (fun p member => (listed p member).name)
    fun p member => gives_ofPeripheral (listed p member)
  refine made.bind fun _ _ => ?_
  exact (gives_ofInterrupts fits).bind fun _ _ => gives_pure trivial

theorem Device.gives_outline {d : Device} (fits : d.Fits) (names : Option (List Text)) :
    Gives (fun _ => True) (d.outline (.ofTexts names)).result := by
  obtain ⟨_, -, checked⟩ := Selection.gives_check fits.named names
  rw [outline_result checked]
  exact Outline.gives_shown fits fun p member =>
    fits.peripherals p (List.mem_filter.mp member).1

/-! ## Devices that were read -/

theorem Zig.renderKnowing_eq {d : Device} (fits : d.Fits) (names : Option (List Text)) :
    ∃ declarations : List Declaration, (∀ x ∈ declarations, x.Fits) ∧ ∀ masks : Masks,
      (renderKnowing masks d (.ofTexts names)).1.result =
          .ok (declarations.flatMap Declaration.lines) ∧
        (renderKnowing masks d (.ofTexts names)).2 = masks := by
  obtain ⟨declarations, fit, made⟩ := gives_ofDevice fits (.ofTexts names)
  obtain ⟨_, -, checked⟩ := Selection.gives_check fits.named names
  refine ⟨declarations, fit, fun masks => ?_⟩
  simp only [renderKnowing, checked, made]
  exact ⟨rfl, rfl⟩

namespace Document

/-- If the settings give words, then every number of a reachable model is a word or not set. For
every selection rendering and outlining then succeed, and every number in the declarations, masks
among them, is a word. -/
theorem rendering_succeeds {o : Settings} (settings : o.Fits) (lines : List String) :
    let d := (read o lines).device
    (Reader.fed o {} lines).Fits ∧ d.Fits ∧ ∀ names : Option (List Text),
      (∃ declarations : List Zig.Declaration, (∀ x ∈ declarations, x.Fits) ∧ ∀ masks : Masks,
        (Zig.renderKnowing masks d (.ofTexts names)).1.result =
            .ok (declarations.flatMap Zig.Declaration.lines) ∧
          (Zig.renderKnowing masks d (.ofTexts names)).2 = masks) ∧
      ∃ outline, (d.outline (.ofTexts names)).result = .ok outline := by
  have fits : (read o lines).reader.Fits :=
    read_keeps (fun _ line held => Reader.fits_feed settings line held)
      ⟨Device.fits_empty, nofun⟩ lines
  refine ⟨Reader.fits_fed settings lines, fits.device, fun names => ⟨?_, ?_⟩⟩
  · exact Zig.renderKnowing_eq fits.device names
  · obtain ⟨outline, -, made⟩ := Device.gives_outline fits.device names
    exact ⟨outline, made⟩

/-- A field whose offset and width are far beyond those of its register. -/
def wideField : List String :=
  ["<peripherals>", "<peripheral>", "<name>A</name>", "<baseAddress>0x10</baseAddress>",
    "<registers>", "<register>", "<name>R</name>", "<addressOffset>0xFFFFFFFF</addressOffset>",
    "<fields>", "<field>", "<name>F</name>", "<bitOffset>4294967295</bitOffset>",
    "<bitWidth>4294967295</bitWidth>"]

def wideSettings : Settings where
  registerSize := .int 8
  resetValue := .int 0xFFFFFFFF

theorem rendering_succeeds_wideField :
    wideSettings.Fits ∧ (read wideSettings wideField).device.Fits ∧
      (read wideSettings wideField).device.peripherals ≠ [] ∧
      (∃ declarations : List Zig.Declaration, (∀ x ∈ declarations, x.Fits) ∧
        (Zig.renderKnowing [] (read wideSettings wideField).device
          (.ofTexts (some ["A"]))).1.result = .ok (declarations.flatMap Zig.Declaration.lines)) ∧
      ∃ outline, ((read wideSettings wideField).device.outline (.ofTexts none)).result =
        .ok outline := by
  have settings : wideSettings.Fits := ⟨⟨8, by decide, rfl⟩, ⟨maxWord, by decide, rfl⟩⟩
  obtain ⟨-, fits, succeeds⟩ := rendering_succeeds settings wideField
  obtain ⟨declarations, fit, renders⟩ := (succeeds (some ["A"])).1
  refine ⟨settings, fits, by decide +kernel, ⟨declarations, fit, ?_⟩, (succeeds none).2⟩
  exact (renders []).1

end Document

end RegisterMap
