import RegisterMap.Proofs.Reader.Run

/-!
Numbers of lines. A reader looks at its line count only to put it into notices and faults, so that
a reader that stands in another line reads in the same way, and what it tells differs in the
numbers alone. The end of the input counts as the line behind the last one.
-/

set_option autoImplicit false

namespace RegisterMap

namespace Document

def Fault.renumber (f : Nat → Nat) : Fault → Fault
  | .truncated lines place => .truncated (f (lines + 1) - 1) place
  | .registerBeforeBase line peripheral => .registerBeforeBase (f line) peripheral
  | .numeralTooLong numeral => .numeralTooLong numeral

end Document

def Notice.renumber (f : Nat → Nat) : Notice → Notice
  | .moved line source target => .moved (f line) source target
  | .interruptDropped line name vector => .interruptDropped (f line) name vector
  | .unknownBase line name => .unknownBase (f line) name
  | .failed fault => .failed (fault.renumber f)
  | .invalidFile path fault => .invalidFile path (fault.renumber f)
  | .completed device peripherals interrupts => .completed device peripherals interrupts
  | .unknownSelection names => .unknownSelection names
  | .emptySelection => .emptySelection

namespace Document

def Reader.renumber (f : Nat → Nat) (r : Reader) : Reader := { r with line := f r.line }

def Progress.renumber (f : Nat → Nat) : Progress → Progress
  | .ok (r, notices) => .ok (r.renumber f, notices.map (Notice.renumber f))
  | .error fault => .error (fault.renumber f)

def Step.renumber (f : Nat → Nat) (s : Step) : Step :=
  { reader := s.reader.renumber f
    notices := s.notices.map (Notice.renumber f)
    fault := s.fault.map (Fault.renumber f) }

theorem Fault.notices_renumber (f : Nat → Nat) (fault : Fault) :
    (fault.renumber f).notices = fault.notices.map (Notice.renumber f) := by
  cases fault <;> rfl

namespace Reader

section

variable {o : Settings} {r : Reader} {t : Tag} {f : Nat → Nat}

theorem describe_renumber {α : Type} {changeOf : Element → String → Change α}
    {lift : (α → α) → Reader → Reader}
    (commutes : ∀ change, lift change (r.renumber f) = (lift change r).renumber f) :
    (r.renumber f).describe t changeOf lift = (r.describe t changeOf lift).renumber f := by
  unfold describe
  split
  · rename_i e data _ _
    cases changeOf e data with
    | ok change => exact congrArg stay (commutes change)
    | error numeral => rfl
  · rfl

theorem inDevice_renumber : (r.renumber f).inDevice t = (r.inDevice t).renumber f := by
  unfold inDevice
  split
  case h_4 => exact describe_renumber fun _ => rfl
  all_goals rfl

theorem inCpu_renumber : (r.renumber f).inCpu t = (r.inCpu t).renumber f := by
  unfold inCpu
  split
  · rfl
  · exact describe_renumber fun _ => rfl

theorem inPeripherals_renumber :
    (r.renumber f).inPeripherals t = (r.inPeripherals t).renumber f := by
  unfold inPeripherals
  split
  case h_2 =>
    cases t.derivedFrom with
    | none => rfl
    | some name =>
      have same : (r.renumber f).device = r.device := rfl
      dsimp only
      rw [same]
      cases r.device.findPeripheral? (.ofString name) <;> rfl
  all_goals rfl

theorem inPeripheral_renumber :
    (r.renumber f).inPeripheral t = (r.inPeripheral t).renumber f := by
  unfold inPeripheral
  split
  case h_2 =>
    unfold openAddressBlock
    have same : (r.renumber f).blockSeen = r.blockSeen := rfl
    rw [same]
    split <;> rfl
  case h_5 => exact describe_renumber fun _ => rfl
  all_goals rfl

theorem inAddressBlock_renumber :
    (r.renumber f).inAddressBlock t = (r.inAddressBlock t).renumber f := by
  unfold inAddressBlock
  split
  · rfl
  · have same : (r.renumber f).blockSkipped = r.blockSkipped := rfl
    rw [same]
    split
    · rfl
    · exact describe_renumber fun _ => rfl

theorem inInterrupt_renumber : (r.renumber f).inInterrupt t = (r.inInterrupt t).renumber f := by
  unfold inInterrupt
  split
  · unfold closeInterrupt
    have same : (r.renumber f).device = r.device := rfl
    have pending : (r.renumber f).interrupt = r.interrupt := rfl
    rw [same, pending]
    cases r.device.admits (r.interrupt.getD {}) <;> rfl
  · exact describe_renumber fun _ => rfl

theorem inRegisters_renumber :
    (r.renumber f).inRegisters o t = (r.inRegisters o t).renumber f := by
  unfold inRegisters
  split
  case h_2 =>
    have same : (r.renumber f).peripheral? = r.peripheral? := rfl
    rw [same]
    cases r.peripheral? with
    | none => rfl
    | some p =>
      dsimp only
      unfold openRegister
      split <;> rfl
  all_goals rfl

theorem inRegister_renumber : (r.renumber f).inRegister t = (r.inRegister t).renumber f := by
  unfold inRegister
  split
  case h_3 => exact describe_renumber fun _ => rfl
  all_goals rfl

theorem inFields_renumber : (r.renumber f).inFields t = (r.inFields t).renumber f := by
  unfold inFields
  split <;> rfl

theorem inField_renumber : (r.renumber f).inField t = (r.inField t).renumber f := by
  unfold inField
  split
  case h_4 =>
    have same : (r.renumber f).inEnumeratedValues = r.inEnumeratedValues := rfl
    rw [same]
    split
    · rfl
    · exact describe_renumber fun _ => rfl
  all_goals rfl

/-- A tag is read in the same way in every line. -/
theorem read_renumber : read o (r.renumber f) t = (read o r t).renumber f := by
  unfold read
  have same : (r.renumber f).place = r.place := rfl
  rw [same]
  cases r.place with
  | device => exact inDevice_renumber
  | cpu => exact inCpu_renumber
  | peripherals => exact inPeripherals_renumber
  | peripheral => exact inPeripheral_renumber
  | addressBlock => exact inAddressBlock_renumber
  | interrupt => exact inInterrupt_renumber
  | registers => exact inRegisters_renumber
  | register => exact inRegister_renumber
  | fields => exact inFields_renumber
  | field => exact inField_renumber
  | finished => rfl

theorem feed_renumber {m : Nat} (numbered : f (r.line + 1) = m + 1) (line : String) :
    ({ r with line := m } : Reader).feed o line = (r.feed o line).renumber f := by
  have counted : ({ r with line := m + 1 } : Reader) =
      ({ r with line := r.line + 1 } : Reader).renumber f := by
    rw [renumber, numbered]
  unfold feed
  dsimp only
  rw [counted]
  cases Tag.ofLine? line with
  | none => rfl
  | some t =>
    dsimp only
    rw [read_renumber]
    cases read o { r with line := r.line + 1 } t with
    | ok progress => rfl
    | error fault =>
      simp only [Progress.renumber, Step.ofProgress, Step.renumber, Fault.notices_renumber]
      rfl

theorem finish_renumber {m : Nat} (numbered : f (r.line + 1) = m + 1) :
    ({ r with line := m } : Reader).finish.notices =
        r.finish.notices.map (Notice.renumber f) ∧
      ({ r with line := m } : Reader).finish.fault = r.finish.fault.map (Fault.renumber f) := by
  unfold finish
  dsimp only
  split
  · exact ⟨rfl, rfl⟩
  · refine ⟨rfl, ?_⟩
    simp only [Option.map_some, Fault.renumber, numbered]
    rfl

/-- A run that starts in another line is the same run, as far as the count goes. -/
theorem fed_renumber (lines : List String) (m : Nat) :
    fed o { r with line := m } lines = { fed o r lines with line := m + lines.length } ∧
      (Smooth o { r with line := m } lines ↔ Smooth o r lines) := by
  induction lines generalizing r m with
  | nil => exact ⟨rfl, Iff.rfl⟩
  | cons line rest ih =>
    have step : ({ r with line := m } : Reader).feed o line =
        (r.feed o line).renumber fun _ => m + 1 :=
      feed_renumber (r := r) (f := fun _ => m + 1) rfl line
    obtain ⟨run, smooth⟩ := @ih (r.feed o line).reader (m + 1)
    constructor
    · rw [fed_cons, fed_cons, step, List.length_cons, Nat.add_comm rest.length 1, ← Nat.add_assoc]
      exact run
    · rw [Smooth, Smooth, step, ← smooth]
      simp only [Step.renumber, Option.map_eq_none_iff]
      exact Iff.rfl

end

end Reader

end Document

end RegisterMap
