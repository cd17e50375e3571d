import RegisterMap.Proofs.Numeral.Positional
import RegisterMap.Proofs.Reader.Housed

/-!
How a reading ends. A line can fail in two ways only, and both can be told from the line and the
place where it stands. Together with the end of the input this gives the four endings of a reading,
each with the exact condition on the lines that leads to it.
-/

set_option autoImplicit false

namespace RegisterMap.Document

open Numeral (decimal? maxDigits)

section

variable {e : Element} {data : String} {numeral : Numeral.TooLong}

theorem decimal_eq_error_iff {α : Type} {put : Value → α → α} :
    decimal data put = .error numeral ↔ decimal? data.toList = .error numeral := by
  unfold decimal
  cases decimal? data.toList with
  | ok v => exact ⟨nofun, nofun⟩
  | error other =>
    constructor <;> intro same <;> cases same <;> rfl

theorem deviceAttribute_eq_error_iff :
    deviceAttribute e data = .error numeral ↔
      e ∈ [.addressUnitBits, .width, .size, .resetValue, .resetMask] ∧
        decimal? data.toList = .error numeral := by
  cases e <;> simp [deviceAttribute, textual, unchanged, decimal_eq_error_iff]

theorem cpuAttribute_eq_error_iff :
    cpuAttribute e data = .error numeral ↔
      e = .nvicPrioBits ∧ decimal? data.toList = .error numeral := by
  cases e <;> simp [cpuAttribute, textual, truth, unchanged, decimal_eq_error_iff]

theorem interruptAttribute_eq_error_iff :
    interruptAttribute e data = .error numeral ↔
      e = .value ∧ decimal? data.toList = .error numeral := by
  cases e <;> simp [interruptAttribute, textual, unchanged, decimal_eq_error_iff]

theorem fieldAttribute_eq_error_iff :
    fieldAttribute e data = .error numeral ↔
      e ∈ [.bitOffset, .bitWidth] ∧ decimal? data.toList = .error numeral := by
  cases e <;> simp [fieldAttribute, textual, right, unchanged, decimal_eq_error_iff]

theorem peripheralAttribute_ne_error : peripheralAttribute e data ≠ .error numeral := by
  cases e <;> simp [peripheralAttribute, textual, hexadecimal, unchanged]

theorem addressBlockAttribute_ne_error : addressBlockAttribute e data ≠ .error numeral := by
  cases e <;> simp [addressBlockAttribute, textual, hexadecimal, unchanged]

theorem registerAttribute_ne_error : registerAttribute e data ≠ .error numeral := by
  cases e <;> simp [registerAttribute, textual, hexadecimal, right, unchanged]

end

namespace Reader

/-- At the place of the reader the content of the element is a decimal numeral. -/
def TakesDecimal (r : Reader) (e : Element) : Prop :=
  match r.place with
  | .device => e ∈ [.addressUnitBits, .width, .size, .resetValue, .resetMask]
  | .cpu => e = .nvicPrioBits
  | .interrupt => e = .value
  | .field => e ∈ [.bitOffset, .bitWidth] ∧ r.inEnumeratedValues = false
  | _ => False

variable {o : Settings} {r : Reader} {t : Tag}

theorem describe_error {α : Type} {changeOf : Element → String → Change α} {e : Element}
    {data : String} {numeral : Numeral.TooLong} (tells : t.Tells e data)
    (refused : changeOf e data = .error numeral) (lift : (α → α) → Reader → Reader) :
    r.describe t changeOf lift = .error (.numeralTooLong numeral) := by
  unfold describe
  rw [tells.1, tells.2]
  dsimp only
  rw [refused]

section

variable {fault : Fault}

theorem inDevice_eq_error (fails : r.inDevice t = .error fault) :
    ∃ e data numeral, t.Tells e data ∧ deviceAttribute e data = .error numeral ∧
      fault = .numeralTooLong numeral := by
  unfold inDevice at fails
  split at fails
  case h_4 => exact describe_eq_error fails
  all_goals exact absurd fails nofun

theorem inCpu_eq_error (fails : r.inCpu t = .error fault) :
    ∃ e data numeral, t.Tells e data ∧ cpuAttribute e data = .error numeral ∧
      fault = .numeralTooLong numeral := by
  unfold inCpu at fails
  split at fails
  · exact absurd fails nofun
  · exact describe_eq_error fails

theorem inPeripherals_ne_error : r.inPeripherals t ≠ .error fault := by
  unfold inPeripherals
  repeat' split
  all_goals exact nofun

theorem inPeripheral_ne_error : r.inPeripheral t ≠ .error fault := by
  intro fails
  unfold inPeripheral openAddressBlock at fails
  split at fails
  case h_5 =>
    obtain ⟨e, data, numeral, -, refused, -⟩ := describe_eq_error fails
    exact peripheralAttribute_ne_error refused
  case h_2 => split at fails <;> exact absurd fails nofun
  all_goals exact absurd fails nofun

theorem inAddressBlock_ne_error : r.inAddressBlock t ≠ .error fault := by
  intro fails
  unfold inAddressBlock at fails
  split at fails
  · exact absurd fails nofun
  · split at fails
    · exact absurd fails nofun
    · obtain ⟨e, data, numeral, -, refused, -⟩ := describe_eq_error fails
      exact addressBlockAttribute_ne_error refused

theorem inInterrupt_eq_error (fails : r.inInterrupt t = .error fault) :
    ∃ e data numeral, t.Tells e data ∧ interruptAttribute e data = .error numeral ∧
      fault = .numeralTooLong numeral := by
  unfold inInterrupt at fails
  split at fails
  · exact absurd fails nofun
  · exact describe_eq_error fails

theorem inRegisters_eq_error (fails : r.inRegisters o t = .error fault) :
    ∃ p, t.mark = .opening .register ∧ r.peripheral? = some p ∧ p.baseAddress.isNull = true ∧
      fault = .registerBeforeBase r.line p.name := by
  unfold inRegisters openRegister at fails
  split at fails
  case h_2 mark =>
    split at fails
    · rename_i p current
      split at fails
      · rename_i unbased
        exact ⟨p, mark, current, unbased, (Except.error.inj fails).symm⟩
      · exact absurd fails nofun
    · exact absurd fails nofun
  all_goals exact absurd fails nofun

theorem inRegister_ne_error : r.inRegister t ≠ .error fault := by
  intro fails
  unfold inRegister at fails
  split at fails
  case h_3 =>
    obtain ⟨e, data, numeral, -, refused, -⟩ := describe_eq_error fails
    exact registerAttribute_ne_error refused
  all_goals exact absurd fails nofun

theorem inFields_ne_error : r.inFields t ≠ .error fault := by
  unfold inFields
  split <;> exact nofun

theorem inField_eq_error (fails : r.inField t = .error fault) :
    r.inEnumeratedValues = false ∧
      ∃ e data numeral, t.Tells e data ∧ fieldAttribute e data = .error numeral ∧
        fault = .numeralTooLong numeral := by
  unfold inField at fails
  split at fails
  case h_4 =>
    split at fails
    · exact absurd fails nofun
    · rename_i outside
      exact ⟨eq_false_of_ne_true outside, describe_eq_error fails⟩
  all_goals exact absurd fails nofun

/-- A tag fails as the register of a peripheral without base, or for a decimal numeral. -/
theorem read_eq_error (fails : r.read o t = .error fault) :
    (∃ p, r.place = .registers ∧ t.mark = .opening .register ∧ r.peripheral? = some p ∧
        p.baseAddress.isNull = true ∧ fault = .registerBeforeBase r.line p.name) ∨
      ∃ e data numeral, t.Tells e data ∧ r.TakesDecimal e ∧
        decimal? data.toList = .error numeral ∧ fault = .numeralTooLong numeral := by
  unfold read at fails
  unfold TakesDecimal
  cases here : r.place with
  | device =>
    rw [here] at fails
    obtain ⟨e, data, numeral, tells, refused, rfl⟩ := inDevice_eq_error fails
    obtain ⟨known, long⟩ := deviceAttribute_eq_error_iff.mp refused
    exact Or.inr ⟨e, data, numeral, tells, known, long, rfl⟩
  | cpu =>
    rw [here] at fails
    obtain ⟨e, data, numeral, tells, refused, rfl⟩ := inCpu_eq_error fails
    obtain ⟨known, long⟩ := cpuAttribute_eq_error_iff.mp refused
    exact Or.inr ⟨e, data, numeral, tells, known, long, rfl⟩
  | interrupt =>
    rw [here] at fails
    obtain ⟨e, data, numeral, tells, refused, rfl⟩ := inInterrupt_eq_error fails
    obtain ⟨known, long⟩ := interruptAttribute_eq_error_iff.mp refused
    exact Or.inr ⟨e, data, numeral, tells, known, long, rfl⟩
  | field =>
    rw [here] at fails
    obtain ⟨outside, e, data, numeral, tells, refused, rfl⟩ := inField_eq_error fails
    obtain ⟨known, long⟩ := fieldAttribute_eq_error_iff.mp refused
    exact Or.inr ⟨e, data, numeral, tells, ⟨known, outside⟩, long, rfl⟩
  | registers =>
    rw [here] at fails
    obtain ⟨p, mark, current, unbased, rfl⟩ := inRegisters_eq_error fails
    exact Or.inl ⟨p, rfl, mark, current, unbased, rfl⟩
  | peripherals => rw [here] at fails; exact absurd fails inPeripherals_ne_error
  | peripheral => rw [here] at fails; exact absurd fails inPeripheral_ne_error
  | addressBlock => rw [here] at fails; exact absurd fails inAddressBlock_ne_error
  | register => rw [here] at fails; exact absurd fails inRegister_ne_error
  | fields => rw [here] at fails; exact absurd fails inFields_ne_error
  | finished => rw [here] at fails; exact absurd fails nofun

end

/-! ## What makes a line fail -/

theorem read_unbased {p : Peripheral} (here : r.place = .registers)
    (mark : t.mark = .opening .register) (current : r.peripheral? = some p)
    (unbased : p.baseAddress.isNull = true) :
    r.read o t = .error (.registerBeforeBase r.line p.name) := by
  unfold read
  rw [here]
  unfold inRegisters
  rw [mark, current]
  exact if_pos unbased

theorem read_overlong {e : Element} {data : String} {numeral : Numeral.TooLong}
    (tells : t.Tells e data) (known : r.TakesDecimal e)
    (long : decimal? data.toList = .error numeral) :
    r.read o t = .error (.numeralTooLong numeral) := by
  have mark := tells.1
  unfold TakesDecimal at known
  unfold read
  cases here : r.place with
  | device =>
    rw [here] at known
    have refused := describe_error (r := r) tells
      (deviceAttribute_eq_error_iff.mpr ⟨known, long⟩) changeDevice
    unfold inDevice
    rw [mark]
    simp only [List.mem_cons, List.not_mem_nil, or_false] at known
    rcases known with rfl | rfl | rfl | rfl | rfl <;> exact refused
  | cpu =>
    rw [here] at known
    have refused := describe_error (r := r) tells
      (cpuAttribute_eq_error_iff.mpr ⟨known, long⟩) changeCpu
    unfold inCpu
    rw [mark]
    exact refused
  | interrupt =>
    rw [here] at known
    have refused := describe_error (r := r) tells
      (interruptAttribute_eq_error_iff.mpr ⟨known, long⟩) changeInterrupt
    unfold inInterrupt
    rw [mark]
    exact refused
  | field =>
    rw [here] at known
    have refused := describe_error (r := r) tells
      (fieldAttribute_eq_error_iff.mpr ⟨known.1, long⟩) changeField
    unfold inField
    rw [mark, known.2]
    rcases known with ⟨known, -⟩
    simp only [List.mem_cons, List.not_mem_nil, or_false] at known
    rcases known with rfl | rfl <;> exact refused
  | _ => rw [here] at known; exact absurd known not_false

/-- The line closes the device. -/
def ClosesDevice (r : Reader) (line : String) : Prop :=
  r.place = .device ∧ ∃ t, Tag.ofLine? line = some t ∧ t.mark = .closing .device

/-- The line begins a register of the peripheral, whose base address is not set. -/
def BeginsUnbased (r : Reader) (line : String) (p : Peripheral) : Prop :=
  r.place = .registers ∧ (∃ t, Tag.ofLine? line = some t ∧ t.mark = .opening .register) ∧
    r.peripheral? = some p ∧ p.baseAddress = .null

/-- The line holds a decimal numeral of this many digits, which are too many. -/
def HoldsOverlong (r : Reader) (line : String) (digits : Nat) : Prop :=
  ∃ t e data, Tag.ofLine? line = some t ∧ t.Tells e data ∧ r.TakesDecimal e ∧
    (∀ c ∈ data.toList, c.isDigit) ∧ maxDigits < data.toList.length ∧ digits = data.toList.length

/-- The lines that fail, told from the line and the place where it stands. -/
theorem feed_fault_eq_some_iff (line : String) (fault : Fault) :
    (r.feed o line).fault = some fault ↔
      (∃ p, r.BeginsUnbased line p ∧ fault = .registerBeforeBase (r.line + 1) p.name) ∨
        ∃ digits, r.HoldsOverlong line digits ∧ fault = .numeralTooLong ⟨digits⟩ := by
  constructor
  · refine feed_cases (motive := fun step => step.fault = some fault → _) line
      (fun _ fails => absurd fails nofun) (fun _ _ _ _ _ fails => absurd fails nofun) ?_
    intro t found tagged fails same
    cases same
    obtain ⟨p, here, mark, current, unbased, rfl⟩ |
      ⟨e, data, numeral, tells, known, refused, rfl⟩ := read_eq_error fails
    · exact Or.inl ⟨p, ⟨here, ⟨t, tagged, mark⟩, current, Value.isNull_iff.mp unbased⟩, rfl⟩
    · obtain ⟨all, long, length⟩ := (Numeral.decimal?_eq_error_iff _ _).mp refused
      exact Or.inr ⟨numeral.digits, ⟨t, e, data, tagged, tells, known, all, long, length⟩, rfl⟩
  · rintro (⟨p, ⟨here, ⟨t, tagged, mark⟩, current, unbased⟩, rfl⟩ |
      ⟨digits, ⟨t, e, data, tagged, tells, known, all, long, length⟩, rfl⟩)
    · have fails : read o { r with line := r.line + 1 } t =
          .error (.registerBeforeBase (r.line + 1) p.name) :=
        read_unbased here mark current (Value.isNull_iff.mpr unbased)
      rw [feed_of_tag tagged, fails]
      rfl
    · have refused : decimal? data.toList = .error ⟨digits⟩ :=
        (Numeral.decimal?_eq_error_iff _ _).mpr ⟨all, long, length⟩
      have fails : read o { r with line := r.line + 1 } t = .error (.numeralTooLong ⟨digits⟩) :=
        read_overlong tells known refused
      rw [feed_of_tag tagged, fails]
      rfl

/-! ## Lines and places of a run -/

theorem Effect.line_eq {next : Reader} {notices : List Notice}
    (effect : Effect o r t next notices) : next.line = r.line := by
  cases effect <;> rfl

theorem line_feed (line : String) : (r.feed o line).reader.line = r.line + 1 :=
  feed_cases (motive := fun step => step.reader.line = r.line + 1) line (fun _ => rfl)
    (fun _ _ _ _ ok => (effect_of_read ok).line_eq) (fun _ _ _ _ => rfl)

theorem line_fed (lines : List String) : (fed o r lines).line = r.line + lines.length := by
  induction lines generalizing r with
  | nil => rfl
  | cons line rest ih =>
    rw [fed_cons, ih, line_feed, List.length_cons]
    omega

theorem Effect.finished {next : Reader} {notices : List Notice}
    (effect : Effect o r t next notices) (ends : next.place = .finished) :
    r.place = .finished ∨ r.place = .device ∧ t.mark = .closing .device := by
  cases effect with
  | ignored | peripheralSkipped | valuesOpened | valuesClosed => exact Or.inl ends
  | passed passage =>
    generalize r.place = source at passage ⊢
    generalize t.mark = m at passage ⊢
    cases passage <;> first | exact Or.inr ⟨rfl, rfl⟩ | exact absurd ends nofun
  | deviceDescribed here | cpuDescribed here | peripheralDescribed here | blockDescribed here
  | interruptDescribed here | registerDescribed here | fieldDescribed here =>
    exact absurd (here.symm.trans ends) nofun
  | _ => exact absurd ends nofun

/-- Behind the device a line is only counted. -/
theorem feed_of_finished (behind : r.place = .finished) (line : String) :
    r.feed o line = { reader := { r with line := r.line + 1 } } := by
  cases tagged : Tag.ofLine? line with
  | none =>
    unfold feed
    rw [tagged]
  | some t =>
    rw [feed_of_tag tagged]
    unfold read
    rw [behind]
    rfl

theorem finished_feed_iff (line : String) :
    (r.feed o line).reader.place = .finished ↔ r.place = .finished ∨ r.ClosesDevice line := by
  constructor
  · refine feed_cases (motive := fun step => step.reader.place = .finished → _) line
      (fun _ ends => Or.inl ends) ?_ (fun _ _ _ _ ends => Or.inl ends)
    intro t next notices tagged ok ends
    obtain behind | ⟨here, mark⟩ := (effect_of_read ok).finished ends
    · exact Or.inl behind
    · exact Or.inr ⟨here, t, tagged, mark⟩
  · rintro (behind | ⟨here, t, tagged, mark⟩)
    · rw [feed_of_finished behind]
      exact behind
    · rw [feed_of_tag tagged]
      unfold read
      rw [here]
      unfold inDevice
      rw [mark]
      rfl

theorem smooth_of_finished (behind : r.place = .finished) (lines : List String) :
    Smooth o r lines ∧ (fed o r lines).place = .finished := by
  induction lines generalizing r with
  | nil => exact ⟨trivial, behind⟩
  | cons line rest ih =>
    have step := feed_of_finished (o := o) behind line
    have later := ih (r := (r.feed o line).reader) (by rw [step]; exact behind)
    exact ⟨⟨by rw [step], later.1⟩, later.2⟩

/-- A run ends behind the device exactly if one of its lines closes the device. -/
theorem finished_fed_iff (start : r.place ≠ .finished) (lines : List String) :
    (fed o r lines).place = .finished ↔
      ∃ before line after, lines = before ++ line :: after ∧
        (fed o r before).ClosesDevice line := by
  constructor
  · induction lines generalizing r with
    | nil => exact fun ends => absurd ends start
    | cons line rest ih =>
      intro ends
      by_cases closes : r.ClosesDevice line
      · exact ⟨[], line, rest, rfl, closes⟩
      · have stays : (r.feed o line).reader.place ≠ .finished := by
          rw [Ne, finished_feed_iff]
          exact fun ends => ends.elim start closes
        obtain ⟨before, closing, after, rfl, closes⟩ := ih stays ends
        exact ⟨line :: before, closing, after, rfl, closes⟩
  · rintro ⟨before, line, after, rfl, closes⟩
    rw [fed_append, fed_cons]
    exact (smooth_of_finished ((finished_feed_iff line).mpr (Or.inr closes)) after).2

end Reader

/-- A line closes the device, and no line before it fails. -/
def Closes (o : Settings) (lines : List String) : Prop :=
  ∃ before line after, lines = before ++ line :: after ∧ Reader.Smooth o {} before ∧
    (Reader.fed o {} before).ClosesDevice line

section

variable {o : Settings} {lines : List String}

theorem closes_iff :
    Closes o lines ↔ Reader.Smooth o {} lines ∧ (Reader.fed o {} lines).place = .finished := by
  rw [Reader.finished_fed_iff (by decide)]
  constructor
  · rintro ⟨before, line, after, rfl, smooth, closes⟩
    have behind := (Reader.finished_feed_iff (o := o) line).mpr (Or.inr closes)
    have passes : ((Reader.fed o {} before).feed o line).fault = none := by
      obtain ⟨here, t, tagged, mark⟩ := closes
      rw [Reader.feed_of_tag tagged]
      unfold Reader.read
      rw [here]
      unfold Reader.inDevice
      rw [mark]
      rfl
    refine ⟨?_, before, line, after, rfl, closes⟩
    rw [Reader.smooth_append]
    exact ⟨smooth, passes, (Reader.smooth_of_finished behind after).1⟩
  · rintro ⟨smooth, before, line, after, rfl, closes⟩
    rw [Reader.smooth_append] at smooth
    exact ⟨before, line, after, rfl, smooth.1, closes⟩

/-- The end of a reading is the first fault of its lines, or else what the end of the input says. -/
theorem read_fault :
    (read o lines).fault =
      match (Reading.readLines o {} lines).fault with
      | some fault => some fault
      | none =>
        if (Reader.fed o {} lines).place = .finished then none
        else some (.truncated lines.length (Reader.fed o {} lines).place) := by
  unfold read Reading.proceed
  cases stopped : (Reading.readLines o {} lines).fault with
  | some fault => exact stopped
  | none =>
    have smooth := (Reading.readLines_fault_eq_none_iff rfl lines).mp stopped
    have same : (Reading.readLines o {} lines).reader = Reader.fed o {} lines :=
      (Reading.readLines_of_smooth rfl smooth).1
    have counted : (Reader.fed o {} lines).line = lines.length := by
      rw [Reader.line_fed]
      exact Nat.zero_add _
    dsimp only
    rw [same, ← counted]
    unfold Reader.finish
    split <;> rfl

theorem read_fault_of_smooth (smooth : Reader.Smooth o {} lines) :
    (read o lines).fault =
      if (Reader.fed o {} lines).place = .finished then none
      else some (.truncated lines.length (Reader.fed o {} lines).place) := by
  rw [read_fault, (Reading.readLines_fault_eq_none_iff rfl lines).mpr smooth]

/-- A fault other than that of the end of the input is the first fault of the lines. -/
theorem read_fault_of_line {fault : Fault} (inLine : ∀ n q, fault ≠ .truncated n q) :
    (read o lines).fault = some fault ↔
      ∃ before line after, lines = before ++ line :: after ∧ Reader.Smooth o {} before ∧
        ((Reader.fed o {} before).feed o line).fault = some fault := by
  rw [← Reading.readLines_fault_eq_some_iff (s := {}) rfl, read_fault]
  cases stopped : (Reading.readLines o {} lines).fault with
  | some first => exact Iff.rfl
  | none =>
    refine ⟨fun ends => ?_, nofun⟩
    dsimp only at ends
    split at ends
    · exact absurd ends nofun
    · exact absurd (Option.some.inj ends).symm (inLine _ _)

/-- Unless the reading ends with the fault of a line, its lines are smooth. -/
theorem smooth_of_read_fault
    (passes : ∀ fault, (read o lines).fault = some fault → ∃ n q, fault = .truncated n q) :
    Reader.Smooth o {} lines := by
  cases stopped : (Reading.readLines o {} lines).fault with
  | none => exact (Reading.readLines_fault_eq_none_iff (s := {}) rfl lines).mp stopped
  | some fault =>
    have ends : (read o lines).fault = some fault := by rw [read_fault, stopped]
    obtain ⟨n, q, rfl⟩ := passes fault ends
    obtain ⟨before, line, after, -, -, fails⟩ :=
      (Reading.readLines_fault_eq_some_iff (s := {}) rfl lines _).mp stopped
    obtain ⟨p, -, same⟩ | ⟨digits, -, same⟩ := (Reader.feed_fault_eq_some_iff line _).mp fails
    · exact absurd same nofun
    · exact absurd same nofun

theorem read_fault_eq_none_iff : (read o lines).fault = none ↔ Closes o lines := by
  rw [closes_iff]
  constructor
  · intro ends
    have smooth : Reader.Smooth o {} lines :=
      smooth_of_read_fault fun fault stopped => absurd (ends.symm.trans stopped) nofun
    refine ⟨smooth, ?_⟩
    rw [read_fault_of_smooth smooth] at ends
    by_contra elsewhere
    rw [if_neg elsewhere] at ends
    exact absurd ends nofun
  · rintro ⟨smooth, behind⟩
    rw [read_fault_of_smooth smooth, if_pos behind]

theorem read_fault_eq_truncated_iff (n : Nat) (q : Place) :
    (read o lines).fault = some (.truncated n q) ↔
      Reader.Smooth o {} lines ∧ ¬Closes o lines ∧ n = lines.length ∧
        q = (Reader.fed o {} lines).place := by
  constructor
  · intro ends
    have smooth : Reader.Smooth o {} lines := smooth_of_read_fault fun fault stopped =>
      ⟨n, q, Option.some.inj (stopped.symm.trans ends)⟩
    have opened : ¬Closes o lines := by
      rw [← read_fault_eq_none_iff, ends]
      exact nofun
    rw [read_fault_of_smooth smooth] at ends
    split at ends
    · exact absurd ends nofun
    · cases ends
      exact ⟨smooth, opened, rfl, rfl⟩
  · rintro ⟨smooth, opened, rfl, rfl⟩
    rw [closes_iff, and_iff_right smooth] at opened
    rw [read_fault_of_smooth smooth, if_neg opened]

theorem read_fault_eq_unbased_iff (n : Nat) (name : Value) :
    (read o lines).fault = some (.registerBeforeBase n name) ↔
      ∃ before line after p, lines = before ++ line :: after ∧ Reader.Smooth o {} before ∧
        (Reader.fed o {} before).BeginsUnbased line p ∧ n = before.length + 1 ∧ name = p.name := by
  have counted (before : List String) : (Reader.fed o {} before).line = before.length := by
    rw [Reader.line_fed]
    exact Nat.zero_add _
  have inLine : ∀ m q, Fault.registerBeforeBase n name ≠ .truncated m q := nofun
  rw [read_fault_of_line inLine]
  constructor
  · rintro ⟨before, line, after, rfl, smooth, fails⟩
    obtain ⟨p, begins, same⟩ | ⟨digits, -, same⟩ :=
      (Reader.feed_fault_eq_some_iff line _).mp fails
    · rw [counted] at same
      cases same
      exact ⟨before, line, after, p, rfl, smooth, begins, rfl, rfl⟩
    · exact absurd same nofun
  · rintro ⟨before, line, after, p, rfl, smooth, begins, rfl, rfl⟩
    refine ⟨before, line, after, rfl, smooth, (Reader.feed_fault_eq_some_iff line _).mpr ?_⟩
    exact Or.inl ⟨p, begins, by rw [counted]⟩

theorem read_fault_eq_overlong_iff (digits : Nat) :
    (read o lines).fault = some (.numeralTooLong ⟨digits⟩) ↔
      ∃ before line after, lines = before ++ line :: after ∧ Reader.Smooth o {} before ∧
        (Reader.fed o {} before).HoldsOverlong line digits := by
  have inLine : ∀ m q, Fault.numeralTooLong ⟨digits⟩ ≠ .truncated m q := nofun
  rw [read_fault_of_line inLine]
  constructor
  · rintro ⟨before, line, after, rfl, smooth, fails⟩
    obtain ⟨p, -, same⟩ | ⟨found, holds, same⟩ := (Reader.feed_fault_eq_some_iff line _).mp fails
    · exact absurd same nofun
    · cases same
      exact ⟨before, line, after, rfl, smooth, holds⟩
  · rintro ⟨before, line, after, rfl, smooth, holds⟩
    refine ⟨before, line, after, rfl, smooth, (Reader.feed_fault_eq_some_iff line _).mpr ?_⟩
    exact Or.inr ⟨digits, holds, rfl⟩

end

/-- In every reachable state the entity that the place speaks of exists, and a reading ends in
exactly one of four ways: with the device, at the end of the input, or at a line of two kinds. -/
theorem housed_and_ending (o : Settings) (lines : List String) :
    (Reader.fed o {} lines).Housed ∧
      ((read o lines).fault = none ↔ Closes o lines) ∧
      (∀ n q, (read o lines).fault = some (.truncated n q) ↔
        Reader.Smooth o {} lines ∧ ¬Closes o lines ∧ n = lines.length ∧
          q = (Reader.fed o {} lines).place) ∧
      (∀ n name, (read o lines).fault = some (.registerBeforeBase n name) ↔
        ∃ before line after p, lines = before ++ line :: after ∧ Reader.Smooth o {} before ∧
          (Reader.fed o {} before).BeginsUnbased line p ∧ n = before.length + 1 ∧
          name = p.name) ∧
      ∀ digits, (read o lines).fault = some (.numeralTooLong ⟨digits⟩) ↔
        ∃ before line after, lines = before ++ line :: after ∧ Reader.Smooth o {} before ∧
          (Reader.fed o {} before).HoldsOverlong line digits :=
  ⟨(Reader.consistent_fed o lines).housed, read_fault_eq_none_iff, read_fault_eq_truncated_iff,
    read_fault_eq_unbased_iff, read_fault_eq_overlong_iff⟩

end RegisterMap.Document
