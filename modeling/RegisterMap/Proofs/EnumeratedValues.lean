import RegisterMap.Proofs.Reader.Saying
import RegisterMap.Proofs.Reader.Segment
import RegisterMap.Proofs.Resumed

/-!
Enumerated values are opaque. From the tag that opens them up to the one that closes them, or the
field, the lines are only counted, so that any others may stand in their place. A field that is
closed closes its enumerated values as well.
-/

set_option autoImplicit false

namespace RegisterMap.Document

/-- The line leaves the enumerated values of a field open: it closes neither them nor the field. -/
def InWindow (line : String) : Prop :=
  ¬ HasMark (.closing .enumeratedValues) line ∧ ¬ HasMark (.closing .field) line

instance (line : String) : Decidable (InWindow line) :=
  inferInstanceAs (Decidable (_ ∧ _))

namespace Reader

variable {o : Settings} {r : Reader} {t : Tag} {line : String}

theorem feed_opens_values (here : r.place = .field) (tagged : Tag.ofLine? line = some t)
    (mark : t.mark = .opening .enumeratedValues) :
    r.feed o line =
      { reader := { r with line := r.line + 1, inEnumeratedValues := true } } := by
  rw [feed_of_tag tagged, read, here]
  simp only [inField, mark]
  rfl

/-- Even the tag that opens enumerated values inside of them only counts. -/
theorem counts_of_inWindow (here : r.place = .field) (opened : r.inEnumeratedValues = true)
    (inner : InWindow line) : r.Counts o line := by
  intro n
  cases tagged : Tag.ofLine? line with
  | none => exact feed_of_inert (.untagged tagged)
  | some t =>
    have place : ({ r with line := n + 1 } : Reader).place = .field := here
    have values : ({ r with line := n + 1 } : Reader).inEnumeratedValues = true := opened
    rw [feed_of_tag tagged]
    dsimp only
    generalize ({ r with line := n + 1 } : Reader) = counted at place values ⊢
    have stays : read o counted t = counted.stay := by
      unfold read
      rw [place]
      dsimp only
      unfold inField
      split
      · rename_i mark
        exact absurd (hasMark_iff.mpr ⟨t, tagged, mark⟩) inner.2
      · rw [← values]
      · rename_i mark
        exact absurd (hasMark_iff.mpr ⟨t, tagged, mark⟩) inner.1
      · rw [if_pos values]
    rw [stays]
    rfl

theorem feed_closes_field (here : r.place = .field) (closes : HasMark (.closing .field) line) :
    (r.feed o line).reader =
      { r with place := .fields, line := r.line + 1, inEnumeratedValues := false } := by
  obtain ⟨t, tagged, mark⟩ := hasMark_iff.mp closes
  rw [feed_of_tag tagged, read, here]
  simp only [inField, mark]
  rfl

/-- A field begins outside any enumerated values, as far as those of other fields go. -/
theorem feed_opens_field (here : r.place = .fields) (opens : HasMark (.opening .field) line) :
    (r.feed o line).reader.place = .field ∧
      (r.feed o line).reader.inEnumeratedValues = r.inEnumeratedValues := by
  obtain ⟨t, tagged, mark⟩ := hasMark_iff.mp opens
  rw [feed_of_tag tagged, read, here]
  simp only [inFields, mark]
  exact ⟨rfl, rfl⟩

/-- Where a field is closed its enumerated values are closed as well, so that no field behind it is
opened inside of them. -/
theorem outside_values_of_closed {lines : List String} {closing : String}
    (within : (fed o {} lines).place = .field) (closes : HasMark (.closing .field) closing) :
    let behind := fed o {} (lines ++ [closing])
    behind.place = .fields ∧ behind.inEnumeratedValues = false ∧
      ∀ more next, (behind.fed o more).place = .fields → HasMark (.opening .field) next →
        ((behind.fed o more).feed o next).reader.place = .field ∧
          ((behind.fed o more).feed o next).reader.inEnumeratedValues = false := by
  intro behind
  have closed : behind = _ := (fed_append ..).trans (feed_closes_field (o := o) within closes)
  refine ⟨by rw [closed], by rw [closed], fun more next outside opens => ?_⟩
  obtain ⟨place, same⟩ := feed_opens_field (o := o) outside opens
  refine ⟨place, same.trans ?_⟩
  rw [← fed_append] at outside ⊢
  exact (tidy_fed o _).values (outside ▸ nofun)

end Reader

namespace Reading

/-- Behind the lines of enumerated values a reading stands as it did in front of them, but for the
line, and for being inside of them. -/
theorem readLines_window {o : Settings} {s : Reading} {t : Tag} {opening : String}
    {window : List String} (going : s.fault = none) (here : s.reader.place = .field)
    (tagged : Tag.ofLine? opening = some t) (mark : t.mark = .opening .enumeratedValues)
    (inner : ∀ line ∈ window, InWindow line) :
    s.readLines o (opening :: window) =
      { reader := { s.reader with
          line := s.reader.line + (window.length + 1)
          inEnumeratedValues := true }
        notices := s.notices
        fault := none } := by
  have opened := readLine_going (o := o) going opening
  rw [Reader.feed_opens_values here tagged mark] at opened
  have behind := readLines_of_counts (o := o) (s := s.readLine o opening) (by rw [opened])
    fun line member =>
      Reader.counts_of_inWindow (by rw [opened]; exact here) (by rw [opened]) (inner line member)
  rw [opened] at behind
  have silent : s.notices ++ ([] : List Notice) = s.notices := by
    apply Array.toList_inj.mp
    simp
  rw [readLines, List.foldl_cons, opened, Nat.add_comm window.length, ← Nat.add_assoc, ← silent]
  exact behind

end Reading

/-- The lines of enumerated values may be exchanged for any others that leave them open. The model
stays the same, and so does the end of the reading; what is told stays the same up to the numbers
of the lines behind them. Where the field is closed, no field that is opened behind it is inside of
enumerated values. -/
theorem enumerated_values_are_opaque {o : Settings} {before window other : List String}
    {opening : String} {t : Tag} (smooth : Reader.Smooth o {} before)
    (here : (Reader.fed o {} before).place = .field) (tagged : Tag.ofLine? opening = some t)
    (mark : t.mark = .opening .enumeratedValues) (inner : ∀ line ∈ window, InWindow line)
    (otherInner : ∀ line ∈ other, InWindow line) (after : List String) :
    let one := read o (before ++ opening :: (window ++ after))
    let two := read o (before ++ opening :: (other ++ after))
    let told := (Reading.readLines o {} before).notices
    let moved : Nat → Nat := fun n => n - window.length + other.length
    two.device = one.device ∧
      two.fault = one.fault.map (Fault.renumber moved) ∧
      (∃ later, one.notices = told ++ later ∧
        two.notices = told ++ later.map (Notice.renumber moved)) ∧
      ∀ closing, HasMark (.closing .field) closing →
        let behind := Reader.fed o {} (before ++ opening :: (window ++ [closing]))
        behind.place = .fields ∧ behind.inEnumeratedValues = false ∧
          ∀ more next, (behind.fed o more).place = .fields → HasMark (.opening .field) next →
            ((behind.fed o more).feed o next).reader.place = .field ∧
              ((behind.fed o more).feed o next).reader.inEnumeratedValues = false := by
  intro one two told moved
  have front := Reading.readLines_run smooth
  have number : (Reader.fed o {} before).line = before.length :=
    (Reader.line_fed before).trans (Nat.zero_add _)
  have behind : ∀ lines : List String, (∀ line ∈ lines, InWindow line) →
      Reading.readLines o {} (before ++ opening :: lines) =
        { reader := { Reader.fed o {} before with
            line := before.length + (lines.length + 1)
            inEnumeratedValues := true }
          notices := told
          fault := none } := by
    intro lines inWindow
    have opened := Reading.readLines_window (o := o) (s := Reading.readLines o {} before)
      (by rw [front]) (by rw [front]; exact here) tagged mark inWindow
    rw [← Reading.readLines_append, front, number] at opened
    exact opened
  have first := behind window inner
  have numbered : ∀ k, moved (before.length + (window.length + 1) + k + 1) =
      before.length + (other.length + 1) + k + 1 := by
    intro k
    simp only [moved]
    omega
  obtain ⟨device, fault, later⟩ :=
    Reading.read_resumed (o := o) first (behind other otherInner) numbered after
  rw [List.append_assoc, List.append_assoc, List.cons_append, List.cons_append]
    at device fault later
  refine ⟨device, fault, later, fun closing closes => ?_⟩
  -- Behind the lines of the window the reader is still at the field, which is then closed.
  have within : (Reader.fed o {} (before ++ opening :: window)).place = .field := by
    rw [(Reading.fed_of_going (by rw [first])).2, first]
    exact here
  rw [← List.cons_append, ← List.append_assoc]
  exact Reader.outside_values_of_closed within closes

/-- The start of a description, up to a field with a name. -/
def upToField : List String :=
  ["<peripherals>", "<peripheral>", "<baseAddress>0x40</baseAddress>", "<registers>", "<register>",
    "<fields>", "<field>", "<name>EN</name>"]

/-- Neither of the two windows names the field, and the description breaks off behind it. -/
theorem values_of_enable_are_opaque :
    let one := read {} (upToField ++ "<enumeratedValues>" ::
      (["<name>MODE</name>", "<enumeratedValues>", "<access>read-only</access>"] ++ ["</field>"]))
    let two := read {} (upToField ++ "<enumeratedValues>" :: (["</register>"] ++ ["</field>"]))
    two.device = one.device ∧ one.fault = some (.truncated 13 .fields) ∧
      two.fault = some (.truncated 11 .fields) := by
  have smooth : Reader.Smooth {} {} upToField := by
    refine (Reading.readLines_fault_eq_none_iff (s := {}) rfl _).mp ?_
    decide +kernel
  have tagged : Tag.ofLine? "<enumeratedValues>" = some { name := "enumeratedValues" } := by
    decide +kernel
  have one : (read {} (upToField ++ "<enumeratedValues>" ::
      (["<name>MODE</name>", "<enumeratedValues>", "<access>read-only</access>"] ++
        ["</field>"]))).fault = some (.truncated 13 .fields) := by decide +kernel
  have inner : ∀ line ∈ ["<name>MODE</name>", "<enumeratedValues>", "<access>read-only</access>"],
      InWindow line := by decide +kernel
  have otherInner : ∀ line ∈ ["</register>"], InWindow line := by decide +kernel
  obtain ⟨device, fault, -⟩ := enumerated_values_are_opaque smooth (by decide +kernel) tagged
    (by decide +kernel) inner otherInner ["</field>"]
  rw [one] at fault
  exact ⟨device, one, fault⟩

end RegisterMap.Document
