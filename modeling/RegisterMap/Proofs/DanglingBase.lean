import RegisterMap.Proofs.Reader.Saying
import RegisterMap.Proofs.Resumed

/-!
Peripherals whose base there is not. The element of such a peripheral can be left out with all its
lines: among the peripherals none of them says anything, so that the reader behind the element is
the one in front of it, and no more than one notice tells of it.
-/

set_option autoImplicit false

namespace RegisterMap.Document

/-- The line stands inside an element among the peripherals: it neither opens a peripheral nor
closes their list. -/
def InSkipped (line : String) : Prop :=
  ¬ HasMark (.opening .peripheral) line ∧ ¬ HasMark (.closing .peripherals) line

instance (line : String) : Decidable (InSkipped line) :=
  inferInstanceAs (Decidable (_ ∧ _))

namespace Reader

variable {o : Settings} {r : Reader} {t : Tag} {line name : String}

theorem findPeripheral?_eq_none_iff (d : Device) (name : String) :
    d.findPeripheral? (.ofString name) = none ↔ ∀ p ∈ d.peripherals, p.name ≠ .ofString name := by
  rw [Device.findPeripheral?, List.find?_eq_none]
  simp only [Value.ofString, Value.alike_text_iff, ne_eq]

theorem feed_dangling (here : r.place = .peripherals) (tagged : Tag.ofLine? line = some t)
    (mark : t.mark = .opening .peripheral) (derived : t.derivedFrom = some name)
    (missing : r.device.findPeripheral? (.ofString name) = none) :
    r.feed o line =
      { reader := { r with line := r.line + 1 }
        notices := [.unknownBase (r.line + 1) name] } := by
  rw [feed_of_tag tagged, read, here]
  simp only [inPeripherals, mark, derived, missing]
  rfl

theorem counts_of_inSkipped (here : r.place = .peripherals) (inner : InSkipped line) :
    r.Counts o line := by
  intro n
  cases tagged : Tag.ofLine? line with
  | none => exact feed_of_inert (.untagged tagged)
  | some t =>
    have place : ({ r with line := n } : Reader).place = .peripherals := here
    refine feed_of_ignored tagged ?_ ?_
    · rw [place]
      intro boundary
      obtain mark | boundary := List.mem_cons.mp boundary
      · exact inner.2 (hasMark_iff.mpr ⟨t, tagged, mark⟩)
      · exact inner.1 (hasMark_iff.mpr ⟨t, tagged, List.mem_singleton.mp boundary⟩)
    · rw [place]
      intro e data _ k listed
      cases listed

end Reader

namespace Reading

/-- Behind the lines of an element that is skipped a reading stands as it did in front of them, but
for the line, and for the notice that the base is not known. -/
theorem readLines_skipped {o : Settings} {s : Reading} {t : Tag} {line name : String}
    {skipped : List String} (going : s.fault = none) (here : s.reader.place = .peripherals)
    (tagged : Tag.ofLine? line = some t) (mark : t.mark = .opening .peripheral)
    (derived : t.derivedFrom = some name)
    (missing : s.reader.device.findPeripheral? (.ofString name) = none)
    (inner : ∀ next ∈ skipped, InSkipped next) :
    s.readLines o (line :: skipped) =
      { reader := { s.reader with line := s.reader.line + (skipped.length + 1) }
        notices := s.notices ++ #[.unknownBase (s.reader.line + 1) name]
        fault := none } := by
  have opened := readLine_going (o := o) going line
  rw [Reader.feed_dangling here tagged mark derived missing] at opened
  have behind := readLines_of_counts (o := o) (s := s.readLine o line) (by rw [opened])
    fun next member => Reader.counts_of_inSkipped (by rw [opened]; exact here) (inner next member)
  rw [opened] at behind
  rw [readLines, List.foldl_cons, opened, Nat.add_comm skipped.length, ← Nat.add_assoc]
  exact behind

end Reading

/-- The element of a peripheral whose base is not among the peripherals so far can be left out. The
model stays the same, and so does the end of the reading; what is told is one notice less, and what
follows it moves by the lines that are gone. Behind the element the reader is as it was. -/
theorem dangling_element_is_skipped {o : Settings} {before skipped : List String}
    {line name : String} {t : Tag} (smooth : Reader.Smooth o {} before)
    (here : (Reader.fed o {} before).place = .peripherals)
    (tagged : Tag.ofLine? line = some t) (mark : t.mark = .opening .peripheral)
    (derived : t.derivedFrom = some name)
    (dangling : ∀ p ∈ (Reader.fed o {} before).device.peripherals, p.name ≠ .ofString name)
    (inner : ∀ next ∈ skipped, InSkipped next) (after : List String) :
    let whole := read o (before ++ line :: (skipped ++ after))
    let left := read o (before ++ after)
    let told := (Reading.readLines o {} before).notices
    let moved : Nat → Nat := (· + (skipped.length + 1))
    whole.device = left.device ∧
      whole.fault = left.fault.map (Fault.renumber moved) ∧
      (∃ later, left.notices = told ++ later ∧
        whole.notices = told ++ #[.unknownBase (before.length + 1) name] ++
          later.map (Notice.renumber moved)) ∧
      Reader.Smooth o {} (before ++ line :: skipped) ∧
      Reader.fed o {} (before ++ line :: skipped) =
        { Reader.fed o {} before with line := before.length + (skipped.length + 1) } := by
  intro whole left told moved
  have front := Reading.readLines_run smooth
  have missing := (Reader.findPeripheral?_eq_none_iff _ name).mpr dangling
  have number : (Reader.fed o {} before).line = before.length :=
    (Reader.line_fed before).trans (Nat.zero_add _)
  have behind := Reading.readLines_skipped (o := o) (s := Reading.readLines o {} before)
    (by rw [front]) (by rw [front]; exact here) tagged mark derived (by rw [front]; exact missing)
    inner
  rw [← Reading.readLines_append, front, number] at behind
  obtain ⟨smoothly, run⟩ := Reading.fed_of_going (o := o) (by rw [behind])
  have numbered : ∀ k, moved ((Reader.fed o {} before).line + k + 1) =
      before.length + (skipped.length + 1) + k + 1 := by
    intro k
    rw [number]
    simp only [moved]
    omega
  obtain ⟨device, fault, later⟩ := Reading.read_resumed (o := o) front behind numbered after
  rw [List.append_assoc, List.cons_append] at device fault later
  exact ⟨device, fault, later, smoothly, run.trans (by rw [behind])⟩

/-- Names are compared exactly, so that this peripheral has no base. Its register, which has no base
address to stand at, is skipped with it. -/
def danglingElement : List String :=
  ["<name>TIM3</name>", "<registers>", "<register>", "</register>", "</registers>",
    "</peripheral>"]

theorem dangling_timer_is_skipped :
    let front := ["<peripherals>", "<peripheral>", "<name>TIM2</name>", "</peripheral>"]
    let whole := read {} (front ++ "<peripheral derivedFrom=\"tim2\">" :: (danglingElement ++
      ["</peripherals>", "</device>"]))
    whole.device = (read {} (front ++ ["</peripherals>", "</device>"])).device ∧
      whole.fault = none := by
  have smooth : Reader.Smooth {} {}
      ["<peripherals>", "<peripheral>", "<name>TIM2</name>", "</peripheral>"] := by
    refine (Reading.readLines_fault_eq_none_iff (s := {}) rfl _).mp ?_
    decide +kernel
  have tagged : Tag.ofLine? "<peripheral derivedFrom=\"tim2\">" =
      some { name := "peripheral", derivedFrom := some "tim2" } := by decide +kernel
  have inner : ∀ next ∈ danglingElement, InSkipped next := by decide +kernel
  obtain ⟨device, fault, -⟩ := dangling_element_is_skipped smooth (by decide +kernel) tagged
    (by decide +kernel) rfl (by decide +kernel) inner ["</peripherals>", "</device>"]
  refine ⟨device, fault.trans ?_⟩
  decide +kernel

end RegisterMap.Document
