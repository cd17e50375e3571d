import RegisterMap.Proofs.InterruptTable
import RegisterMap.Proofs.Reader.Endings
import RegisterMap.Proofs.Reader.Renumber
import RegisterMap.Proofs.Reader.Segment
import RegisterMap.Proofs.Reader.SideBySide

/-!
Peripherals that do not depend on each other. Nothing is carried over from the element of one
peripheral to that of the next, apart from the vector numbers that are taken. So two elements that
derive nothing and share no vector number can stand in either order: their two peripherals are
exchanged, interrupts may have been added in another order, and nothing else can be told from the
model, nor from any later line, unless it derives a peripheral.
-/

set_option autoImplicit false

namespace RegisterMap

/-- Two devices that differ at most in the order of two peripherals behind the earlier ones, and in
that of their interrupts. -/
structure Device.Exchanged (earlier : List Peripheral) (a b : Peripheral) (d e : Device) :
    Prop where
  peripherals : ∃ later, d.peripherals = earlier ++ a :: b :: later ∧
    e.peripherals = earlier ++ b :: a :: later
  interrupts : d.interrupts.Perm e.interrupts
  same : e = { d with peripherals := e.peripherals, interrupts := e.interrupts }

namespace Document

/-- No vector number is that of an interrupt on either side. -/
def Apart (ours theirs : List Interrupt) : Prop :=
  ∀ i ∈ ours, ∀ j ∈ theirs, i.vector ≠ .null → j.vector ≠ i.vector

/-- The line derives no peripheral. -/
def Underived (line : String) : Prop :=
  ∀ t, Tag.ofLine? line = some t → t.mark = .opening .peripheral → t.derivedFrom = none

namespace Reader

/-- The lines are the element of a peripheral: the first one opens it, derived from nothing, only
the last one leaves it, and all of them can be read. -/
structure Encloses (o : Settings) (r : Reader) (lines : List String) : Prop where
  begins : ∃ opening body t, lines = opening :: body ∧ Tag.ofLine? opening = some t ∧
    t.mark = .opening .peripheral ∧ t.derivedFrom = none ∧
    Inside o (r.feed o opening).reader body
  smooth : Smooth o r lines
  ends : (fed o r lines).place = .peripherals

section

variable {o : Settings} {r s : Reader} {lines : List String}

theorem smooth_iff_trace : Smooth o r lines ↔ ∀ told ∈ trace o r lines, told.2.2 = none := by
  induction lines generalizing r with
  | nil => simp [trace]
  | cons line rest ih => simp only [Smooth, trace, List.forall_mem_cons, ih]

/-! ## One element -/

/-- An element adds one peripheral, and some of the interrupts that it closes. -/
theorem Encloses.adds (element : Encloses o r lines) (here : r.place = .peripherals) :
    ∃ p entries, StoredFrom (closedInterrupts o r lines) entries ∧
      (fed o r lines).device = { r.device with
        peripherals := r.device.peripherals ++ [p]
        interrupts := r.device.interrupts ++ entries } := by
  obtain ⟨opening, body, t, rfl, tagged, mark, underived, inside⟩ := element.begins
  obtain ⟨entries, interrupts, stored⟩ := stored_fed (o := o) (r := r) (opening :: body)
  have opened : (r.feed o opening).reader.device.peripherals =
      r.device.peripherals ++ [({} : Peripheral)] := by
    rw [feed_of_tag tagged, read, here]
    simp only [inPeripherals, mark, underived]
    rfl
  obtain ⟨p, peripherals⟩ := earlier_fed inside opened
  have elsewhere : r.place ≠ .device ∧ r.place ≠ .cpu := by
    rw [here]
    decide
  refine ⟨p, entries, stored, ?_⟩
  rw [fed_cons] at interrupts ⊢
  rw [own_fed inside, own_feed elsewhere opening, peripherals, interrupts]

/-! ## One element behind another -/

/-- Interrupts without a common number do not take a place from each other. -/
theorem admits_of_apart {d e : Device} {before entries later : List (Value × Interrupt)}
    {closed : List Interrupt} {i : Interrupt} (stored : StoredFrom closed entries)
    (fits : i.Fits) (others : ∀ j ∈ closed, j.Fits)
    (apart : ∀ j ∈ closed, j.vector ≠ .null → i.vector ≠ j.vector)
    (one : d.interrupts = before ++ later) (other : e.interrupts = before ++ entries ++ later) :
    e.admits i = d.admits i := by
  obtain null | ⟨n, -, number⟩ := fits.vector
  · rw [Device.admits, Device.admits, null]
    rfl
  have free : (entries.any fun entry => entry.1.alike i.vector) = false := by
    rw [List.any_eq_false]
    intro entry member
    obtain ⟨j, listed, rfl, set⟩ := stored entry member
    obtain null | ⟨m, -, other⟩ := (others j listed).vector
    · exact absurd null set
    have differs := apart j listed set
    rw [number, other] at differs
    rw [number, other, Value.alike_int, beq_iff_eq]
    intro same
    exact differs (congrArg Value.int same.symm)
  unfold Device.admits Device.hasVector
  rw [one, other, List.any_append, List.any_append, List.any_append, free, Bool.or_false]

theorem admits_of_perm {d e : Device} (perm : d.interrupts.Perm e.interrupts) (i : Interrupt) :
    e.admits i = d.admits i := by
  unfold Device.admits Device.hasVector
  rw [perm.any_eq]

/-- Outside the element of a peripheral nothing is asked of the marks of address blocks. -/
theorem counterpart_outside {peripherals : List Peripheral}
    {interrupts : List (Value × Interrupt)} (outside : r.place.isInside = false)
    (place : s.place = r.place) (tidy : r.Tidy) (otherTidy : s.Tidy) (line : s.line = r.line)
    (device : s.device = { r.device with peripherals := peripherals, interrupts := interrupts }) :
    r.Counterpart (.exact r.device.peripherals peripherals r.device.interrupts interrupts) s := by
  have elsewhere : r.place ≠ .interrupt ∧ r.place ≠ .field := by
    constructor <;> intro same <;> rw [same] at outside <;> cases outside
  have pending : s.interrupt = r.interrupt := by
    rw [tidy.interrupt elsewhere.1, otherTidy.interrupt (place ▸ elsewhere.1)]
  have values : s.inEnumeratedValues = r.inEnumeratedValues := by
    rw [tidy.values elsewhere.2, otherTidy.values (place ▸ elsewhere.2)]
  have held : r.Counterpart (.exact r.device.peripherals peripherals r.device.interrupts interrupts)
      { r with
        device := { r.device with
          peripherals := peripherals ++ []
          interrupts := interrupts ++ [] }
        blockSeen := s.blockSeen
        blockSkipped := s.blockSkipped } := by
    refine .intro (List.append_nil _).symm .nil ?_ (List.append_nil _).symm ?_ ?_
    · exact fun inside => absurd (outside.symm.trans inside) nofun
    · exact fun inside => absurd (outside.symm.trans inside) nofun
    · intro block
      rw [block] at outside
      cases outside
  rw [List.append_nil, List.append_nil] at held
  obtain ⟨d, q, l, i, seen, skipped, within⟩ := s
  dsimp only at place line device pending values held
  rw [place, line, device, pending, values]
  exact held

theorem inside_at {body before after : List String} {line : String} (inside : Inside o r body)
    (split : body = before ++ line :: after) : (fed o r before).place.isInside = true := by
  subst split
  exact ((inside_append before (line :: after)).mp inside).2.1

/-- The only line of an element that can derive a peripheral is its first one. -/
theorem Encloses.underived (element : Encloses o r lines) {before after : List String}
    {line : String} {t : Tag} (split : lines = before ++ line :: after)
    (tagged : Tag.ofLine? line = some t) (outside : (fed o r before).place = .peripherals) :
    t.derivedFrom = none := by
  obtain ⟨opening, body, u, rfl, opens, -, underived, inside⟩ := element.begins
  cases before with
  | nil =>
    obtain ⟨rfl, -⟩ := List.cons.inj split
    cases opens.symm.trans tagged
    exact underived
  | cons first rest =>
    obtain ⟨rfl, behind⟩ := List.cons.inj split
    have within := inside_at inside behind
    rw [fed_cons] at outside
    rw [outside] at within
    cases within

/-- The other model has this peripheral and these interrupts on top. -/
def behind (d : Device) (a : Peripheral) (entries : List (Value × Interrupt)) : Contrast :=
  .exact d.peripherals (d.peripherals ++ [a]) d.interrupts (d.interrupts ++ entries)

/-- On the lines of an element agrees a reader that has read another element before, if the two
share no vector number. -/
theorem Encloses.agrees {closed : List Interrupt} {a : Peripheral}
    {entries : List (Value × Interrupt)} (element : Encloses o r lines) (fits : r.InterruptsFit)
    (stored : StoredFrom closed entries) (others : ∀ j ∈ closed, j.Fits)
    (apart : Apart closed (closedInterrupts o r lines)) {before after : List String}
    {line : String} {t : Tag} (split : lines = before ++ line :: after)
    (tagged : Tag.ofLine? line = some t)
    (held : (fed o r before).Counterpart (behind r.device a entries) (fed o s before)) :
    Agrees (behind r.device a entries) o o (fed o r before) (fed o s before) t where
  derived outside _ := .inl (element.underived split tagged outside)
  admitted here mark := by
    obtain ⟨later, added, -, interrupts, device⟩ := held.device_exact
    have closes : (fed o r before).interrupt.getD {} ∈ closedInterrupts o r lines := by
      rw [split]
      exact mem_closedInterrupts after here tagged mark
    exact admits_of_apart stored (fits_closedInterrupts fits _ closes) others
      (fun j listed set => apart j listed _ closes set) interrupts (by rw [device])
  begun _ _ _ _ _ := ⟨rfl, rfl⟩

/-- An element reads the same behind another one that shares no vector number with it. -/
theorem Encloses.follows {first second : List String} (fits : r.InterruptsFit) (tidy : r.Tidy)
    (otherTidy : (fed o r first).Tidy) (here : r.place = .peripherals)
    (one : Encloses o r first) (other : Encloses o r second)
    (apart : Apart (closedInterrupts o r first) (closedInterrupts o r second))
    {a b : Peripheral} {entries otherEntries : List (Value × Interrupt)}
    (stored : StoredFrom (closedInterrupts o r first) entries)
    (adds : (fed o r first).device = { r.device with
      peripherals := r.device.peripherals ++ [a]
      interrupts := r.device.interrupts ++ entries })
    (otherAdds : (fed o r second).device = { r.device with
      peripherals := r.device.peripherals ++ [b]
      interrupts := r.device.interrupts ++ otherEntries }) :
    Smooth o r (first ++ second) ∧ (fed o r (first ++ second)).place = .peripherals ∧
      (fed o r (first ++ second)).device = { r.device with
        peripherals := r.device.peripherals ++ [a, b]
        interrupts := r.device.interrupts ++ (entries ++ otherEntries) } := by
  -- The second element is read at once, and behind the first one as if from the same line.
  let s : Reader := { fed o r first with line := r.line }
  have held : r.Counterpart (behind r.device a entries) s :=
    counterpart_outside (by rw [here]; rfl) (one.ends.trans here.symm) tidy
      ⟨otherTidy.interrupt, otherTidy.values⟩ rfl adds
  obtain ⟨run, traced⟩ := run_alongside held fun before line after t split tagged held =>
    other.agrees fits stored (fits_closedInterrupts fits) apart split tagged held
  have smooth : Smooth o s second := by
    rw [smooth_iff_trace, traced]
    exact smooth_iff_trace.mp other.smooth
  obtain ⟨later, added, peripherals, interrupts, device⟩ := run.device_exact
  rw [otherAdds] at peripherals interrupts device
  obtain rfl := List.append_cancel_left peripherals
  obtain rfl := List.append_cancel_left interrupts
  obtain ⟨renumbered, smoothBehind⟩ := fed_renumber (o := o) (r := s) second (fed o r first).line
  rw [smooth_append, fed_append]
  refine ⟨⟨one.smooth, smoothBehind.mpr smooth⟩, ?_, ?_⟩
  · exact (congrArg Reader.place renumbered).trans (run.place_eq.trans other.ends)
  · refine (congrArg Reader.device renumbered).trans (device.trans ?_)
    rw [List.append_assoc, List.append_assoc]
    rfl

/-! ## Both orders -/

/-- A reader of later lines that derive no peripheral agrees with one that has the same interrupts
in another order. -/
theorem agrees_of_underived {earlier otherEarlier : List Peripheral}
    {stored otherStored : List (Value × Interrupt)} (perm : stored.Perm otherStored)
    {line : String} {t : Tag} (underived : Underived line) (tagged : Tag.ofLine? line = some t)
    (held : r.Counterpart (.exact earlier otherEarlier stored otherStored) s) :
    Agrees (.exact earlier otherEarlier stored otherStored) o o r s t where
  derived _ mark := .inl (underived t tagged mark)
  admitted _ _ := by
    obtain ⟨later, added, -, interrupts, device⟩ := held.device_exact
    apply admits_of_perm
    rw [interrupts, device]
    exact perm.append_right added
  begun _ _ _ _ _ := ⟨rfl, rfl⟩

/-- Lines that derive no peripheral do not bring out in which order two peripherals and some
interrupts were added. -/
theorem exchanged_run {earlier : List Peripheral} {a b : Peripheral}
    {stored otherStored : List (Value × Interrupt)} {later : List String}
    (held : r.Counterpart (.exact (earlier ++ [a, b]) (earlier ++ [b, a]) stored otherStored) s)
    (perm : stored.Perm otherStored) (underived : ∀ line ∈ later, Underived line) :
    (fed o r later).device.Exchanged earlier a b (fed o s later).device ∧
      trace o s later = trace o r later ∧
      (fed o s later).finish.notices = (fed o r later).finish.notices ∧
      (fed o s later).finish.fault = (fed o r later).finish.fault := by
  have together : (fed o r later).Counterpart
      (.exact (earlier ++ [a, b]) (earlier ++ [b, a]) stored otherStored) (fed o s later) ∧
      trace o s later = trace o r later := by
    refine run_alongside held fun before line after t split tagged held => ?_
    have member : line ∈ later := by simp [split]
    exact agrees_of_underived perm (underived line member) tagged held
  obtain ⟨run, traced⟩ := together
  have lengths : (earlier ++ [b, a]).length = (earlier ++ [a, b]).length := by simp
  refine ⟨?_, traced, finish_alongside run lengths perm.length_eq.symm⟩
  obtain ⟨rest, added, peripherals, interrupts, same⟩ := run.device_exact
  rw [List.append_assoc] at peripherals
  rw [List.append_assoc] at same
  refine ⟨⟨rest, peripherals, by rw [same]; rfl⟩, ?_, by rw [same]⟩
  rw [interrupts, same]
  exact perm.append_right added

/-- Elements of two peripherals that derive nothing and share no vector number can stand in either
order. Their peripherals are exchanged, and apart from the order in which interrupts were added
nothing else is different, however reading goes on without deriving a peripheral. -/
theorem independent_peripherals_commute {first second : List String}
    (reached : ∃ before, r = fed o {} before) (here : r.place = .peripherals)
    (one : Encloses o r first) (other : Encloses o r second)
    (apart : Apart (closedInterrupts o r first) (closedInterrupts o r second)) :
    (Smooth o r (first ++ second) ∧ Smooth o r (second ++ first)) ∧
      ((fed o r (first ++ second)).place = .peripherals ∧
        (fed o r (second ++ first)).place = .peripherals) ∧
      ∃ a b, (fed o r (first ++ second)).device.peripherals = r.device.peripherals ++ [a, b] ∧
        ∀ later, (∀ line ∈ later, Underived line) →
          let s := fed o r (first ++ second ++ later)
          let u := fed o r (second ++ first ++ later)
          s.device.Exchanged r.device.peripherals a b u.device ∧
            u.device.interruptTable = s.device.interruptTable ∧
            trace o (fed o r (second ++ first)) later =
              trace o (fed o r (first ++ second)) later ∧
            u.finish.notices = s.finish.notices ∧ u.finish.fault = s.finish.fault := by
  obtain ⟨a, entries, stored, adds⟩ := one.adds here
  obtain ⟨b, otherEntries, otherStored, otherAdds⟩ := other.adds here
  obtain ⟨start, reached⟩ := reached
  have fits : ∀ lines, (fed o r lines).InterruptsFit := by
    intro lines
    rw [reached, ← fed_append]
    exact interruptsFit_fed o _
  have tidy : ∀ lines, (fed o r lines).Tidy := by
    intro lines
    rw [reached, ← fed_append]
    exact tidy_fed o _
  have swapped : Apart (closedInterrupts o r second) (closedInterrupts o r first) :=
    fun i listed j member set same => apart j member i listed (same ▸ set) same.symm
  have fitsHere : r.InterruptsFit := fits []
  have tidyHere : r.Tidy := tidy []
  obtain ⟨smooth, place, device⟩ :=
    one.follows fitsHere tidyHere (tidy first) here other apart stored adds otherAdds
  obtain ⟨otherSmooth, otherPlace, otherDevice⟩ :=
    other.follows fitsHere tidyHere (tidy second) here one swapped otherStored otherAdds adds
  refine ⟨⟨smooth, otherSmooth⟩, ⟨place, otherPlace⟩, a, b, by rw [device], ?_⟩
  intro later underived s u
  have line : (fed o r (second ++ first)).line = (fed o r (first ++ second)).line := by
    rw [line_fed, line_fed, List.length_append, List.length_append]
    omega
  have held := counterpart_outside (by rw [place]; rfl) (otherPlace.trans place.symm) (tidy _)
    (tidy _) line (by rw [device]; exact otherDevice)
  rw [device] at held
  have perm : (entries ++ otherEntries).Perm (otherEntries ++ entries) := List.perm_append_comm
  obtain ⟨exchanged, traced, ends⟩ := exchanged_run held (perm.append_left _) underived
  rw [← fed_append, ← fed_append] at exchanged ends
  exact ⟨exchanged, interruptTable_perm (fits _).stored exchanged.interrupts, traced, ends⟩

end

/-- The lines of a plain peripheral, checked by reading them. -/
theorem encloses_of_plain {o : Settings} {r : Reader} {body : List String}
    (reads : (∀ told ∈ trace o r ("<peripheral>" :: body), told.2.2 = none) ∧
      Inside o (r.feed o "<peripheral>").reader body ∧
      (fed o r ("<peripheral>" :: body)).place = .peripherals) :
    Encloses o r ("<peripheral>" :: body) :=
  ⟨⟨"<peripheral>", body, { name := "peripheral" }, rfl, by decide +kernel, by decide +kernel, rfl,
    reads.2.1⟩, smooth_iff_trace.mpr reads.1, reads.2.2⟩

def atPeripherals : Reader := { place := .peripherals, line := 1 }

/-- A peripheral with an interrupt. -/
def watchdog : List String :=
  ["<peripheral>", "<interrupt>", "<value>1</value>", "</interrupt>", "</peripheral>"]

/-- A peripheral whose second address block is skipped, with an interrupt of another number. -/
def counter : List String :=
  ["<peripheral>", "<addressBlock>", "</addressBlock>", "<addressBlock>", "</addressBlock>",
    "<interrupt>", "<value>0</value>", "</interrupt>", "</peripheral>"]

theorem independent_peripherals_commute_watchdog :
    (fed {} atPeripherals (watchdog ++ counter)).device.peripherals.length = 2 ∧
      (fed {} atPeripherals (counter ++ watchdog ++ ["</peripherals>"])).device.interruptTable =
        (fed {} atPeripherals
          (watchdog ++ counter ++ ["</peripherals>"])).device.interruptTable := by
  have reached : atPeripherals = fed {} {} ["<peripherals>"] := by decide +kernel
  have one : Encloses {} atPeripherals watchdog := encloses_of_plain (by decide +kernel)
  have other : Encloses {} atPeripherals counter := encloses_of_plain (by decide +kernel)
  have closed : closedInterrupts {} atPeripherals watchdog = [{ vector := .int 1 }] := by
    decide +kernel
  have otherClosed : closedInterrupts {} atPeripherals counter = [{ vector := .int 0 }] := by
    decide +kernel
  have apart : Apart (closedInterrupts {} atPeripherals watchdog)
      (closedInterrupts {} atPeripherals counter) := by
    rw [closed, otherClosed]
    simp [Apart]
  have underived : ∀ line ∈ ["</peripherals>"], Underived line := by
    intro line member t tagged _
    have read : Tag.ofLine? "</peripherals>" = some { name := "/peripherals" } := by
      decide +kernel
    rw [List.mem_singleton.mp member] at tagged
    cases read.symm.trans tagged
    rfl
  obtain ⟨-, -, a, b, added, later⟩ :=
    independent_peripherals_commute ⟨_, reached⟩ rfl one other apart
  obtain ⟨-, table, -⟩ := later ["</peripherals>"] underived
  refine ⟨?_, table⟩
  rw [added]
  rfl

end Reader

end Document

end RegisterMap
