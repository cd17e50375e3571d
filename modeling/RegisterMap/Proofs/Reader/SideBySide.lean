import RegisterMap.Proofs.Reader.Counterpart

/-!
Two readings side by side. What a tag leads to hangs on little of a reader: its place and its line,
the interrupt that is being described, a few marks, and of the model the defaults and the last
peripheral. So counterparts read the same tags in the same way, with the same notices and faults,
and are counterparts again afterwards, from line to line and for whole documents.
-/

set_option autoImplicit false

namespace RegisterMap.Document

/-- What the two readings lead to, if they agree in all that can be told of them. -/
inductive Alongside (c : Contrast) : Progress → Progress → Prop
  | ok {r s : Reader} {notices : List Notice} (held : r.Counterpart c s) :
      Alongside c (.ok (r, notices)) (.ok (s, notices))
  | error (fault : Fault) : Alongside c (.error fault) (.error fault)

namespace Reader

variable {c : Contrast} {r s : Reader}

namespace Counterpart

theorem enter (held : r.Counterpart c s) {target : Place}
    (inside : target.isInside = true → r.place.isInside = true)
    (block : target = .addressBlock → s.blockSkipped = r.blockSkipped) :
    Alongside c (r.enter target) (s.enter target) := by
  cases held with
  | intro peripherals each begun interrupts seen _ =>
    exact .ok (.intro peripherals each (fun within => begun (inside within)) interrupts
      (fun within => seen (inside within)) block)

theorem stay (held : r.Counterpart c s) : Alongside c r.stay s.stay := .ok held

end Counterpart

/-! ## Handlers -/

/-- What is asked of a tag on top of the relation: it derives nothing where the earlier peripherals
differ, both devices admit the interrupt that it closes or none does, and a register that it begins
has corresponding defaults. -/
structure Agrees (c : Contrast) (o u : Settings) (r s : Reader) (t : Tag) : Prop where
  derived : r.place = .peripherals → t.mark = .opening .peripheral →
    t.derivedFrom = none ∨ c.otherEarlier = c.earlier
  admitted : r.place = .interrupt → t.mark = .closing .interrupt →
    s.device.admits (r.interrupt.getD {}) = r.device.admits (r.interrupt.getD {})
  begun : ∀ p, r.place = .registers → t.mark = .opening .register → r.peripheral? = some p →
    p.baseAddress.isNull = false →
    c.size (r.device.defaultSize.getD o.registerSize) (r.device.defaultSize.getD u.registerSize) ∧
      c.resetValue (r.device.defaultResetValue.getD o.resetValue)
        (r.device.defaultResetValue.getD u.resetValue)

section

variable {o u : Settings} {t : Tag}

theorem describe_alongside {α : Type} {changeOf : Element → String → Change α}
    {lift : (α → α) → Reader → Reader} (held : r.Counterpart c s)
    (kept : ∀ e data change, changeOf e data = .ok change →
      (lift change r).Counterpart c (lift change s)) :
    Alongside c (r.describe t changeOf lift) (s.describe t changeOf lift) := by
  unfold describe
  split
  · rename_i e data _ _
    cases known : changeOf e data with
    | error numeral => exact .error _
    | ok change => exact (kept e data change known).stay
  · exact held.stay

theorem inDevice_alongside (held : r.Counterpart c s) :
    Alongside c (r.inDevice t) (s.inDevice t) := by
  unfold inDevice
  split
  · exact held.enter nofun nofun
  · exact (held.changeCpu fun _ => some {}).enter nofun nofun
  · exact held.enter nofun nofun
  · refine describe_alongside held fun e data change known => held.changeOwn ?_ ?_
    · intro d
      exact ⟨(deviceAttribute_keeps known d).1, (deviceAttribute_keeps known d).2.1⟩
    · exact deviceAttribute_replaces known

theorem inCpu_alongside (held : r.Counterpart c s) : Alongside c (r.inCpu t) (s.inCpu t) := by
  unfold inCpu
  split
  · exact held.enter nofun nofun
  · exact describe_alongside held fun e data change _ => held.changeCpu (Option.map change)

theorem openPeripheral_alongside (held : r.Counterpart c s) {p q : Peripheral}
    (same : p.Counterpart c q) : Alongside c (r.openPeripheral p) (s.openPeripheral q) := by
  cases held with
  | @intro later otherLater _ _ _ peripherals each begun interrupts seen skipped =>
    unfold openPeripheral Reader.enter
    dsimp only
    rw [List.append_assoc]
    refine .ok (.intro ?_ (List.rel_append each (.cons same .nil)) (fun _ => by simp) interrupts
      (fun _ => rfl) nofun)
    rw [peripherals, List.append_assoc]

/-- A base is found by its name, which corresponding peripherals share. -/
theorem findPeripheral_alongside (held : r.Counterpart c s)
    (earlier : c.otherEarlier = c.earlier) (name : Value) :
    Option.Rel (Peripheral.Counterpart c) (r.device.findPeripheral? name)
      (s.device.findPeripheral? name) := by
  cases held with
  | intro peripherals each =>
    unfold Device.findPeripheral?
    dsimp only
    rw [peripherals, earlier]
    refine forall₂_find? (List.rel_append ?_ each) ?_
    · exact List.forall₂_same.mpr fun p _ => .refl p
    · intro p q same
      cases same
      rfl

theorem inPeripherals_alongside (held : r.Counterpart c s)
    (derived : t.mark = .opening .peripheral → t.derivedFrom = none ∨ c.otherEarlier = c.earlier) :
    Alongside c (r.inPeripherals t) (s.inPeripherals t) := by
  unfold inPeripherals
  split
  · exact held.enter nofun nofun
  case h_2 mark =>
    split
    · exact openPeripheral_alongside held (.refl _)
    case h_2 name base =>
      have earlier : c.otherEarlier = c.earlier :=
        (derived mark).resolve_left fun underived => absurd (base.symm.trans underived) nofun
      have found := findPeripheral_alongside held earlier (.ofString name)
      generalize r.device.findPeripheral? (.ofString name) = first at found ⊢
      generalize s.device.findPeripheral? (.ofString name) = second at found ⊢
      cases found with
      | none =>
        have line : s.line = r.line := by cases held; rfl
        dsimp only
        rw [line]
        exact .ok held
      | some same => exact openPeripheral_alongside held same
  · exact held.stay

theorem openAddressBlock_alongside (held : r.Counterpart c s) (here : r.place = .peripheral) :
    Alongside c r.openAddressBlock s.openAddressBlock := by
  have inside : r.place.isInside = true := by rw [here]; rfl
  have block : ∀ p q, Peripheral.Counterpart c p q →
      Peripheral.Counterpart c { p with addressBlock := some {} }
        { q with addressBlock := some {} } := by
    intro p q same
    cases same with
    | intro each => exact .intro each
  have seen : s.blockSeen = r.blockSeen := by
    cases held with
    | intro _ _ _ _ sameSeen _ => exact sameSeen inside
  unfold openAddressBlock
  by_cases again : r.blockSeen = true
  · rw [if_pos again, if_pos (seen.trans again)]
    exact (held.skip true).enter (fun _ => inside) fun _ => rfl
  · rw [if_neg again, if_neg fun other => again (seen.symm.trans other)]
    exact (((held.changePeripheral inside block).skip false).see true).enter (fun _ => inside)
      fun _ => rfl

theorem inPeripheral_alongside (held : r.Counterpart c s) (here : r.place = .peripheral) :
    Alongside c (r.inPeripheral t) (s.inPeripheral t) := by
  have inside : r.place.isInside = true := by rw [here]; rfl
  unfold inPeripheral
  split
  · exact held.enter nofun nofun
  · exact openAddressBlock_alongside held here
  · cases held with
    | intro peripherals each begun interrupts seen skipped =>
      exact .ok (.intro peripherals each (fun _ => begun inside) interrupts (fun _ => seen inside)
        nofun)
  · exact held.enter (fun _ => inside) nofun
  · exact describe_alongside held fun e data change known =>
      held.changePeripheral inside fun p q same => peripheralAttribute_counterpart known same

theorem inAddressBlock_alongside (held : r.Counterpart c s) (here : r.place = .addressBlock) :
    Alongside c (r.inAddressBlock t) (s.inAddressBlock t) := by
  have inside : r.place.isInside = true := by rw [here]; rfl
  have skipped : s.blockSkipped = r.blockSkipped := by
    cases held with
    | intro _ _ _ _ _ sameSkipped => exact sameSkipped here
  unfold inAddressBlock
  split
  · exact held.enter (fun _ => inside) nofun
  by_cases skips : r.blockSkipped = true
  · rw [if_pos skips, if_pos (skipped.trans skips)]
    exact held.stay
  · rw [if_neg skips, if_neg fun other => skips (skipped.symm.trans other)]
    refine describe_alongside held fun e data change _ => held.changePeripheral inside ?_
    intro p q same
    cases same with
    | intro each => exact .intro each

/-- An interrupt that both devices admit, or both do not, comes behind what is stored there. -/
theorem closeInterrupt_alongside (held : r.Counterpart c s) (here : r.place = .interrupt)
    (i : Interrupt) (admitted : s.device.admits i = r.device.admits i) :
    Alongside c (r.closeInterrupt i) (s.closeInterrupt i) := by
  have inside : r.place.isInside = true := by rw [here]; rfl
  cases held with
  | intro peripherals each begun interrupts seen skipped =>
    unfold closeInterrupt Device.addInterrupt
    rw [admitted]
    by_cases admits : r.device.admits i = true
    · rw [if_pos admits, if_pos admits, if_pos admits]
      dsimp only
      rw [List.append_assoc]
      refine .ok (.intro peripherals each (fun _ => begun inside) ?_ (fun _ => seen inside) nofun)
      rw [interrupts, List.append_assoc]
    · rw [if_neg admits, if_neg admits, if_neg admits]
      exact .ok (.intro peripherals each (fun _ => begun inside) interrupts
        (fun _ => seen inside) nofun)

theorem admits_of_stored (held : r.Counterpart c s) (stored : c.otherStored = c.stored)
    (i : Interrupt) : s.device.admits i = r.device.admits i := by
  cases held with
  | intro peripherals each begun interrupts =>
    unfold Device.admits Device.hasVector
    dsimp only
    rw [interrupts, stored]

theorem inInterrupt_alongside (held : r.Counterpart c s) (here : r.place = .interrupt)
    (admitted : t.mark = .closing .interrupt →
      s.device.admits (r.interrupt.getD {}) = r.device.admits (r.interrupt.getD {})) :
    Alongside c (r.inInterrupt t) (s.inInterrupt t) := by
  unfold inInterrupt
  split
  case h_1 mark =>
    have pending : s.interrupt = r.interrupt := by cases held; rfl
    rw [pending]
    exact closeInterrupt_alongside held here _ (admitted mark)
  · exact describe_alongside held fun e data change _ => held.changeInterrupt change

theorem newRegister_counterpart {d e : Device} {p q : Peripheral} (same : p.Counterpart c q)
    (size : c.size (d.defaultSize.getD o.registerSize) (e.defaultSize.getD u.registerSize))
    (reset : c.resetValue (d.defaultResetValue.getD o.resetValue)
      (e.defaultResetValue.getD u.resetValue)) :
    (newRegister o d p).Counterpart c (newRegister u e q) := by
  cases same with
  | intro => exact .intro size reset

theorem inRegisters_alongside (held : r.Counterpart c s) (here : r.place = .registers)
    (agrees : Agrees c o u r s t) : Alongside c (r.inRegisters o t) (s.inRegisters u t) := by
  have inside : r.place.isInside = true := by rw [here]; rfl
  unfold inRegisters
  split
  · exact held.enter (fun _ => inside) nofun
  case h_2 mark =>
    obtain ⟨p, q, current, otherCurrent, same⟩ := held.peripheral inside
    have base : q.baseAddress = p.baseAddress ∧ q.name = p.name := by cases same; exact ⟨rfl, rfl⟩
    have defaults : s.line = r.line ∧ s.device.defaultSize = r.device.defaultSize ∧
        s.device.defaultResetValue = r.device.defaultResetValue := by
      cases held; exact ⟨rfl, rfl, rfl⟩
    rw [current, otherCurrent]
    dsimp only
    unfold openRegister
    rw [base.1, base.2, defaults.1]
    by_cases null : p.baseAddress.isNull = true
    · rw [if_pos null, if_pos null]
      exact .error _
    · rw [if_neg null, if_neg null]
      have maps : ∀ p q, Peripheral.Counterpart c p q → Peripheral.Counterpart c
          { p with registers := p.registers ++ [newRegister o r.device p] }
          { q with registers := q.registers ++ [newRegister u s.device q] } := by
        intro _ _ same
        refine same.addRegister (newRegister_counterpart same ?_ ?_)
        · rw [defaults.2.1]
          exact (agrees.begun p here mark current (eq_false_of_ne_true null)).1
        · rw [defaults.2.2]
          exact (agrees.begun p here mark current (eq_false_of_ne_true null)).2
      exact (held.changePeripheral inside maps).enter (fun _ => inside) nofun
  · exact held.stay

theorem inRegister_alongside (held : r.Counterpart c s) (here : r.place = .register) :
    Alongside c (r.inRegister t) (s.inRegister t) := by
  have inside : r.place.isInside = true := by rw [here]; rfl
  unfold inRegister
  split
  · exact held.enter (fun _ => inside) nofun
  · exact held.enter (fun _ => inside) nofun
  · exact describe_alongside held fun e data change known =>
      held.changePeripheral inside fun p q same =>
        same.changeRegister fun x y => registerAttribute_counterpart known

theorem inFields_alongside (held : r.Counterpart c s) (here : r.place = .fields) :
    Alongside c (r.inFields t) (s.inFields t) := by
  have inside : r.place.isInside = true := by rw [here]; rfl
  unfold inFields
  split
  · exact held.enter (fun _ => inside) nofun
  · refine (held.changePeripheral inside fun p q same => ?_).enter (fun _ => inside) nofun
    refine same.changeRegister fun x y like => ?_
    have new : newField q y = newField p x := by cases same; cases like; rfl
    rw [new]
    exact like.changeFields fun fields => fields ++ [newField p x]
  · exact held.stay

theorem inField_alongside (held : r.Counterpart c s) (here : r.place = .field) :
    Alongside c (r.inField t) (s.inField t) := by
  have inside : r.place.isInside = true := by rw [here]; rfl
  have values : s.inEnumeratedValues = r.inEnumeratedValues := by cases held; rfl
  unfold inField
  split
  · exact (held.enumerate false).enter (fun _ => inside) nofun
  · exact (held.enumerate true).stay
  · exact (held.enumerate false).stay
  by_cases within : r.inEnumeratedValues = true
  · rw [if_pos within, if_pos (values.trans within)]
    exact held.stay
  · rw [if_neg within, if_neg fun other => within (values.symm.trans other)]
    refine describe_alongside held fun e data change _ => held.changePeripheral inside ?_
    intro p q same
    exact same.changeRegister fun x y like => like.changeFields (changeLast change)

/-- Both readers read a tag in the same way. -/
theorem read_alongside (held : r.Counterpart c s) (agrees : Agrees c o u r s t) :
    Alongside c (r.read o t) (s.read u t) := by
  unfold read
  rw [held.place_eq]
  cases here : r.place with
  | device => exact inDevice_alongside held
  | cpu => exact inCpu_alongside held
  | peripherals => exact inPeripherals_alongside held (agrees.derived here)
  | peripheral => exact inPeripheral_alongside held here
  | addressBlock => exact inAddressBlock_alongside held here
  | interrupt => exact inInterrupt_alongside held here (agrees.admitted here)
  | registers => exact inRegisters_alongside held here agrees
  | register => exact inRegister_alongside held here
  | fields => exact inFields_alongside held here
  | field => exact inField_alongside held here
  | finished => exact held.stay

end

/-! ## Runs -/

section

variable {o u : Settings}

/-- A line on which the readers agree keeps the relation, and looks the same for both. -/
theorem feed_alongside (held : r.Counterpart c s) (line : String)
    (agrees : ∀ t, Tag.ofLine? line = some t → Agrees c o u r s t) :
    (r.feed o line).reader.Counterpart c (s.feed u line).reader ∧
      (s.feed u line).notices = (r.feed o line).notices ∧
      (s.feed u line).fault = (r.feed o line).fault := by
  cases tagged : Tag.ofLine? line with
  | none =>
    unfold feed
    rw [tagged]
    exact ⟨held.count, rfl, rfl⟩
  | some t =>
    have agreed := agrees t tagged
    have same : Alongside c (read o { r with line := r.line + 1 } t)
        (read u { s with line := s.line + 1 } t) :=
      read_alongside held.count ⟨agreed.derived, agreed.admitted, agreed.begun⟩
    rw [feed_of_tag tagged, feed_of_tag tagged]
    generalize read o { r with line := r.line + 1 } t = first at same ⊢
    generalize read u { s with line := s.line + 1 } t = second at same ⊢
    cases same with
    | ok after => exact ⟨after, rfl, rfl⟩
    | error fault => exact ⟨held.count, rfl, rfl⟩

/-- So do whole runs, if the readers agree on each tag where they stand before it. -/
theorem run_alongside {lines : List String} (held : r.Counterpart c s)
    (agrees : ∀ before line after t, lines = before ++ line :: after →
      Tag.ofLine? line = some t → (fed o r before).Counterpart c (fed u s before) →
      Agrees c o u (fed o r before) (fed u s before) t) :
    (fed o r lines).Counterpart c (fed u s lines) ∧ trace u s lines = trace o r lines := by
  induction lines generalizing r s with
  | nil => exact ⟨held, rfl⟩
  | cons line rest ih =>
    obtain ⟨after, notices, fault⟩ :=
      feed_alongside held line fun t tagged => agrees [] line rest t rfl tagged held
    obtain ⟨run, traced⟩ := ih after fun before next later t split =>
      agrees (line :: before) next later t (by rw [split, List.cons_append])
    refine ⟨run, ?_⟩
    rw [trace, trace, after.place_eq, notices, fault, traced]

/-- Where as much came before in both, the end of the input looks the same for both as well. -/
theorem finish_alongside (held : r.Counterpart c s)
    (earlier : c.otherEarlier.length = c.earlier.length)
    (stored : c.otherStored.length = c.stored.length) :
    s.finish.notices = r.finish.notices ∧ s.finish.fault = r.finish.fault := by
  cases held with
  | intro peripherals each begun interrupts =>
    unfold finish
    dsimp only
    split
    · rw [peripherals, interrupts]
      simp only [List.length_append, earlier, stored, each.length_eq, and_self]
    · exact ⟨rfl, rfl⟩

end

end Reader

namespace Reading

variable {c : Contrast} {o u : Settings}

/-- Readings that tell the same, of readers that are counterparts. -/
structure Counterpart (c : Contrast) (a b : Reading) : Prop where
  reader : a.reader.Counterpart c b.reader
  notices : b.notices = a.notices
  fault : b.fault = a.fault

theorem readLines_alongside {lines : List String} (start : Reader.Counterpart c {} {})
    (agrees : ∀ before line after t, lines = before ++ line :: after → Reader.Smooth o {} before →
      Tag.ofLine? line = some t → (Reader.fed o {} before).Counterpart c (Reader.fed u {} before) →
      Reader.Agrees c o u (Reader.fed o {} before) (Reader.fed u {} before) t) :
    Counterpart c (readLines o {} lines) (readLines u {} lines) := by
  induction lines using List.reverseRecOn with
  | nil => exact ⟨start, rfl, rfl⟩
  | append_singleton before line ih =>
    have held := ih fun first next later t split =>
      agrees first next (later ++ [line]) t (by rw [split, List.append_assoc, List.cons_append])
    rw [readLines_concat, readLines_concat]
    cases stopped : (readLines o {} before).fault with
    | some fault =>
      have first : (readLines o {} before).readLine o line = readLines o {} before :=
        proceed_of_fault stopped _
      have second : (readLines u {} before).readLine u line = readLines u {} before :=
        proceed_of_fault (held.fault.trans stopped) _
      rw [first, second]
      exact held
    | none =>
      have smooth := (readLines_fault_eq_none_iff (o := o) (s := {}) rfl before).mp stopped
      have going := held.fault.trans stopped
      have other := (readLines_fault_eq_none_iff (o := u) (s := {}) rfl before).mp going
      have reader := (readLines_of_smooth (o := o) (s := {}) rfl smooth).1
      have otherReader := (readLines_of_smooth (o := u) (s := {}) rfl other).1
      obtain ⟨after, notices, fault⟩ := Reader.feed_alongside held.reader line fun t tagged => by
        have counterparts := held.reader
        rw [reader, otherReader] at counterparts ⊢
        exact agrees before line [] t rfl smooth tagged counterparts
      unfold readLine proceed
      rw [stopped, going]
      refine ⟨after, ?_, fault⟩
      dsimp only
      rw [held.notices, notices]

/-- Two readings of a document tell the same, if they agree on each of its tags. -/
theorem read_alongside {lines : List String} (start : Reader.Counterpart c {} {})
    (earlier : c.otherEarlier.length = c.earlier.length)
    (stored : c.otherStored.length = c.stored.length)
    (agrees : ∀ before line after t, lines = before ++ line :: after → Reader.Smooth o {} before →
      Tag.ofLine? line = some t → (Reader.fed o {} before).Counterpart c (Reader.fed u {} before) →
      Reader.Agrees c o u (Reader.fed o {} before) (Reader.fed u {} before) t) :
    Counterpart c (read o lines) (read u lines) := by
  have held := readLines_alongside start agrees
  obtain ⟨notices, fault⟩ := Reader.finish_alongside held.reader earlier stored
  unfold read
  cases stopped : (readLines o {} lines).fault with
  | some first =>
    rw [proceed_of_fault stopped, proceed_of_fault (held.fault.trans stopped)]
    exact held
  | none =>
    have going := held.fault.trans stopped
    unfold proceed
    rw [stopped, going]
    refine ⟨?_, ?_, fault⟩
    · dsimp only
      rw [Reader.finish_reader, Reader.finish_reader]
      exact held.reader
    · dsimp only
      rw [held.notices, notices]

end Reading

end RegisterMap.Document
