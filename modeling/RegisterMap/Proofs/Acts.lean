import RegisterMap.Proofs.Reader.Run

/-!
Reading as acts that change one reader in place, one after another. A failure takes nothing back
here: what the acts before it did to the reader stays done. That a failed line leaves only the count
of lines behind is then a matter of the order in which each line acts, and it holds since a line
that fails does so before it has changed anything else.
-/

set_option autoImplicit false

namespace RegisterMap.Document

/-- Acts on a reader and on the notices so far, both of which outlast a failure. -/
abbrev Acts := ExceptT Fault (StateM (Reader × List Notice))

namespace Acts

def current : Acts Reader := return (← get).1

def change (f : Reader → Reader) : Acts Unit := modify fun (r, notices) => (f r, notices)

def notice (n : Notice) : Acts Unit := modify fun (r, notices) => (r, notices ++ [n])

def enter (target : Place) : Acts Unit := do
  let r ← current
  notice (.moved r.line r.place target)
  change fun r => { r with place := target }

/-- The content is converted before the change that it makes. -/
def describe {α : Type} (t : Tag) (changeOf : Element → String → Change α)
    (lift : (α → α) → Reader → Reader) : Acts Unit :=
  match t.mark, t.content with
  | .opening e, some data =>
    match changeOf e data with
    | .ok f => change (lift f)
    | .error numeral => throw (.numeralTooLong numeral)
  | _, _ => return

def inDevice (t : Tag) : Acts Unit :=
  match t.mark with
  | .closing .device => enter .finished
  | .opening .cpu => do
    change (Reader.changeDevice fun d => { d with cpu := some {} })
    enter .cpu
  | .opening .peripherals => enter .peripherals
  | _ => describe t deviceAttribute Reader.changeDevice

def inCpu (t : Tag) : Acts Unit :=
  match t.mark with
  | .closing .cpu => enter .device
  | _ => describe t cpuAttribute Reader.changeCpu

def openPeripheral (p : Peripheral) : Acts Unit := do
  change (Reader.changeDevice fun d => { d with peripherals := d.peripherals ++ [p] })
  change fun r => { r with blockSeen := false }
  enter .peripheral

def inPeripherals (t : Tag) : Acts Unit :=
  match t.mark with
  | .closing .peripherals => enter .device
  | .opening .peripheral =>
    match t.derivedFrom with
    | none => openPeripheral {}
    | some name => do
      let r ← current
      match r.device.findPeripheral? (.ofString name) with
      | some base => openPeripheral base
      | none => notice (.unknownBase r.line name)
  | _ => return

def openAddressBlock : Acts Unit := do
  let seen := (← current).blockSeen
  change fun r => { r with blockSkipped := seen }
  unless seen do
    change (Reader.changePeripheral fun p => { p with addressBlock := some {} })
    change fun r => { r with blockSeen := true }
  enter .addressBlock

def inPeripheral (t : Tag) : Acts Unit :=
  match t.mark with
  | .closing .peripheral => enter .peripherals
  | .opening .addressBlock => openAddressBlock
  | .opening .interrupt => do
    change fun r => { r with interrupt := some {} }
    enter .interrupt
  | .opening .registers => enter .registers
  | _ => describe t peripheralAttribute Reader.changePeripheral

def inAddressBlock (t : Tag) : Acts Unit :=
  match t.mark with
  | .closing .addressBlock => enter .peripheral
  | _ => do
    let r ← current
    if r.blockSkipped then return
    else describe t addressBlockAttribute Reader.changeAddressBlock

def closeInterrupt : Acts Unit := do
  let r ← current
  let i := r.interrupt.getD {}
  if r.device.admits i then change (Reader.changeDevice fun d => d.addInterrupt i)
  else notice (.interruptDropped r.line i.name i.vector)
  change fun r => { r with interrupt := none }
  enter .peripheral

def inInterrupt (t : Tag) : Acts Unit :=
  match t.mark with
  | .closing .interrupt => closeInterrupt
  | _ => describe t interruptAttribute Reader.changeInterrupt

def openRegister (o : Settings) (p : Peripheral) : Acts Unit := do
  let r ← current
  if p.baseAddress.isNull then
    notice (.failed (.registerBeforeBase r.line p.name))
    throw (.registerBeforeBase r.line p.name)
  else
    change (Reader.changePeripheral fun p =>
      { p with registers := p.registers ++ [Reader.newRegister o r.device p] })
    enter .register

def inRegisters (o : Settings) (t : Tag) : Acts Unit :=
  match t.mark with
  | .closing .registers => enter .peripheral
  | .opening .register => do
    let r ← current
    match r.peripheral? with
    | some p => openRegister o p
    | none => return
  | _ => return

def inRegister (t : Tag) : Acts Unit :=
  match t.mark with
  | .closing .register => enter .registers
  | .opening .fields => enter .fields
  | _ => describe t registerAttribute Reader.changeRegister

def openField : Acts Unit := do
  change (Reader.changePeripheral fun p =>
    p.changeRegister fun x => { x with fields := x.fields ++ [Reader.newField p x] })
  enter .field

def inFields (t : Tag) : Acts Unit :=
  match t.mark with
  | .closing .fields => enter .register
  | .opening .field => openField
  | _ => return

/-- The window of enumerated values is closed only behind the move. -/
def inField (t : Tag) : Acts Unit :=
  match t.mark with
  | .closing .field => do
    enter .fields
    change fun r => { r with inEnumeratedValues := false }
  | .opening .enumeratedValues => change fun r => { r with inEnumeratedValues := true }
  | .closing .enumeratedValues => change fun r => { r with inEnumeratedValues := false }
  | _ => do
    let r ← current
    if r.inEnumeratedValues then return
    else describe t fieldAttribute Reader.changeField

def tag (o : Settings) (t : Tag) : Acts Unit := do
  let r ← current
  match r.place with
  | .device => inDevice t
  | .cpu => inCpu t
  | .peripherals => inPeripherals t
  | .peripheral => inPeripheral t
  | .addressBlock => inAddressBlock t
  | .interrupt => inInterrupt t
  | .registers => inRegisters o t
  | .register => inRegister t
  | .fields => inFields t
  | .field => inField t
  | .finished => return

def line (o : Settings) (text : String) : Acts Unit := do
  change fun r => { r with line := r.line + 1 }
  match Tag.ofLine? text with
  | none => return
  | some t => tag o t

def finish : Acts Unit := do
  let r ← current
  if r.place = .finished then
    notice (.completed r.device.name r.device.peripherals.length r.device.interrupts.length)
  else throw (.truncated r.line r.place)

def document (o : Settings) (lines : List String) : Acts Unit := do
  lines.forM (line o)
  finish

/-- What acts leave behind, be it where they end or where they fail. -/
def perform (acts : Acts Unit) (r : Reader) (notices : List Notice) : Step :=
  match acts.run (r, notices) with
  | (.ok (), r, notices) => { reader := r, notices := notices }
  | (.error fault, r, notices) => { reader := r, notices := notices, fault := some fault }

theorem perform_bind (first second : Acts Unit) (r : Reader) (notices : List Notice) :
    perform (do first; second) r notices =
      match (perform first r notices).fault with
      | none => perform second (perform first r notices).reader (perform first r notices).notices
      | some _ => perform first r notices := by
  have run : (do first; second : Acts Unit).run (r, notices) =
      match first.run (r, notices) with
      | (.ok (), r, notices) => second.run (r, notices)
      | (.error fault, r, notices) => (.error fault, r, notices) := by
    change ExceptT.bindCont (fun _ => second) (first.run (r, notices)).1 (first.run (r, notices)).2 = _
    rcases first.run (r, notices) with ⟨_ | _, _, _⟩ <;> rfl
  unfold perform
  rw [run]
  rcases first.run (r, notices) with ⟨_ | _, _, _⟩ <;> rfl

end Acts

/-- The step, behind what was noticed before it. -/
def Step.behind (s : Step) (notices : List Notice) : Step :=
  { s with notices := notices ++ s.notices }

namespace Acts

/-- The acts do to the reader what the progress says, and leave it as it is where they fail. -/
def Realizes (acts : Acts Unit) (r : Reader) (progress : Progress) : Prop :=
  ∀ notices : List Notice,
    perform acts r notices = (Step.ofProgress r progress).behind notices

section

variable (r : Reader)

theorem realizes_enter (target : Place) : Realizes (enter target) r (r.enter target) :=
  fun _ => rfl

theorem realizes_notice (n : Notice) : Realizes (notice n) r (.ok (r, [n])) := fun _ => rfl

theorem realizes_change (f : Reader → Reader) : Realizes (change f) r (f r).stay := by
  intro notices
  change ({ reader := f r, notices := notices } : Step) =
    { reader := f r, notices := notices ++ [] }
  rw [List.append_nil]

theorem realizes_nothing : Realizes (return) r r.stay := realizes_change r id

theorem realizes_throw {fault : Fault} (silent : fault.notices = []) :
    Realizes (throw fault) r (.error fault) := by
  intro notices
  change ({ reader := r, notices := notices, fault := some fault } : Step) =
    { reader := r, notices := notices ++ fault.notices, fault := some fault }
  rw [silent, List.append_nil]

end

/-- Behind a change nothing may fail, for the change would stay. -/
theorem Realizes.behind_change {second : Acts Unit} {f : Reader → Reader} {r : Reader}
    {result : Reader × List Notice} (realizes : Realizes second (f r) (.ok result)) :
    Realizes (do change f; second) r (.ok result) := by
  intro notices
  rw [perform_bind]
  exact realizes notices

theorem Realizes.behind_notice {second : Acts Unit} {n : Notice} {r next : Reader}
    {more : List Notice} (realizes : Realizes second r (.ok (next, more))) :
    Realizes (do notice n; second) r (.ok (next, n :: more)) := by
  intro notices
  rw [perform_bind]
  refine (realizes (notices ++ [n])).trans ?_
  change ({ reader := next, notices := notices ++ [n] ++ more } : Step) =
    { reader := next, notices := notices ++ n :: more }
  rw [List.append_assoc, List.singleton_append]

theorem Realizes.of_current {acts : Reader → Acts Unit} {r : Reader} {progress : Progress}
    (realizes : Realizes (acts r) r progress) :
    Realizes (do let r ← current; acts r) r progress :=
  realizes

/-- A numeral that is too long fails before the change for which it is converted. -/
theorem realizes_describe {α : Type} (r : Reader) (t : Tag)
    (changeOf : Element → String → Change α) (lift : (α → α) → Reader → Reader) :
    Realizes (describe t changeOf lift) r (r.describe t changeOf lift) := by
  fun_cases describe t changeOf lift <;> simp only [Reader.describe, *]
  · exact realizes_change r _
  · exact realizes_throw r rfl
  · exact realizes_nothing r

variable (o : Settings) (r : Reader) (t : Tag)

theorem realizes_inDevice : Realizes (inDevice t) r (r.inDevice t) := by
  fun_cases inDevice t <;> simp only [Reader.inDevice, *]
  · exact realizes_enter r .finished
  · exact (realizes_enter _ .cpu).behind_change
  · exact realizes_enter r .peripherals
  · exact realizes_describe r t deviceAttribute Reader.changeDevice

theorem realizes_inCpu : Realizes (inCpu t) r (r.inCpu t) := by
  fun_cases inCpu t <;> simp only [Reader.inCpu, *]
  · exact realizes_enter r .device
  · exact realizes_describe r t cpuAttribute Reader.changeCpu

theorem realizes_openPeripheral (p : Peripheral) :
    Realizes (openPeripheral p) r (r.openPeripheral p) :=
  (realizes_enter _ .peripheral).behind_change.behind_change

theorem realizes_inPeripherals : Realizes (inPeripherals t) r (r.inPeripherals t) := by
  fun_cases inPeripherals t <;> simp only [Reader.inPeripherals, *]
  · exact realizes_enter r .device
  · exact realizes_openPeripheral r {}
  · next name _ =>
    apply Realizes.of_current
    cases r.device.findPeripheral? (.ofString name) with
    | some base => exact realizes_openPeripheral r base
    | none => exact realizes_notice r _
  · exact realizes_nothing r

theorem realizes_openAddressBlock : Realizes openAddressBlock r r.openAddressBlock := by
  apply Realizes.of_current
  obtain ⟨device, place, line, interrupt, seen, skipped, inEnumeratedValues⟩ := r
  cases seen with
  | true => exact (realizes_enter _ .addressBlock).behind_change
  | false => exact (realizes_enter _ .addressBlock).behind_change.behind_change.behind_change

theorem realizes_inPeripheral : Realizes (inPeripheral t) r (r.inPeripheral t) := by
  fun_cases inPeripheral t <;> simp only [Reader.inPeripheral, *]
  · exact realizes_enter r .peripherals
  · exact realizes_openAddressBlock r
  · exact (realizes_enter _ .interrupt).behind_change
  · exact realizes_enter r .registers
  · exact realizes_describe r t peripheralAttribute Reader.changePeripheral

theorem realizes_inAddressBlock : Realizes (inAddressBlock t) r (r.inAddressBlock t) := by
  fun_cases inAddressBlock t <;> simp only [Reader.inAddressBlock, *]
  · exact realizes_enter r .peripheral
  · apply Realizes.of_current
    cases r.blockSkipped with
    | true => exact realizes_nothing r
    | false => exact realizes_describe r t addressBlockAttribute Reader.changeAddressBlock

theorem realizes_closeInterrupt :
    Realizes closeInterrupt r (r.closeInterrupt (r.interrupt.getD {})) := by
  apply Realizes.of_current
  generalize r.interrupt.getD {} = i
  unfold Reader.closeInterrupt
  by_cases admitted : r.device.admits i = true
  · rw [if_pos admitted, if_pos admitted]
    exact (realizes_enter _ .peripheral).behind_change.behind_change
  · have same : r.device.addInterrupt i = r.device := if_neg admitted
    rw [if_neg admitted, if_neg admitted, same]
    exact (realizes_enter _ .peripheral).behind_change.behind_notice

theorem realizes_inInterrupt : Realizes (inInterrupt t) r (r.inInterrupt t) := by
  fun_cases inInterrupt t <;> simp only [Reader.inInterrupt, *]
  · exact realizes_closeInterrupt r
  · exact realizes_describe r t interruptAttribute Reader.changeInterrupt

theorem realizes_openRegister (p : Peripheral) :
    Realizes (openRegister o p) r (r.openRegister o p) := by
  apply Realizes.of_current
  unfold Reader.openRegister
  cases p.baseAddress.isNull with
  | true => exact fun _ => rfl
  | false => exact (realizes_enter _ .register).behind_change

theorem realizes_inRegisters : Realizes (inRegisters o t) r (r.inRegisters o t) := by
  fun_cases inRegisters o t <;> simp only [Reader.inRegisters, *]
  · exact realizes_enter r .peripheral
  · apply Realizes.of_current
    cases r.peripheral? with
    | some p => exact realizes_openRegister o r p
    | none => exact realizes_nothing r
  · exact realizes_nothing r

theorem realizes_inRegister : Realizes (inRegister t) r (r.inRegister t) := by
  fun_cases inRegister t <;> simp only [Reader.inRegister, *]
  · exact realizes_enter r .registers
  · exact realizes_enter r .fields
  · exact realizes_describe r t registerAttribute Reader.changeRegister

theorem realizes_inFields : Realizes (inFields t) r (r.inFields t) := by
  fun_cases inFields t <;> simp only [Reader.inFields, *]
  · exact realizes_enter r .register
  · exact (realizes_enter _ .field).behind_change
  · exact realizes_nothing r

theorem realizes_inField : Realizes (inField t) r (r.inField t) := by
  fun_cases inField t <;> simp only [Reader.inField, *]
  · exact fun _ => rfl
  · exact realizes_change r _
  · exact realizes_change r _
  · apply Realizes.of_current
    cases r.inEnumeratedValues with
    | true => exact realizes_nothing r
    | false => exact realizes_describe r t fieldAttribute Reader.changeField

theorem realizes_tag : Realizes (tag o t) r (r.read o t) := by
  apply Realizes.of_current
  unfold Reader.read
  cases r.place with
  | device => exact realizes_inDevice r t
  | cpu => exact realizes_inCpu r t
  | peripherals => exact realizes_inPeripherals r t
  | peripheral => exact realizes_inPeripheral r t
  | addressBlock => exact realizes_inAddressBlock r t
  | interrupt => exact realizes_inInterrupt r t
  | registers => exact realizes_inRegisters o r t
  | register => exact realizes_inRegister r t
  | fields => exact realizes_inFields r t
  | field => exact realizes_inField r t
  | finished => exact realizes_nothing r

/-- The acts of a line are the line's step. -/
theorem perform_line (text : String) (notices : List Notice) :
    perform (line o text) r notices = (r.feed o text).behind notices := by
  unfold line
  rw [perform_bind]
  change perform _ { r with line := r.line + 1 } notices = _
  cases tagged : Tag.ofLine? text with
  | none =>
    unfold Reader.feed
    rw [tagged]
    exact realizes_nothing { r with line := r.line + 1 } notices
  | some t =>
    rw [Reader.feed_of_tag tagged]
    exact realizes_tag o _ t notices

theorem perform_finish (notices : List Notice) :
    perform finish r notices = r.finish.behind notices := by
  change perform (if r.place = .finished then
      notice (.completed r.device.name r.device.peripherals.length r.device.interrupts.length)
    else throw (.truncated r.line r.place)) r notices = _
  unfold Reader.finish
  split
  · rfl
  · exact realizes_throw r rfl notices

end Acts

/-- A reading as one step over all of its lines. -/
def Reading.step (s : Reading) : Step :=
  { reader := s.reader, notices := s.notices.toList, fault := s.fault }

theorem Reading.proceed_step {s : Reading} (going : s.fault = none) (next : Reader → Step) :
    (s.proceed next).step = (next s.reader).behind s.notices.toList := by
  unfold proceed
  rw [going]
  simp only [step, Step.behind, Array.toList_appendList]

namespace Acts

theorem perform_lines (o : Settings) {s : Reading} (going : s.fault = none) (lines : List String) :
    perform (lines.forM (line o)) s.reader s.notices.toList = (s.readLines o lines).step := by
  induction lines generalizing s with
  | nil =>
    change ({ reader := s.reader, notices := s.notices.toList } : Step) =
      { reader := s.reader, notices := s.notices.toList, fault := s.fault }
    rw [going]
  | cons text rest ih =>
    have first : perform (line o text) s.reader s.notices.toList = (s.readLine o text).step := by
      rw [perform_line]
      exact (Reading.proceed_step going fun r => r.feed o text).symm
    change perform (do line o text; rest.forM (line o)) s.reader s.notices.toList =
      ((s.readLine o text).readLines o rest).step
    rw [perform_bind, first]
    cases found : (s.readLine o text).fault with
    | none =>
      simp only [Reading.step, found]
      exact ih found
    | some fault =>
      simp only [Reading.step, found]
      rw [Reading.readLines_of_fault found, found]

/-- The acts of a document are its reading. -/
theorem perform_document (o : Settings) (lines : List String) :
    perform (document o lines) {} [] = (read o lines).step := by
  have whole : perform (lines.forM (line o)) {} [] = (Reading.readLines o {} lines).step :=
    perform_lines o (s := {}) rfl lines
  unfold document read
  rw [perform_bind, whole]
  cases found : (Reading.readLines o {} lines).fault with
  | none =>
    rw [Reading.proceed_step found]
    simp only [Reading.step, found]
    exact perform_finish _ _
  | some fault =>
    rw [Reading.proceed_of_fault found]
    simp only [Reading.step, found]

end Acts

namespace Reader

/-- Reading the lines stops with the fault behind `before`, at the next line or for want of one. -/
structure StopsBehind (o : Settings) (before lines : List String) (fault : Fault) : Prop where
  smooth : Smooth o {} before
  stops : (lines = before ∧ (fed o {} before).finish.fault = some fault) ∨
    ∃ line after, lines = before ++ line :: after ∧
      ((fed o {} before).feed o line).fault = some fault

end Reader

theorem read_stops {o : Settings} {lines : List String} {fault : Fault}
    (stopped : (read o lines).fault = some fault) :
    ∃ before, Reader.StopsBehind o before lines fault ∧
      (read o lines).device = (Reader.fed o {} before).device := by
  unfold read at stopped ⊢
  cases found : (Reading.readLines o {} lines).fault with
  | none =>
    have smooth : Reader.Smooth o {} lines :=
      (Reading.readLines_fault_eq_none_iff rfl lines).mp found
    have reader : (Reading.readLines o {} lines).reader = Reader.fed o {} lines :=
      (Reading.readLines_of_smooth (s := {}) rfl smooth).1
    have ends : ((Reading.readLines o {} lines).proceed Reader.finish).step =
        (Reader.fed o {} lines).finish.behind (Reading.readLines o {} lines).notices.toList := by
      rw [Reading.proceed_step found, reader]
    have ending := congrArg Step.fault ends
    have device := congrArg (fun s => s.reader.device) ends
    refine ⟨lines, ⟨smooth, .inl ⟨rfl, ending.symm.trans stopped⟩⟩, device.trans ?_⟩
    exact congrArg Reader.device Reader.finish_reader
  | some first =>
    rw [Reading.proceed_of_fault found] at stopped ⊢
    cases found.symm.trans stopped
    obtain ⟨before, line, after, rfl, smooth, fails⟩ :=
      (Reading.readLines_fault_eq_some_iff rfl lines fault).mp found
    refine ⟨before, ⟨smooth, .inr ⟨line, after, rfl, fails⟩⟩, ?_⟩
    have left := (Reading.readLines_of_failing (s := {}) rfl smooth fails after).1
    have counted := Reader.feed_of_fault fails
    rw [Reading.device, left, counted]

/-- Where the acts of a line fail, they leave behind the reader as it was but for the count of
lines, and a document fails with the device of the lines before that. -/
theorem failed_lines_are_atomic (o : Settings) (lines : List String) :
    (∀ line : String,
        let r := Reader.fed o {} lines
        let left := Acts.perform (Acts.line o line) r []
        left = r.feed o line ∧
          ∀ fault, left.fault = some fault → left.reader = { r with line := r.line + 1 }) ∧
      let left := Acts.perform (Acts.document o lines) {} []
      left = (read o lines).step ∧
        ∀ fault, left.fault = some fault →
          ∃ before, Reader.StopsBehind o before lines fault ∧
            left.reader.device = (Reader.fed o {} before).device := by
  refine ⟨fun line => ⟨?_, ?_⟩, Acts.perform_document o lines, ?_⟩
  · exact Acts.perform_line o _ line []
  · intro fault fails
    rw [Acts.perform_line] at fails ⊢
    exact Reader.feed_of_fault fails
  · intro fault fails
    rw [Acts.perform_document] at fails ⊢
    exact read_stops fails

theorem failed_lines_are_atomic_unbased :
    let lines := ["<peripherals>", "<peripheral>", "<registers>"]
    let r := Reader.fed {} {} lines
    let fault := Fault.registerBeforeBase 4 (.ofString "")
    (Acts.perform (Acts.line {} "<register>") r []).reader = { r with line := r.line + 1 } ∧
      ∃ before, Reader.StopsBehind {} before (lines ++ ["<register>"]) fault ∧
        (Acts.perform (Acts.document {} (lines ++ ["<register>"])) {} []).reader.device =
          (Reader.fed {} {} before).device := by
  intro lines r fault
  have atomic := failed_lines_are_atomic {}
  have line := ((atomic lines).1 "<register>").2 fault
  have document := (atomic (lines ++ ["<register>"])).2.2 fault
  exact ⟨line (by decide +kernel), document (by decide +kernel)⟩

end RegisterMap.Document
