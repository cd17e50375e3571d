import RegisterMap.Document.Reading

/-!
Runs of the reader. `fed` is the reader behind some lines when reading goes on behind a line that
cannot be read; the readers that it gives from the start are the reachable ones. A reading stops at
such a line instead: it is the run of the lines before its first fault.
-/

set_option autoImplicit false

namespace RegisterMap.Document

namespace Reader

def fed (o : Settings) (r : Reader) (lines : List String) : Reader :=
  lines.foldl (fun r line => (r.feed o line).reader) r

/-- Every one of the lines can be read where it stands. -/
def Smooth (o : Settings) : Reader → List String → Prop
  | _, [] => True
  | r, line :: rest => (r.feed o line).fault = none ∧ Smooth o (r.feed o line).reader rest

section

variable (o : Settings) (r : Reader)

@[simp] theorem fed_nil : fed o r [] = r := rfl

@[simp] theorem fed_cons (line : String) (rest : List String) :
    fed o r (line :: rest) = fed o (r.feed o line).reader rest := rfl

@[simp] theorem fed_append (first second : List String) :
    fed o r (first ++ second) = fed o (fed o r first) second :=
  List.foldl_append ..

@[simp] theorem smooth_nil : Smooth o r [] := trivial

theorem smooth_append (first second : List String) :
    Smooth o r (first ++ second) ↔ Smooth o r first ∧ Smooth o (fed o r first) second := by
  induction first generalizing r with
  | nil => simp
  | cons line rest ih => simp only [List.cons_append, Smooth, fed_cons, ih, and_assoc]

/-- What the start has and each line keeps, every reader of a run has. -/
theorem fed_induction {motive : Reader → Prop}
    (kept : ∀ (r : Reader) (line : String), motive r → motive (r.feed o line).reader)
    (start : motive r) (lines : List String) : motive (fed o r lines) := by
  induction lines generalizing r with
  | nil => exact start
  | cons line rest ih => exact ih (r.feed o line).reader (kept r line start)

end

section

variable {o : Settings} {r : Reader}

theorem feed_of_tag {line : String} {t : Tag} (tagged : Tag.ofLine? line = some t) :
    r.feed o line =
      Step.ofProgress { r with line := r.line + 1 } (read o { r with line := r.line + 1 } t) := by
  unfold feed
  rw [tagged]

/-- A line leaves the reader as it is but for counting the line, or holds a tag that is read. -/
theorem feed_cases {motive : Step → Prop} (line : String)
    (untagged : Tag.ofLine? line = none → motive { reader := { r with line := r.line + 1 } })
    (progressed : ∀ (t : Tag) (next : Reader) (notices : List Notice),
      Tag.ofLine? line = some t → read o { r with line := r.line + 1 } t = .ok (next, notices) →
      motive { reader := next, notices := notices })
    (faulty : ∀ (t : Tag) (fault : Fault),
      Tag.ofLine? line = some t → read o { r with line := r.line + 1 } t = .error fault →
      motive
        { reader := { r with line := r.line + 1 }
          notices := fault.notices
          fault := some fault }) :
    motive (r.feed o line) := by
  unfold feed
  dsimp only
  cases tagged : Tag.ofLine? line with
  | none => exact untagged tagged
  | some t =>
    dsimp only
    cases progress : read o { r with line := r.line + 1 } t with
    | ok result => exact progressed t result.1 result.2 tagged progress
    | error fault => exact faulty t fault tagged progress

theorem feed_of_fault {line : String} {fault : Fault} (fails : (r.feed o line).fault = some fault) :
    (r.feed o line).reader = { r with line := r.line + 1 } := by
  revert fails
  exact feed_cases
    (motive := fun step => step.fault = some fault → step.reader = { r with line := r.line + 1 })
    line (fun _ _ => rfl) (fun _ _ _ _ _ fails => absurd fails nofun) (fun _ _ _ _ _ => rfl)

theorem finish_reader : r.finish.reader = r := by
  unfold finish
  split <;> rfl

/-- Whatever does not hang on the line count, and is kept by each tag that is read, is kept by
lines. -/
theorem feed_keeps {motive : Reader → Prop} (counted : ∀ n, motive r → motive { r with line := n })
    (kept : ∀ (r next : Reader) (t : Tag) (notices : List Notice),
      motive r → read o r t = .ok (next, notices) → motive next)
    (line : String) (before : motive r) : motive (r.feed o line).reader := by
  have held := counted (r.line + 1) before
  refine feed_cases (motive := fun step => motive step.reader) line (fun _ => held) ?_
    (fun _ _ _ _ => held)
  intro t next notices _ progress
  exact kept _ next t notices held progress

end

end Reader

namespace Reading

variable {o : Settings}

theorem proceed_of_fault {s : Reading} {fault : Fault} (stopped : s.fault = some fault)
    (next : Reader → Step) : s.proceed next = s := by
  unfold proceed
  rw [stopped]

theorem readLines_of_fault {s : Reading} {fault : Fault} (stopped : s.fault = some fault)
    (lines : List String) : readLines o s lines = s := by
  induction lines with
  | nil => rfl
  | cons line rest ih =>
    have stays : readLine o s line = s := proceed_of_fault stopped _
    rw [readLines, List.foldl_cons, stays]
    exact ih

theorem readLines_concat (s : Reading) (lines : List String) (line : String) :
    readLines o s (lines ++ [line]) = readLine o (readLines o s lines) line :=
  List.foldl_append ..

theorem readLine_of_none {s : Reading} (going : s.fault = none) (line : String) :
    (readLine o s line).reader = (s.reader.feed o line).reader ∧
      (readLine o s line).fault = (s.reader.feed o line).fault := by
  unfold readLine proceed
  rw [going]
  exact ⟨rfl, rfl⟩

theorem readLines_of_smooth {s : Reading} (going : s.fault = none) {lines : List String}
    (smooth : Reader.Smooth o s.reader lines) :
    (readLines o s lines).reader = s.reader.fed o lines ∧ (readLines o s lines).fault = none := by
  induction lines generalizing s with
  | nil => exact ⟨rfl, going⟩
  | cons line rest ih =>
    obtain ⟨reader, fault⟩ := readLine_of_none (o := o) going line
    have goesOn : (readLine o s line).fault = none := fault.trans smooth.1
    have rest := ih goesOn (by rw [reader]; exact smooth.2)
    rw [reader] at rest
    exact rest

theorem readLines_cons_of_fault {s : Reading} (going : s.fault = none) {line : String}
    {fault : Fault} (fails : (s.reader.feed o line).fault = some fault) (rest : List String) :
    readLines o s (line :: rest) = readLine o s line :=
  readLines_of_fault ((readLine_of_none going line).2.trans fails) rest

/-- Behind a line that cannot be read a reading takes no further line. -/
theorem readLines_of_failing {s : Reading} (going : s.fault = none) {before : List String}
    {line : String} {fault : Fault} (smooth : Reader.Smooth o s.reader before)
    (fails : ((s.reader.fed o before).feed o line).fault = some fault) (after : List String) :
    (readLines o s (before ++ line :: after)).reader =
        ((s.reader.fed o before).feed o line).reader ∧
      (readLines o s (before ++ line :: after)).fault = some fault := by
  obtain ⟨sameReader, sameFault⟩ := readLines_of_smooth going smooth
  obtain ⟨left, stopped⟩ := readLine_of_none (o := o) sameFault line
  rw [sameReader] at left stopped
  have ends : readLines o s (before ++ line :: after) = readLine o (readLines o s before) line := by
    rw [readLines, List.foldl_append]
    exact readLines_cons_of_fault sameFault (by rw [sameReader]; exact fails) after
  rw [ends]
  exact ⟨left, stopped.trans fails⟩

/-- A reading of lines ends with a fault exactly where this is the first fault of their run. -/
theorem readLines_fault_eq_some_iff {s : Reading} (going : s.fault = none) (lines : List String)
    (fault : Fault) :
    (readLines o s lines).fault = some fault ↔
      ∃ before line after, lines = before ++ line :: after ∧ Reader.Smooth o s.reader before ∧
        ((s.reader.fed o before).feed o line).fault = some fault := by
  constructor
  · intro stops
    induction lines generalizing s with
    | nil => exact absurd (going.symm.trans stops) nofun
    | cons line rest ih =>
      obtain ⟨sameReader, sameFault⟩ := readLine_of_none (o := o) going line
      cases found : (s.reader.feed o line).fault with
      | some first =>
        rw [readLines_cons_of_fault going found rest, sameFault] at stops
        exact ⟨[], line, rest, rfl, trivial, stops⟩
      | none =>
        obtain ⟨before, failing, after, rfl, smooth, fails⟩ := ih (sameFault.trans found) stops
        rw [sameReader] at smooth fails
        exact ⟨line :: before, failing, after, rfl, ⟨found, smooth⟩, fails⟩
  · rintro ⟨before, line, after, rfl, smooth, fails⟩
    exact (readLines_of_failing going smooth fails after).2

theorem readLines_fault_eq_none_iff {s : Reading} (going : s.fault = none) (lines : List String) :
    (readLines o s lines).fault = none ↔ Reader.Smooth o s.reader lines := by
  refine ⟨fun passes => ?_, fun smooth => (readLines_of_smooth going smooth).2⟩
  induction lines generalizing s with
  | nil => trivial
  | cons line rest ih =>
    obtain ⟨sameReader, sameFault⟩ := readLine_of_none (o := o) going line
    cases found : (s.reader.feed o line).fault with
    | some first =>
      rw [readLines_cons_of_fault going found rest, sameFault, found] at passes
      exact absurd passes nofun
    | none =>
      have smooth := ih (sameFault.trans found) passes
      rw [sameReader] at smooth
      exact ⟨found, smooth⟩

end Reading

/-- A reading comes to the run of its lines, up to and with the first one that fails. -/
theorem read_reader (o : Settings) (lines : List String) :
    ∃ taken, taken <+: lines ∧ (read o lines).reader = Reader.fed o {} taken := by
  unfold read
  cases found : (Reading.readLines o {} lines).fault with
  | none =>
    have smooth := (Reading.readLines_fault_eq_none_iff (s := {}) rfl lines).mp found
    have reader := (Reading.readLines_of_smooth (s := {}) rfl smooth).1
    refine ⟨lines, List.prefix_rfl, ?_⟩
    unfold Reading.proceed
    rw [found]
    exact Reader.finish_reader.trans reader
  | some fault =>
    rw [Reading.proceed_of_fault found]
    obtain ⟨before, line, after, rfl, smooth, fails⟩ :=
      (Reading.readLines_fault_eq_some_iff (s := {}) rfl lines fault).mp found
    have reader := (Reading.readLines_of_failing (s := {}) rfl smooth fails after).1
    refine ⟨before ++ [line], ⟨after, List.append_cons .. |>.symm⟩, ?_⟩
    rw [reader, Reader.fed_append]
    rfl

/-- What every line keeps holds of the reader that has read a whole document. -/
theorem read_keeps {o : Settings} {motive : Reader → Prop}
    (step : ∀ (r : Reader) (line : String), motive r → motive (r.feed o line).reader)
    (start : motive {}) (lines : List String) : motive (read o lines).reader := by
  obtain ⟨taken, -, same⟩ := read_reader o lines
  rw [same]
  exact Reader.fed_induction o {} step start taken

end RegisterMap.Document
