import RegisterMap.Proofs.Insertion

/-!
Readings that come to the same lines. Where their readers differ in no more than the line, they
read these lines to the same model and the same end, and what they tell from there on is the same,
in the lines where they stand. Lines that are only counted make no other difference.
-/

set_option autoImplicit false

namespace RegisterMap.Document

/-- The reader does no more than to count the line, wherever it stands. -/
def Reader.Counts (o : Settings) (r : Reader) (line : String) : Prop :=
  ∀ n, ({ r with line := n } : Reader).feed o line = { reader := { r with line := n + 1 } }

namespace Reading

/-- Reads on, up to the end of the input. -/
def readOn (o : Settings) (s : Reading) (lines : List String) : Reading :=
  (s.readLines o lines).proceed Reader.finish

/-- The reading with these notices in front of its own. -/
def behind (told : Array Notice) (s : Reading) : Reading :=
  { s with notices := told ++ s.notices }

section

variable {o : Settings} {f : Nat → Nat} {s u : Reading}

theorem readLines_append (s : Reading) (before after : List String) :
    s.readLines o (before ++ after) = (s.readLines o before).readLines o after :=
  List.foldl_append ..

theorem read_append (before after : List String) :
    read o (before ++ after) = (readLines o {} before).readOn o after := by
  rw [read, readOn, readLines_append]

/-- Behind lines that can all be read a reading stands where their run does. -/
theorem readLines_run {lines : List String} (smooth : Reader.Smooth o {} lines) :
    readLines o {} lines =
      { reader := Reader.fed o {} lines
        notices := (readLines o {} lines).notices
        fault := none } := by
  obtain ⟨reader, going⟩ := readLines_of_smooth (s := {}) rfl smooth
  exact congrArg₂ (Reading.mk · (readLines o {} lines).notices ·) reader going

/-- A reading that goes on has come to the run of its lines. -/
theorem fed_of_going {lines : List String} (going : (readLines o {} lines).fault = none) :
    Reader.Smooth o {} lines ∧ Reader.fed o {} lines = (readLines o {} lines).reader := by
  have smooth := (readLines_fault_eq_none_iff (s := {}) rfl lines).mp going
  exact ⟨smooth, (readLines_of_smooth (s := {}) rfl smooth).1.symm⟩

theorem readLine_going (going : s.fault = none) (line : String) :
    s.readLine o line =
      { reader := (s.reader.feed o line).reader
        notices := s.notices ++ (s.reader.feed o line).notices
        fault := (s.reader.feed o line).fault } := by
  rw [readLine, proceed, going]

/-! ## Notices are added at the end -/

theorem proceed_behind (told : Array Notice) (s : Reading) (next : Reader → Step) :
    (s.behind told).proceed next = (s.proceed next).behind told := by
  obtain ⟨reader, notices, fault⟩ := s
  cases fault with
  | none =>
    have regrouped : told ++ notices ++ (next reader).notices =
        told ++ (notices ++ (next reader).notices) := by
      apply Array.toList_inj.mp
      simp
    exact congrArg (Reading.mk _ · _) regrouped
  | some fault => rfl

theorem readLines_behind (told : Array Notice) (s : Reading) (lines : List String) :
    (s.behind told).readLines o lines = (s.readLines o lines).behind told := by
  induction lines generalizing s with
  | nil => rfl
  | cons line rest ih =>
    have step : (s.behind told).readLine o line = (s.readLine o line).behind told :=
      proceed_behind told s _
    rw [readLines, List.foldl_cons, step]
    exact ih (s.readLine o line)

theorem readOn_behind (told : Array Notice) (s : Reading) (lines : List String) :
    (s.behind told).readOn o lines = (s.readOn o lines).behind told := by
  rw [readOn, readLines_behind, proceed_behind, readOn]

/-! ## The same lines from the same reader -/

theorem Renumbers.readOn {lines : List String} (same : Renumbers f s u)
    (numbered : s.fault = none → ∀ k, f (s.reader.line + k + 1) = u.reader.line + k + 1) :
    Renumbers f (s.readOn o lines) (u.readOn o lines) := by
  induction lines generalizing s u with
  | nil => exact same.finish fun going => numbered going 0
  | cons line rest ih =>
    refine ih (same.own fun going => numbered going 0) fun goesOn k => ?_
    cases going : s.fault with
    | some fault =>
      rw [readLine, proceed_of_fault going, going] at goesOn
      cases goesOn
    | none =>
      have goes := same.fault_eq_none_iff.mpr going
      have next := numbered going (k + 1)
      rw [readLine_going going, readLine_going goes]
      dsimp only
      rw [Reader.line_feed, Reader.line_feed]
      rw [show s.reader.line + 1 + k + 1 = s.reader.line + (k + 1) + 1 by omega, next]
      omega

/-- Descriptions that end in the same lines, and that have come to the same reader in front of
them, up to its line, are read to the same model and the same end. -/
theorem read_resumed {m : Nat} {r : Reader} {told alsoTold : Array Notice}
    {first second : List String}
    (one : readLines o {} first = { reader := r, notices := told, fault := none })
    (two : readLines o {} second =
      { reader := { r with line := m }, notices := alsoTold, fault := none })
    (numbered : ∀ k, f (r.line + k + 1) = m + k + 1) (after : List String) :
    (read o (second ++ after)).device = (read o (first ++ after)).device ∧
      (read o (second ++ after)).fault = (read o (first ++ after)).fault.map (Fault.renumber f) ∧
      ∃ later, (read o (first ++ after)).notices = told ++ later ∧
        (read o (second ++ after)).notices = alsoTold ++ later.map (Notice.renumber f) := by
  have regained : ∀ (u : Reader) (notices : Array Notice),
      ({ reader := u, notices := notices } : Reading).readOn o after =
        (({ reader := u } : Reading).readOn o after).behind notices := by
    intro u notices
    rw [← readOn_behind, behind, Array.append_empty]
  have bare : Renumbers f { reader := r } { reader := { r with line := m } } :=
    ⟨rfl, Array.map_empty.symm, rfl⟩
  have last : Renumbers f (readOn o { reader := r } after) _ := bare.readOn fun _ => numbered
  rw [read_append, read_append, one, two, regained r told, regained { r with line := m } alsoTold]
  refine ⟨?_, last.fault, _, rfl, ?_⟩
  · have device := congrArg Reader.device last.reader
    exact device
  · rw [← last.notices]
    rfl

/-! ## Lines that are only counted -/

theorem readLines_of_counts {lines : List String} (going : s.fault = none)
    (counted : ∀ line ∈ lines, s.reader.Counts o line) :
    s.readLines o lines =
      { s with reader := { s.reader with line := s.reader.line + lines.length } } := by
  induction lines generalizing s with
  | nil => rfl
  | cons line rest ih =>
    obtain ⟨here, later⟩ := List.forall_mem_cons.mp counted
    have step : s.readLine o line =
        { s with reader := { s.reader with line := s.reader.line + 1 } } := by
      have idle : s.reader.feed o line = _ := here s.reader.line
      rw [readLine_going going, idle, going]
      refine congrArg (Reading.mk _ · _) (Array.toList_inj.mp ?_)
      simp
    have behind :=
      ih (s := { s with reader := { s.reader with line := s.reader.line + 1 } }) going later
    rw [readLines, List.foldl_cons, step, List.length_cons, Nat.add_comm rest.length 1,
      ← Nat.add_assoc]
    exact behind

end

end Reading

end RegisterMap.Document
