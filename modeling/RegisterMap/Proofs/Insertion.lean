import Mathlib.Data.List.Forall2
import RegisterMap.Proofs.Reader.Endings
import RegisterMap.Proofs.Reader.Renumber
import RegisterMap.Proofs.Reader.Vocabulary
import RegisterMap.Proofs.Text.Blanks

/-!
Lines that do not matter. Lines that say nothing where they stand can be inserted anywhere in a
description: it is read to the same model and the same end, and all that is noticed on the way is
the same, each in the line to which its own line has moved. Blanks around a line do not even show.
-/

set_option autoImplicit false

namespace RegisterMap.Document

open Text (isBlank trim)

/-- A line of a description into which lines have been inserted. -/
inductive Entry
  | own (line : String)
  | inserted (line : String)
deriving DecidableEq, Repr

namespace Entry

def line : Entry → String
  | own line | inserted line => line

def own? : Entry → Option String
  | own line => some line
  | inserted _ => none

/-- The description without its inserted lines. -/
def ownLines (entries : List Entry) : List String := entries.filterMap own?

def allLines (entries : List Entry) : List String := entries.map line

/-- How many lines are inserted before the own line of this number, or before the end. -/
def insertedBefore : List Entry → Nat → Nat
  | [], _ => 0
  | inserted _ :: rest, n => insertedBefore rest n + 1
  | own _ :: rest, n => if n ≤ 1 then 0 else insertedBefore rest (n - 1)

def shiftedNumber (entries : List Entry) (n : Nat) : Nat := n + insertedBefore entries n

@[simp] theorem ownLines_own (line : String) (rest : List Entry) :
    ownLines (own line :: rest) = line :: ownLines rest := rfl

@[simp] theorem ownLines_inserted (line : String) (rest : List Entry) :
    ownLines (inserted line :: rest) = ownLines rest := rfl

theorem shiftedNumber_append (before rest : List Entry) :
    shiftedNumber (before ++ rest) ((ownLines before).length + 1) =
      before.length + 1 + insertedBefore rest 1 := by
  induction before with
  | nil => rfl
  | cons entry before ih =>
    unfold shiftedNumber at ih ⊢
    cases entry with
    | own line =>
      have later : ¬ (ownLines before).length + 1 + 1 ≤ 1 := by omega
      simp only [List.cons_append, ownLines_own, List.length_cons, insertedBefore, if_neg later,
        Nat.add_sub_cancel]
      omega
    | inserted line =>
      simp only [List.cons_append, ownLines_inserted, List.length_cons, insertedBefore]
      omega

end Entry

open RegisterMap.Document.Entry (ownLines allLines shiftedNumber insertedBefore)

/-- Each inserted line that the reading comes to says nothing at the place where it then is. -/
def InsertsInert (o : Settings) : Reading → List Entry → Prop
  | _, [] => True
  | s, .own line :: rest => InsertsInert o (s.readLine o line) rest
  | s, .inserted line :: rest =>
    (s.fault = none → Inert s.reader.place line) ∧ InsertsInert o (s.readLine o line) rest

/-- The second reading tells what the first one does, in other lines. -/
structure Reading.Renumbers (f : Nat → Nat) (s u : Reading) : Prop where
  reader : u.reader = { s.reader with line := u.reader.line }
  notices : u.notices = s.notices.map (Notice.renumber f)
  fault : u.fault = s.fault.map (Fault.renumber f)

namespace Reading

variable {o : Settings} {f : Nat → Nat} {s u : Reading}

namespace Renumbers

theorem fault_eq_none_iff (same : Renumbers f s u) : u.fault = none ↔ s.fault = none := by
  rw [same.fault, Option.map_eq_none_iff]

theorem inserted {line : String} (same : Renumbers f s u)
    (inert : u.fault = none → Inert u.reader.place line) :
    Renumbers f s (u.readLine o line) := by
  cases going : u.fault with
  | some fault =>
    have stays : u.readLine o line = u := proceed_of_fault going _
    rw [stays]
    exact same
  | none =>
    have idle := feed_of_inert (o := o) (inert going)
    unfold readLine Reading.proceed
    rw [going]
    dsimp only
    rw [idle]
    refine ⟨?_, ?_, ?_⟩
    · exact congrArg (fun r : Reader => { r with line := u.reader.line + 1 }) same.reader
    · exact same.notices
    · exact going.symm.trans same.fault

/-- Both readings go on with a step that tells the same in the lines where they are. -/
theorem proceed {next : Reader → Step} (same : Renumbers f s u)
    (alike : s.fault = none →
      (next u.reader).reader = { (next s.reader).reader with line := (next u.reader).reader.line } ∧
        (next u.reader).notices = (next s.reader).notices.map (Notice.renumber f) ∧
        (next u.reader).fault = (next s.reader).fault.map (Fault.renumber f)) :
    Renumbers f (s.proceed next) (u.proceed next) := by
  cases going : s.fault with
  | some first =>
    have stopped : u.fault = some (first.renumber f) := by
      rw [same.fault, going]
      rfl
    rw [proceed_of_fault going, proceed_of_fault stopped]
    exact same
  | none =>
    have goes : u.fault = none := same.fault_eq_none_iff.mpr going
    obtain ⟨reader, notices, fault⟩ := alike going
    unfold Reading.proceed
    rw [going, goes]
    refine ⟨reader, ?_, fault⟩
    dsimp only
    rw [same.notices, notices]
    apply Array.toList_inj.mp
    simp

theorem own {line : String} (same : Renumbers f s u)
    (numbered : s.fault = none → f (s.reader.line + 1) = u.reader.line + 1) :
    Renumbers f (s.readLine o line) (u.readLine o line) := by
  apply same.proceed
  intro going
  have step := Reader.feed_renumber (o := o) (numbered going) line
  rw [← same.reader] at step
  rw [step]
  exact ⟨rfl, rfl, rfl⟩

theorem finish (same : Renumbers f s u)
    (numbered : s.fault = none → f (s.reader.line + 1) = u.reader.line + 1) :
    Renumbers f (s.proceed Reader.finish) (u.proceed Reader.finish) := by
  apply same.proceed
  intro going
  have ends := Reader.finish_renumber (numbered going)
  rw [← same.reader] at ends
  rw [Reader.finish_reader, Reader.finish_reader]
  exact ⟨same.reader, ends⟩

end Renumbers

theorem line_readLines {lines : List String} (going : (readLines o {} lines).fault = none) :
    (readLines o {} lines).reader.line = lines.length := by
  have smooth := (readLines_fault_eq_none_iff rfl lines).mp going
  rw [(readLines_of_smooth rfl smooth).1, Reader.line_fed]
  exact Nat.zero_add _

section

variable {entries before rest : List Entry}

/-- Where an own line or the end comes next, its new number is that of the line which is read. -/
theorem shiftedNumber_next (whole : entries = before ++ rest) (next : insertedBefore rest 1 = 0)
    (same : Renumbers (shiftedNumber entries) (readLines o {} (ownLines before))
      (readLines o {} (allLines before)))
    (going : (readLines o {} (ownLines before)).fault = none) :
    shiftedNumber entries ((readLines o {} (ownLines before)).reader.line + 1) =
      (readLines o {} (allLines before)).reader.line + 1 := by
  have goes := same.fault_eq_none_iff.mpr going
  rw [line_readLines going, line_readLines goes, whole, Entry.shiftedNumber_append, next, allLines,
    List.length_map]

theorem renumbers_readLines (whole : entries = before ++ rest)
    (same : Renumbers (shiftedNumber entries) (readLines o {} (ownLines before))
      (readLines o {} (allLines before)))
    (inert : InsertsInert o (readLines o {} (allLines before)) rest) :
    Renumbers (shiftedNumber entries) (readLines o {} (ownLines entries))
      (readLines o {} (allLines entries)) := by
  induction rest generalizing before with
  | nil =>
    rw [List.append_nil] at whole
    exact whole ▸ same
  | cons entry rest ih =>
    have regrouped : entries = (before ++ [entry]) ++ rest := by
      rw [whole, List.append_assoc]
      rfl
    have read : readLines o {} (allLines (before ++ [entry])) =
        (readLines o {} (allLines before)).readLine o entry.line := by
      rw [allLines, List.map_append, List.map_singleton, readLines_concat]
      rfl
    cases entry with
    | own line =>
      have ownRead : readLines o {} (ownLines (before ++ [.own line])) =
          (readLines o {} (ownLines before)).readLine o line := by
        rw [ownLines, List.filterMap_append]
        exact readLines_concat ..
      apply ih regrouped
      · rw [read, ownRead]
        exact same.own (shiftedNumber_next whole rfl same)
      · rw [read]
        exact inert
    | inserted line =>
      have ownRead : ownLines (before ++ [.inserted line]) = ownLines before := by
        rw [ownLines, List.filterMap_append]
        exact List.append_nil _
      apply ih regrouped
      · rw [read, ownRead]
        exact same.inserted inert.1
      · rw [read]
        exact inert.2

theorem renumbers_read (inert : InsertsInert o {} entries) :
    Renumbers (shiftedNumber entries) (read o (ownLines entries)) (read o (allLines entries)) := by
  have lines : Renumbers (shiftedNumber entries) (readLines o {} (ownLines entries))
      (readLines o {} (allLines entries)) :=
    renumbers_readLines (List.nil_append entries).symm ⟨rfl, Array.map_empty.symm, rfl⟩ inert
  exact lines.finish (shiftedNumber_next (List.append_nil entries).symm rfl lines)

end

end Reading

/-! ## Blanks around lines -/

/-- The second line is the first one with blanks around it. -/
def Around (line padded : String) : Prop :=
  ∃ before after : List Char, (∀ c ∈ before ++ after, isBlank c = true) ∧
    padded.toList = before ++ line.toList ++ after

theorem ofLine?_of_around {line padded : String} (around : Around line padded) :
    Tag.ofLine? padded = Tag.ofLine? line := by
  obtain ⟨before, after, blank, written⟩ := around
  unfold Tag.ofLine?
  rw [written, Text.trim_around blank]

theorem readLines_of_around {o : Settings} {lines padded : List String}
    (around : List.Forall₂ Around lines padded) (s : Reading) :
    s.readLines o padded = s.readLines o lines := by
  induction around generalizing s with
  | nil => rfl
  | @cons line padded _ _ first _ ih =>
    have feeds (r : Reader) : r.feed o padded = r.feed o line := by
      unfold Reader.feed
      rw [ofLine?_of_around first]
    have reads : s.readLine o padded = s.readLine o line := by
      unfold Reading.readLine
      simp only [feeds]
    rw [Reading.readLines, List.foldl_cons, reads]
    exact ih (s.readLine o line)

/-- Inserted lines that say nothing where they are read change neither the model nor the end of the
reading, and what is noticed moves along with the lines; blanks around lines change nothing. -/
theorem inert_lines_do_not_matter {o : Settings} {entries : List Entry}
    (inert : InsertsInert o {} entries) {lines padded : List String}
    (around : List.Forall₂ Around lines padded) :
    (read o (allLines entries)).device = (read o (ownLines entries)).device ∧
      (read o (allLines entries)).notices =
        (read o (ownLines entries)).notices.map (Notice.renumber (shiftedNumber entries)) ∧
      (read o (allLines entries)).fault =
        (read o (ownLines entries)).fault.map (Fault.renumber (shiftedNumber entries)) ∧
      read o padded = read o lines := by
  have same := Reading.renumbers_read inert
  have device : (read o (allLines entries)).device = (read o (ownLines entries)).device := by
    rw [Reading.device, same.reader]
    rfl
  refine ⟨device, same.notices, same.fault, ?_⟩
  unfold read
  rw [readLines_of_around around]

/-- A description that breaks off among its peripherals, where a name says nothing. -/
def noisyEntries : List Entry :=
  [.inserted "no tag", .own "<width>8</width>", .inserted "<width>0x20</width>",
    .own "<peripherals>", .inserted "<name>DEV</name>"]

theorem inert_lines_do_not_matter_noisy :
    (read {} (allLines noisyEntries)).fault = some (.truncated 5 .peripherals) ∧
      read {} ["\t<name>DEV</name>\r\n"] = read {} ["<name>DEV</name>"] := by
  have inert : InsertsInert {} {} noisyEntries := by
    refine ⟨fun _ => .untagged (by decide +kernel), fun _ => ?_, fun _ => ?_, trivial⟩
    · exact .refused (t := { name := "width", content := some "0x20" }) (e := .width)
        (k := .decimal) (by decide +kernel) (by decide +kernel) ⟨by decide +kernel, rfl⟩ rfl
    · have unknown : Inert .peripherals "<name>DEV</name>" :=
        .unknown (t := { name := "name", content := some "DEV" })
          (by decide +kernel) (by decide +kernel) (by decide +kernel)
      refine cast (congrArg (Inert · _) ?_) unknown
      decide +kernel
  have around : List.Forall₂ Around ["<name>DEV</name>"] ["\t<name>DEV</name>\r\n"] :=
    .cons ⟨['\t'], ['\r', '\n'], List.all_eq_true.mp (by decide), by decide +kernel⟩ .nil
  obtain ⟨-, -, fault, padded⟩ := inert_lines_do_not_matter inert around
  refine ⟨fault.trans ?_, padded⟩
  decide +kernel

end RegisterMap.Document
