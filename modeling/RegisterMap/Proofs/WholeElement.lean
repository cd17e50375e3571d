import RegisterMap.Proofs.Reader.Vocabulary
import RegisterMap.Proofs.Tag

/-!
Lines that hold a whole element, from its opening tag to its closing one. Only the first tag of a
line is read, so that the level stays the same exactly for the elements whose opening tag is no
boundary of the place; at a boundary the line is the opening tag alone, and what it opens stays
open.
-/

set_option autoImplicit false

namespace RegisterMap.Document

open Text (isBlank trim firstWord)

/-- Trimmed, the line is `<name attributes>data</name>`. -/
structure HoldsElement (line : String) (name attributes data : List Char) : Prop where
  named : ∃ c rest, name = c :: rest ∧ c ≠ '/'
  solid : ∀ c ∈ name, isBlank c = false
  apart : ∀ c, attributes.head? = some c → isBlank c = true
  clear : '>' ∉ name ++ attributes
  plain : '<' ∉ data
  written : trim line.toList =
    '<' :: (name ++ attributes ++ '>' :: (data ++ '<' :: '/' :: (name ++ ['>'])))

namespace HoldsElement

variable {line : String} {name attributes data : List Char}

theorem ofLine? (holds : HoldsElement line name attributes data) :
    Tag.ofLine? line =
      some (Tag.ofParts (name ++ attributes) (data ++ '<' :: '/' :: (name ++ ['>']))) :=
  ofLine?_of_trim holds.clear holds.written

theorem mark (holds : HoldsElement line name attributes data) (after : List Char) :
    (Tag.ofParts (name ++ attributes) after).mark = Mark.ofName name := by
  obtain ⟨c, rest, begins, -⟩ := holds.named
  have word : firstWord (name ++ attributes) = name := by
    apply Text.firstWord_append
    · rw [begins]
      exact List.cons_ne_nil c rest
    · exact holds.solid
    · exact holds.apart
  rw [Tag.mark, Tag.ofParts, String.toList_ofList, word]

end HoldsElement

/-- The line keeps the level unless its tag is a boundary of the place. There it does what its
opening tag does. -/
theorem feed_of_holdsElement {line : String} {name attributes data : List Char}
    (holds : HoldsElement line name attributes data) (o : Settings) (r : Reader) :
    (Mark.ofName name ∉ r.place.boundaries →
        (r.feed o line).reader.place = r.place ∧
          (r.feed o line).reader.inEnumeratedValues = r.inEnumeratedValues) ∧
      (Mark.ofName name ∈ r.place.boundaries →
        r.feed o line = r.feed o (tagLine (name ++ attributes) [])) := by
  constructor
  · intro inner
    refine Reader.feed_cases
      (motive := fun step => step.reader.place = r.place ∧
        step.reader.inEnumeratedValues = r.inEnumeratedValues)
      line (fun _ => ⟨rfl, rfl⟩) ?_ (fun _ _ _ _ => ⟨rfl, rfl⟩)
    intro t next notices tagged ok
    cases holds.ofLine?.symm.trans tagged
    apply (Reader.effect_of_read ok).level
    rw [holds.mark]
    exact inner
  · intro boundary
    have alone : Tag.ofLine? (tagLine (name ++ attributes) []) =
        some (Tag.ofParts (name ++ attributes) []) := ofLine?_tagLine holds.clear nofun
    rw [Reader.feed_of_tag holds.ofLine?, Reader.feed_of_tag alone]
    apply congrArg (Step.ofProgress _)
    apply Reader.read_of_boundary
    · rw [holds.mark]
      exact boundary
    · rw [holds.mark, holds.mark]
    · rfl

theorem holdsElement_cpu : HoldsElement "<cpu></cpu>" "cpu".toList [] [] :=
  { named := ⟨'c', "pu".toList, rfl, by decide⟩
    solid := Text.solid_of_all (by decide +kernel)
    apart := nofun
    clear := by decide +kernel
    plain := nofun
    written := by decide +kernel }

theorem holdsElement_width : HoldsElement "<width>8</width>" "width".toList [] "8".toList :=
  { named := ⟨'w', "idth".toList, rfl, by decide⟩
    solid := Text.solid_of_all (by decide +kernel)
    apart := nofun
    clear := by decide +kernel
    plain := by decide +kernel
    written := by decide +kernel }

theorem feed_of_holdsElement_start :
    let r : Reader := {}
    r.feed {} "<cpu></cpu>" = r.feed {} "<cpu>" ∧
      (r.feed {} "<width>8</width>").reader.place = .device := by
  have opens := (feed_of_holdsElement holdsElement_cpu {} {}).2 (by decide +kernel)
  have stays := (feed_of_holdsElement holdsElement_width {} {}).1 (by decide +kernel)
  exact ⟨opens, stays.1⟩

/-- An empty list of peripherals on one line leaves the reader inside the list. -/
theorem whole_element_stays_open :
    ¬ ∀ (o : Settings) (lines : List String) (line : String) (name data : List Char),
      HoldsElement line name [] data →
        ((Reader.fed o {} lines).feed o line).fault = none →
          ((Reader.fed o {} lines).feed o line).reader.place = (Reader.fed o {} lines).place ∧
            ((Reader.fed o {} lines).feed o line).reader.inEnumeratedValues =
              (Reader.fed o {} lines).inEnumeratedValues := by
  intro keeps
  have holds : HoldsElement "<peripherals></peripherals>" "peripherals".toList [] [] :=
    { named := ⟨'p', "eripherals".toList, rfl, by decide⟩
      solid := Text.solid_of_all (by decide +kernel)
      apart := nofun
      clear := by decide +kernel
      plain := nofun
      written := by decide +kernel }
  have stays := (keeps {} [] _ _ _ holds (by decide +kernel)).1
  exact absurd stays (by decide +kernel)

end RegisterMap.Document
