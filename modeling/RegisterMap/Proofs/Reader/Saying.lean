import RegisterMap.Proofs.Reader.Effect
import RegisterMap.Proofs.Reader.Run

/-!
What single lines say, and what holds of each line of a run. A line says a value of an element if
its tag opens the element and its content stands for a value. Of several lines the last one counts
that says a value, and `lastSaid?_eq_some_iff` tells which one this is.
-/

set_option autoImplicit false

namespace RegisterMap.Document

/-- The line holds a tag of this mark. -/
def HasMark (m : Mark) (line : String) : Prop := (Tag.ofLine? line).map Tag.mark = some m

instance (m : Mark) (line : String) : Decidable (HasMark m line) :=
  inferInstanceAs (Decidable (_ = _))

theorem hasMark_iff {m : Mark} {line : String} :
    HasMark m line ↔ ∃ t, Tag.ofLine? line = some t ∧ t.mark = m :=
  Option.map_eq_some_iff

/-- The lines in front of the first one with the mark, and those from this one on. -/
theorem exists_append_mark (m : Mark) (lines : List String) :
    ∃ front rest, lines = front ++ rest ∧ (∀ line ∈ front, ¬ HasMark m line) ∧
      ∀ line ∈ rest.head?, HasMark m line := by
  induction lines with
  | nil => exact ⟨[], [], rfl, nofun, nofun⟩
  | cons line others ih =>
    by_cases marked : HasMark m line
    · refine ⟨[], line :: others, rfl, nofun, fun first found => ?_⟩
      obtain rfl := Option.some.inj found
      exact marked
    · obtain ⟨front, rest, rfl, free, first⟩ := ih
      exact ⟨line :: front, rest, rfl, List.forall_mem_cons.mpr ⟨marked, free⟩, first⟩

section

variable {β : Type} {e : Element} {meaning : String → Option β}

/-- The value of the element that the line says. -/
def said? (e : Element) (meaning : String → Option β) (line : String) : Option β :=
  (Tag.ofLine? line).bind fun t =>
    if t.mark = .opening e then t.content.bind meaning else none

/-- The value of the element that the last line says which says one at all. -/
def lastSaid? (e : Element) (meaning : String → Option β) (lines : List String) : Option β :=
  lines.reverse.findSome? (said? e meaning)

theorem said?_of_tells {line data : String} {t : Tag} (tagged : Tag.ofLine? line = some t)
    (tells : t.Tells e data) : said? e meaning line = meaning data := by
  rw [said?, tagged, Option.bind_some, if_pos tells.1, tells.2, Option.bind_some]

/-- A tag that opens another element, or none with content, says nothing of this one. -/
theorem said?_eq_none {line : String} {t : Tag} (tagged : Tag.ofLine? line = some t)
    (other : ∀ data, ¬ t.Tells e data) : said? e meaning line = none := by
  rw [said?, tagged, Option.bind_some]
  split
  · rename_i mark
    cases content : t.content with
    | none => rfl
    | some data => exact absurd ⟨mark, content⟩ (other data)
  · rfl

theorem said?_eq_some_iff {line : String} {v : β} :
    said? e meaning line = some v ↔
      ∃ t data, Tag.ofLine? line = some t ∧ t.Tells e data ∧ meaning data = some v := by
  constructor
  · intro said
    obtain ⟨t, tagged, known⟩ := Option.bind_eq_some_iff.mp said
    split at known
    · rename_i mark
      obtain ⟨data, content, meant⟩ := Option.bind_eq_some_iff.mp known
      exact ⟨t, data, tagged, ⟨mark, content⟩, meant⟩
    · cases known
  · rintro ⟨t, data, tagged, tells, meant⟩
    rw [said?_of_tells tagged tells, meant]

@[simp] theorem lastSaid?_concat (lines : List String) (line : String) :
    lastSaid? e meaning (lines ++ [line]) =
      (said? e meaning line).or (lastSaid? e meaning lines) := by
  rw [lastSaid?, List.reverse_concat, List.findSome?_cons]
  cases said? e meaning line with
  | none => rfl
  | some v => rfl

/-- The last line that says a value has none behind it that says one. -/
theorem lastSaid?_eq_some_iff {lines : List String} {v : β} :
    lastSaid? e meaning lines = some v ↔
      ∃ before line after, lines = before ++ line :: after ∧ said? e meaning line = some v ∧
        ∀ later ∈ after, said? e meaning later = none := by
  constructor
  · intro last
    obtain ⟨after, line, before, split, said, silent⟩ := List.findSome?_eq_some_iff.mp last
    refine ⟨before.reverse, line, after.reverse, ?_, said, fun later member => ?_⟩
    · rw [← List.reverse_reverse lines, split]
      simp
    · exact silent later (List.mem_reverse.mp member)
  · rintro ⟨before, line, after, rfl, said, silent⟩
    refine List.findSome?_eq_some_iff.mpr
      ⟨after.reverse, line, before.reverse, by simp, said, fun later member => ?_⟩
    exact silent later (List.mem_reverse.mp member)

end

namespace Reader

/-- Each of the lines has the property at the reader that comes to it. -/
def Throughout (o : Settings) (holds : Reader → String → Prop) : Reader → List String → Prop
  | _, [] => True
  | r, line :: rest => holds r line ∧ Throughout o holds (r.feed o line).reader rest

/-- Where not all lines lack a property there is a first one that has it. -/
theorem throughout_not_or_first (o : Settings) (holds : Reader → String → Prop) (r : Reader)
    (lines : List String) :
    Throughout o (fun s line => ¬ holds s line) r lines ∨
      ∃ before line after, lines = before ++ line :: after ∧
        Throughout o (fun s line => ¬ holds s line) r before ∧ holds (fed o r before) line := by
  induction lines generalizing r with
  | nil => exact .inl trivial
  | cons line rest ih =>
    by_cases here : holds r line
    · exact .inr ⟨[], line, rest, rfl, trivial, here⟩
    · obtain none | ⟨before, first, after, rfl, front, has⟩ := ih (r.feed o line).reader
      · exact .inl ⟨here, none⟩
      · exact .inr ⟨line :: before, first, after, rfl, ⟨here, front⟩, has⟩

end Reader

end RegisterMap.Document
