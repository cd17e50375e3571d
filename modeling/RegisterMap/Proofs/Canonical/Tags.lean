import RegisterMap.Proofs.Canonical.Writing
import RegisterMap.Proofs.Reader.Effect
import RegisterMap.Proofs.Tag

/-!
The tags of canonical lines. A line that begins with a tag and ends with one has no blanks to trim,
and the name of an element is a single word, so that the reader finds in the line just what was
written there.
-/

set_option autoImplicit false

namespace RegisterMap.Document

open Text (isBlank trim trim_of_ends firstWord_of_solid afterFirstWord_of_solid)

/-- The tag of a line that begins with a name between angle brackets and ends with another tag. -/
theorem ofLine?_eq {line : String} {name after start : List Char}
    (begins : line.toList = '<' :: (name ++ '>' :: after))
    (ends : line.toList = start ++ ['>'])
    (word : ∀ c ∈ name, isBlank c = false ∧ c ≠ '>') :
    Tag.ofLine? line =
      some { name := String.ofList name, content := (upTo? '<' after).map String.ofList } := by
  have trimmed : trim line.toList = '<' :: (name ++ '>' :: after) := by
    rw [← begins]
    apply trim_of_ends
    · intro c first
      rw [begins] at first
      cases first
      rfl
    · intro c last
      rw [ends, List.getLast?_concat] at last
      cases last
      rfl
  have solid : ∀ c ∈ name, isBlank c = false := fun c member => (word c member).1
  have clear : '>' ∉ name := fun member => (word '>' member).2 rfl
  rw [ofLine?_of_trim clear trimmed, Tag.ofParts, firstWord_of_solid solid,
    afterFirstWord_of_solid solid]
  rfl

namespace Element

variable (e : Element)

theorem mem_all : e ∈ all := by
  cases e <;> decide

theorem text_word : ∀ c ∈ e.text.toList, isBlank c = false ∧ c ≠ '>' ∧ c ≠ '/' := by
  have words : ∀ e ∈ all,
      (e.text.toList.all fun c => !isBlank c && c != '>' && c != '/') = true := by
    decide +kernel
  intro c member
  simpa [and_assoc] using List.all_eq_true.mp (words e e.mem_all) c member

theorem text_solid : ∀ c ∈ e.text.toList, isBlank c = false ∧ c ≠ '>' := fun c member =>
  ⟨(e.text_word c member).1, (e.text_word c member).2.1⟩

/-- No two elements have the same name. -/
theorem ofName?_text : ofName? e.text.toList = some e := by
  have known : ∀ e ∈ all, ofName? e.text.toList = some e := by decide +kernel
  exact known e e.mem_all

theorem mark_text (t : Tag) (named : t.name = e.text) : t.mark = .opening e := by
  rw [Tag.mark, named]
  unfold Mark.ofName
  split
  · rename_i name slash
    exact absurd rfl (e.text_word '/' (by simp [slash])).2.2
  · rw [e.ofName?_text]

theorem mark_slash (t : Tag) (named : t.name = "/" ++ e.text) : t.mark = .closing e := by
  have slash : ("/" ++ e.text).toList = '/' :: e.text.toList := by
    rw [String.toList_append]
    rfl
  rw [Tag.mark, named, slash, Mark.ofName, e.ofName?_text]

theorem ofLine?_opens : ∃ t, Tag.ofLine? e.opens = some t ∧ t.mark = .opening e ∧
    t.derivedFrom = none := by
  have chars : e.opens.toList = '<' :: (e.text.toList ++ ['>']) := by
    simp [opens, String.toList_append]
  have ends : e.opens.toList = '<' :: e.text.toList ++ ['>'] := chars
  refine ⟨_, ofLine?_eq chars ends e.text_solid, ?_, rfl⟩
  exact e.mark_text _ String.ofList_toList

theorem ofLine?_closes : ∃ t, Tag.ofLine? e.closes = some t ∧ t.mark = .closing e := by
  have chars : e.closes.toList = '<' :: (("/" ++ e.text).toList ++ ['>']) := by
    simp [closes, String.toList_append]
  have word : ∀ c ∈ ("/" ++ e.text).toList, isBlank c = false ∧ c ≠ '>' := by
    rw [String.toList_append]
    intro c member
    rcases List.mem_append.mp member with slash | member
    · rw [List.mem_singleton.mp slash]
      decide
    · exact e.text_solid c member
  have ends : e.closes.toList = '<' :: ("/" ++ e.text).toList ++ ['>'] := chars
  refine ⟨_, ofLine?_eq chars ends word, ?_⟩
  exact e.mark_slash _ String.ofList_toList

theorem ofLine?_holding {data : String} (plain : '<' ∉ data.toList) :
    ∃ t, Tag.ofLine? (e.holding data) = some t ∧ t.Tells e data := by
  have begins : (e.holding data).toList =
      '<' :: (e.text.toList ++ '>' :: (data.toList ++ '<' :: ("/" ++ e.text ++ ">").toList)) := by
    simp [holding, opens, closes, String.toList_append]
  have ends : (e.holding data).toList =
      (e.opens ++ data ++ "</" ++ e.text).toList ++ ['>'] := by
    simp [holding, closes, String.toList_append]
  refine ⟨_, ofLine?_eq begins ends e.text_solid, e.mark_text _ String.ofList_toList, ?_⟩
  dsimp only
  rw [upTo?_of_notMem plain, Option.map_some, String.ofList_toList]

end Element

end RegisterMap.Document
