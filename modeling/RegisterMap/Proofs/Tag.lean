import RegisterMap.Document.Tag
import RegisterMap.Proofs.DerivedFrom

/-!
The tag of a trimmed line: what stands between its first two angle brackets, with what follows them.
-/

set_option autoImplicit false

namespace RegisterMap.Document

open Text (isBlank trim)

theorem upTo?_of_notMem {stop : Char} {data : List Char} (clear : stop ∉ data)
    (after : List Char) : upTo? stop (data ++ stop :: after) = some data := by
  have differ : ∀ c ∈ data, (decide (c ≠ stop)) = true := fun c member =>
    decide_eq_true fun same => clear (same ▸ member)
  rw [upTo?, if_pos (by simp), List.takeWhile_append_of_pos differ,
    List.takeWhile_cons_of_neg (by simp), List.append_nil]

theorem upTo?_eq_none {stop : Char} {data : List Char} (clear : stop ∉ data) :
    upTo? stop data = none :=
  if_neg (by simpa using clear)

theorem ofLine?_of_trim {line : String} {inner after : List Char} (clear : '>' ∉ inner)
    (trimmed : trim line.toList = '<' :: (inner ++ '>' :: after)) :
    Tag.ofLine? line = some (Tag.ofParts inner after) := by
  have differ : ∀ c ∈ inner, (decide (c ≠ '>')) = true := fun c member =>
    decide_eq_true fun same => clear (same ▸ member)
  have rest : (inner ++ '>' :: after).dropWhile (fun c => decide (c ≠ '>')) = '>' :: after := by
    rw [List.dropWhile_append_of_pos differ, List.dropWhile_cons_of_neg (by simp)]
  have taken : (inner ++ '>' :: after).takeWhile (fun c => decide (c ≠ '>')) = inner := by
    rw [List.takeWhile_append_of_pos differ, List.takeWhile_cons_of_neg (by simp), List.append_nil]
  simp only [Tag.ofLine?, trimmed, rest, taken]

/-- The name ends at the first blank, and the base is sought in the rest. -/
theorem ofParts_append {name rest : List Char} (begun : name ≠ [])
    (solid : ∀ c ∈ name, isBlank c = false) (apart : ∀ c, rest.head? = some c → isBlank c = true)
    (after : List Char) :
    Tag.ofParts (name ++ rest) after =
      { name := String.ofList name
        content := (upTo? '<' after).map String.ofList
        derivedFrom := (findValue? false rest).map String.ofList } := by
  rw [Tag.ofParts, Text.firstWord_append begun solid apart,
    Text.afterFirstWord_append begun solid apart, derivedFrom?, findValue?_trimLeft]

/-- The line that begins with this tag and goes on in this way. -/
def tagLine (inner after : List Char) : String := String.ofList ('<' :: (inner ++ '>' :: after))

theorem ofLine?_tagLine {inner after : List Char} (clear : '>' ∉ inner)
    (ends : ∀ c, after.getLast? = some c → isBlank c = false) :
    Tag.ofLine? (tagLine inner after) = some (Tag.ofParts inner after) := by
  apply ofLine?_of_trim clear
  rw [tagLine, String.toList_ofList]
  apply Text.trim_of_ends
  · intro c first
    cases first
    rfl
  · intro c last
    rcases List.eq_nil_or_concat after with rfl | ⟨start, d, rfl⟩
    · have same : c = '>' := by simpa [List.getLast?_cons] using last.symm
      rw [same]
      rfl
    · apply ends
      simpa [List.getLast?_cons] using last

/-- A line with a tag that has blanks around it. -/
def spacedLine (before inner behind after : List Char) : String :=
  String.ofList (before ++ '<' :: (inner ++ '>' :: behind) ++ after)

/-- Of the blanks on a line only those behind the tag reach what is read of it, and not those at the
end. -/
theorem ofLine?_spacedLine {before inner after : List Char} (behind : List Char)
    (blank : ∀ c ∈ before ++ after, isBlank c = true) (clear : '>' ∉ inner) :
    Tag.ofLine? (spacedLine before inner behind after) =
      some (Tag.ofParts inner (Text.trimRight behind)) := by
  apply ofLine?_of_trim clear
  have solid : Text.trimLeft ('<' :: (inner ++ '>' :: behind)) = '<' :: (inner ++ '>' :: behind) :=
    Text.trimLeft_of_head fun c first => by
      cases first
      rfl
  have bracket : isBlank '>' = false := rfl
  rw [spacedLine, String.toList_ofList, Text.trim_around blank, trim, solid]
  exact Text.trimRight_append_cons bracket ('<' :: inner) behind

end RegisterMap.Document
