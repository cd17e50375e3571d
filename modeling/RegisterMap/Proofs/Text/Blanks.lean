import Mathlib.Data.List.TakeWhile
import RegisterMap.Text.Blank

/-!
Blanks. Those around a text do not outlive trimming, and what is left begins and ends with a
character that is not blank. The first word of a text ends where its first blank stands.
-/

set_option autoImplicit false

namespace RegisterMap.Text

section

variable {s : List Char} {c : Char}

theorem trimLeft_of_head (solid : ∀ c, s.head? = some c → isBlank c = false) :
    trimLeft s = s := by
  cases s with
  | nil => rfl
  | cons c s => exact List.dropWhile_cons_of_neg (by simp [solid c rfl])

theorem trimRight_of_last (solid : isBlank c = false) : trimRight (s ++ [c]) = s ++ [c] := by
  rw [trimRight, List.reverse_append, List.reverse_singleton, List.singleton_append,
    List.dropWhile_cons_of_neg (by simp [solid]), List.reverse_cons, List.reverse_reverse]

theorem trimLeft_append_of_blank {before : List Char} (blank : ∀ c ∈ before, isBlank c = true)
    (s : List Char) : trimLeft (before ++ s) = trimLeft s :=
  List.dropWhile_append_of_pos blank

theorem trimRight_append_of_blank {after : List Char} (blank : ∀ c ∈ after, isBlank c = true)
    (s : List Char) : trimRight (s ++ after) = trimRight s := by
  have reversed : ∀ c ∈ after.reverse, isBlank c = true := by simpa using blank
  rw [trimRight, List.reverse_append, List.dropWhile_append_of_pos reversed]
  rfl

/-- Trimming at the end stops at a character that is not blank. -/
theorem trimRight_append_cons (solid : isBlank c = false) (s rest : List Char) :
    trimRight (s ++ c :: rest) = s ++ c :: trimRight rest := by
  have stops : (c :: s.reverse).dropWhile isBlank = c :: s.reverse :=
    List.dropWhile_cons_of_neg (by simp [solid])
  have reversed : (s ++ c :: rest).reverse = rest.reverse ++ c :: s.reverse := by simp
  rw [trimRight, trimRight, reversed, List.dropWhile_append, stops]
  split
  · rename_i empty
    rw [List.isEmpty_iff.mp empty]
    simp
  · simp

theorem mem_of_mem_trimRight (member : c ∈ trimRight s) : c ∈ s :=
  List.mem_reverse.mp ((List.dropWhile_suffix _).subset (List.mem_reverse.mp member))

theorem trimLeft_eq_nil_iff : trimLeft s = [] ↔ ∀ c ∈ s, isBlank c = true :=
  List.dropWhile_eq_nil_iff

theorem trimLeft_append (s after : List Char) :
    trimLeft (s ++ after) =
      if trimLeft s = [] then trimLeft after else trimLeft s ++ after := by
  rw [trimLeft, List.dropWhile_append]
  simp only [List.isEmpty_iff]
  rfl

theorem trim_append_of_blank {after : List Char} (blank : ∀ c ∈ after, isBlank c = true)
    (s : List Char) : trim (s ++ after) = trim s := by
  rw [trim, trim, trimLeft_append]
  split
  · rename_i empty
    rw [empty, trimLeft_eq_nil_iff.mpr blank]
  · exact trimRight_append_of_blank blank _

theorem trim_around {before after : List Char} (blank : ∀ c ∈ before ++ after, isBlank c = true)
    (s : List Char) : trim (before ++ s ++ after) = trim s := by
  rw [List.forall_mem_append] at blank
  rw [trim_append_of_blank blank.2, trim, trimLeft_append_of_blank blank.1]
  rfl

theorem isBlank_of_getLast?_trim (last : (trim s).getLast? = some c) : isBlank c = false := by
  rw [trim, trimRight, List.getLast?_reverse] at last
  have stops := List.head?_dropWhile_not isBlank (trimLeft s).reverse
  rw [last] at stops
  simpa using stops

theorem trim_of_ends (first : ∀ c, s.head? = some c → isBlank c = false)
    (last : ∀ c, s.getLast? = some c → isBlank c = false) : trim s = s := by
  rw [trim, trimLeft_of_head first]
  rcases List.eq_nil_or_concat s with rfl | ⟨start, c, rfl⟩
  · rfl
  · rw [List.concat_eq_append]
    exact trimRight_of_last (last c (by simp))

end

/-! ## Words -/

section

variable {word : List Char}

theorem solid_of_all (all : word.all (!isBlank ·) = true) : ∀ c ∈ word, isBlank c = false := by
  intro c member
  have solid := List.all_eq_true.mp all c member
  rwa [Bool.not_eq_true'] at solid

theorem dropWhile_of_solid (solid : ∀ c ∈ word, isBlank c = false) :
    word.dropWhile (!isBlank ·) = [] :=
  List.dropWhile_eq_nil_iff.mpr fun c member => by simp [solid c member]

theorem head_of_all {p : Char → Prop} {rest : List Char} (begun : word ≠ [])
    (all : ∀ c ∈ word, p c) : ∀ c, (word ++ rest).head? = some c → p c := by
  intro c head
  cases word with
  | nil => exact absurd rfl begun
  | cons d word =>
    cases head
    exact all c (List.mem_cons_self ..)

theorem firstWord_append {rest : List Char} (begun : word ≠ [])
    (solid : ∀ c ∈ word, isBlank c = false)
    (apart : ∀ c, rest.head? = some c → isBlank c = true) : firstWord (word ++ rest) = word := by
  have letters : ∀ c ∈ word, (!isBlank c) = true := fun c member => by simp [solid c member]
  rw [firstWord, trimLeft_of_head (head_of_all begun solid), List.takeWhile_append_of_pos letters]
  cases rest with
  | nil => exact List.append_nil word
  | cons c rest => rw [List.takeWhile_cons_of_neg (by simp [apart c rfl]), List.append_nil]

theorem afterFirstWord_append {rest : List Char} (begun : word ≠ [])
    (solid : ∀ c ∈ word, isBlank c = false) (apart : ∀ c, rest.head? = some c → isBlank c = true) :
    afterFirstWord (word ++ rest) = trimLeft rest := by
  have letters : ∀ c ∈ word, (!isBlank c) = true := fun c member => by simp [solid c member]
  rw [afterFirstWord, trimLeft_of_head (head_of_all begun solid),
    List.dropWhile_append_of_pos letters]
  cases rest with
  | nil => rfl
  | cons c rest => rw [List.dropWhile_cons_of_neg (by simp [apart c rfl])]

theorem firstWord_of_solid (solid : ∀ c ∈ word, isBlank c = false) : firstWord word = word := by
  by_cases empty : word = []
  · rw [empty]
    rfl
  · have whole : firstWord (word ++ []) = word := firstWord_append empty solid nofun
    rwa [List.append_nil] at whole

theorem afterFirstWord_of_solid (solid : ∀ c ∈ word, isBlank c = false) :
    afterFirstWord word = [] := by
  rw [afterFirstWord, trimLeft_of_head fun c first => solid c (List.mem_of_head? first),
    dropWhile_of_solid solid]
  rfl

end

end RegisterMap.Text
