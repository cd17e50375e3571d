import Mathlib.Data.List.Forall2
import RegisterMap.Document.DerivedFrom
import RegisterMap.Proofs.Text.Blanks

/-!
The search for the attribute that names a base. An attempt succeeds just at a text of one form: the
name, an equals sign with blanks around it, and a value between two quotes of the same kind. A part
of the text in which no attempt succeeds is passed over, whatever follows it.
-/

set_option autoImplicit false

namespace RegisterMap.Document

open Text (isBlank isWordChar isWordChar_of_isAlphanum trimLeft)

/-! ## Characters -/

theorem isWordChar_of_isBlank {c : Char} (blank : isBlank c = true) : isWordChar c = false := by
  have known : ∀ n ∈ List.range' 0x09 5 ++ List.range' 0x1C 5 ++ [0x85, 0xA0, 0x1680] ++
      List.range' 0x2000 11 ++ [0x2028, 0x2029, 0x202F, 0x205F, 0x3000],
      isWordChar (Char.ofNat n) = false := by
    decide +kernel
  have listed : c.toNat ∈ List.range' 0x09 5 ++ List.range' 0x1C 5 ++ [0x85, 0xA0, 0x1680] ++
      List.range' 0x2000 11 ++ [0x2028, 0x2029, 0x202F, 0x205F, 0x3000] := by
    simp only [isBlank, Bool.or_eq_true, Bool.and_eq_true, decide_eq_true_eq, beq_iff_eq] at blank
    simp only [List.mem_append, List.mem_range'_1, List.mem_cons, List.not_mem_nil, or_false]
    omega
  have same := known c.toNat listed
  rwa [Char.ofNat_toNat] at same

/-- Every letter of the name is a word character, in each of its cases. -/
theorem isWordChar_of_isLetter {letter c : Char} (member : letter ∈ attributeName)
    (same : isLetter letter c = true) : isWordChar c = true := by
  have letters : ∀ letter ∈ attributeName, isWordChar letter = true :=
    List.all_eq_true.mp (by decide +kernel)
  simp only [isLetter, Bool.or_eq_true, beq_iff_eq, Bool.and_eq_true] at same
  rcases same with lower | ⟨-, rfl | rfl⟩
  · by_cases upper : c.isUpper = true
    · have alpha : c.isAlpha = true := (Bool.or_eq_true ..).mpr (.inl upper)
      exact isWordChar_of_isAlphanum ((Bool.or_eq_true ..).mpr (.inl alpha))
    · have same : c.toLower = c := dif_neg fun bounds => upper (decide_eq_true bounds)
      rw [same] at lower
      exact lower ▸ letters letter member
  · decide +kernel
  · decide +kernel

theorem isWordChar_equals : isWordChar '=' = false := by decide +kernel

/-! ## One attempt -/

def IsQuote (c : Char) : Prop := c = '"' ∨ c = '\''

section

variable {c : Char}

theorem IsQuote.not_isBlank (quote : IsQuote c) : isBlank c = false := by
  rcases quote with rfl | rfl <;> rfl

theorem IsQuote.not_isWordChar (quote : IsQuote c) : isWordChar c = false := by
  rcases quote with rfl | rfl <;> decide +kernel

theorem IsQuote.ne_feed (quote : IsQuote c) : c ≠ '\n' := by
  rcases quote with rfl | rfl <;> decide

end

/-- The word is the name of the attribute in some case; an i may have or lack its dot. -/
def Spells (word : List Char) : Prop :=
  List.Forall₂ (fun letter c => isLetter letter c = true) attributeName word

theorem Spells.isWordChar {word : List Char} (spells : Spells word) :
    ∀ c ∈ word, isWordChar c = true := by
  have letters := (List.forall₂_and_left attributeName word).mpr ⟨fun _ member => member, spells⟩
  have chars : List.Forall₂ (fun _ c => Text.isWordChar c = true) attributeName word :=
    letters.imp fun _ _ both => isWordChar_of_isLetter both.1 both.2
  generalize attributeName = name at chars
  clear spells letters
  induction chars with
  | nil => exact nofun
  | cons first _ ih => exact List.forall_mem_cons.mpr ⟨first, ih⟩

theorem Spells.length {word : List Char} (spells : Spells word) :
    word.length = attributeName.length :=
  (List.Forall₂.length_eq spells).symm

theorem Spells.ne_nil {word : List Char} (spells : Spells word) : word ≠ [] := by
  rintro rfl
  cases spells

theorem spells_of_lower {word : List Char} (named : word.map Char.toLower = attributeName) :
    Spells word := by
  rw [Spells, ← named, List.forall₂_map_left_iff, List.forall₂_same]
  intro c _
  simp [isLetter]

/-- The text begins with the attribute, which has this value. -/
def Gives (s value : List Char) : Prop :=
  ∃ word left right quote rest, Spells word ∧ (∀ c ∈ left, isBlank c = true) ∧
    (∀ c ∈ right, isBlank c = true) ∧ IsQuote quote ∧ quote ∉ value ∧ '\n' ∉ value ∧
      s = word ++ left ++ '=' :: (right ++ quote :: (value ++ quote :: rest))

section

variable {s t value : List Char}

theorem afterName?_eq_some_iff {name : List Char} :
    afterName? name s = some t ↔
      ∃ word, List.Forall₂ (fun letter c => isLetter letter c = true) name word ∧
        s = word ++ t := by
  induction name generalizing s with
  | nil =>
    simp only [List.forall₂_nil_left_iff, exists_eq_left, List.nil_append]
    exact Option.some_inj
  | cons letter name ih =>
    simp only [List.forall₂_cons_left_iff]
    constructor
    · intro found
      cases s with
      | nil => cases found
      | cons c s =>
        by_cases same : isLetter letter c = true
        · rw [afterName?, if_pos same, ih] at found
          obtain ⟨word, spells, rfl⟩ := found
          exact ⟨c :: word, ⟨c, word, same, spells, rfl⟩, rfl⟩
        · rw [afterName?, if_neg same] at found
          cases found
    · rintro ⟨_, ⟨c, word, same, spells, rfl⟩, rfl⟩
      rw [List.cons_append, afterName?, if_pos same]
      exact ih.mpr ⟨word, spells, rfl⟩

theorem trimLeft_eq_iff :
    trimLeft s = t ↔ (∃ blanks, (∀ c ∈ blanks, isBlank c = true) ∧ s = blanks ++ t) ∧
      ∀ c, t.head? = some c → isBlank c = false := by
  constructor
  · rintro rfl
    refine ⟨⟨s.takeWhile isBlank, fun c => List.mem_takeWhile_imp,
      List.takeWhile_append_dropWhile.symm⟩, fun c first => ?_⟩
    have stops := List.head?_dropWhile_not isBlank s
    rw [← trimLeft, first] at stops
    simpa using stops
  · rintro ⟨⟨blanks, blank, rfl⟩, solid⟩
    rw [Text.trimLeft_append_of_blank blank, Text.trimLeft_of_head solid]

theorem afterEquals?_eq_some_iff :
    afterEquals? s = some t ↔
      (∃ left right, (∀ c ∈ left, isBlank c = true) ∧ (∀ c ∈ right, isBlank c = true) ∧
        s = left ++ '=' :: (right ++ t)) ∧ ∀ c, t.head? = some c → isBlank c = false := by
  unfold afterEquals?
  constructor
  · intro found
    split at found
    · rename_i rest begins
      obtain ⟨⟨left, blank, split⟩, -⟩ := trimLeft_eq_iff.mp begins
      obtain ⟨⟨right, spaced, rest⟩, solid⟩ := trimLeft_eq_iff.mp (Option.some.inj found)
      exact ⟨⟨left, right, blank, spaced, by rw [split, rest]⟩, solid⟩
    · cases found
  · rintro ⟨⟨left, right, blank, spaced, rfl⟩, solid⟩
    have begins : trimLeft (left ++ '=' :: (right ++ t)) = '=' :: (right ++ t) :=
      trimLeft_eq_iff.mpr ⟨⟨left, blank, rfl⟩, fun c first => by cases first; rfl⟩
    rw [begins]
    exact congrArg some (trimLeft_eq_iff.mpr ⟨⟨right, spaced, rfl⟩, solid⟩)

theorem upToQuote?_eq_some_iff {quote : Char} (other : quote ≠ '\n') :
    upToQuote? quote s = some value ↔
      quote ∉ value ∧ '\n' ∉ value ∧ ∃ rest, s = value ++ quote :: rest := by
  have inside : ∀ {c : Char}, (decide (c ≠ quote) && decide (c ≠ '\n')) = true ↔
      c ≠ quote ∧ c ≠ '\n' := by simp
  unfold upToQuote?
  constructor
  · intro found
    split at found
    · rename_i c rest behind
      split at found
      · rename_i same
        subst same
        obtain rfl := Option.some.inj found
        have members : ∀ d ∈ s.takeWhile fun d => d ≠ c && d ≠ '\n', d ≠ c ∧ d ≠ '\n' := by
          intro d member
          have taken := List.mem_takeWhile_imp member
          exact inside.mp taken
        refine ⟨fun member => (members _ member).1 rfl, fun member => (members _ member).2 rfl,
          rest, ?_⟩
        rw [← behind, List.takeWhile_append_dropWhile]
      · cases found
    · cases found
  · rintro ⟨apart, unbroken, rest, rfl⟩
    have members : ∀ c ∈ value, (decide (c ≠ quote) && decide (c ≠ '\n')) = true :=
      fun c member => inside.mpr ⟨fun same => apart (same ▸ member),
        fun same => unbroken (same ▸ member)⟩
    rw [List.dropWhile_append_of_pos members, List.takeWhile_append_of_pos members,
      List.dropWhile_cons_of_neg (by simp), List.takeWhile_cons_of_neg (by simp)]
    simp

theorem quotedValue?_eq_some_iff :
    quotedValue? s = some value ↔
      ∃ quote rest, IsQuote quote ∧ quote ∉ value ∧ '\n' ∉ value ∧
        s = quote :: (value ++ quote :: rest) := by
  constructor
  · intro found
    unfold quotedValue? at found
    split at found
    · obtain ⟨apart, unbroken, rest, rfl⟩ := (upToQuote?_eq_some_iff (by decide)).mp found
      exact ⟨_, rest, .inl rfl, apart, unbroken, rfl⟩
    · obtain ⟨apart, unbroken, rest, rfl⟩ := (upToQuote?_eq_some_iff (by decide)).mp found
      exact ⟨_, rest, .inr rfl, apart, unbroken, rfl⟩
    · cases found
  · rintro ⟨quote, rest, rfl | rfl, apart, unbroken, rfl⟩
    · exact (upToQuote?_eq_some_iff (by decide)).mpr ⟨apart, unbroken, rest, rfl⟩
    · exact (upToQuote?_eq_some_iff (by decide)).mpr ⟨apart, unbroken, rest, rfl⟩

/-- Behind the name and the equals sign only the value is left to an attempt. -/
theorem valueHere?_of_spells {word left right rest : List Char} {quote : Char}
    (spells : Spells word) (blank : ∀ c ∈ left, isBlank c = true)
    (spaced : ∀ c ∈ right, isBlank c = true) (isQuote : IsQuote quote) :
    valueHere? (word ++ left ++ '=' :: (right ++ quote :: rest)) =
      quotedValue? (quote :: rest) := by
  have named : afterName? attributeName (word ++ left ++ '=' :: (right ++ quote :: rest)) =
      some (left ++ '=' :: (right ++ quote :: rest)) :=
    afterName?_eq_some_iff.mpr ⟨word, spells, List.append_assoc ..⟩
  have equals : afterEquals? (left ++ '=' :: (right ++ quote :: rest)) = some (quote :: rest) :=
    afterEquals?_eq_some_iff.mpr ⟨⟨left, right, blank, spaced, rfl⟩,
      fun c first => by cases first; exact isQuote.not_isBlank⟩
  rw [valueHere?, named, Option.bind_some, equals, Option.bind_some]

/-- An attempt succeeds just where the attribute begins. -/
theorem valueHere?_eq_some_iff : valueHere? s = some value ↔ Gives s value := by
  constructor
  · intro found
    obtain ⟨quoted, named, closed⟩ := Option.bind_eq_some_iff.mp found
    obtain ⟨behind, spelled, equals⟩ := Option.bind_eq_some_iff.mp named
    obtain ⟨word, spells, rfl⟩ := afterName?_eq_some_iff.mp spelled
    obtain ⟨⟨left, right, blank, spaced, rfl⟩, -⟩ := afterEquals?_eq_some_iff.mp equals
    obtain ⟨quote, rest, isQuote, apart, unbroken, rfl⟩ := quotedValue?_eq_some_iff.mp closed
    exact ⟨word, left, right, quote, rest, spells, blank, spaced, isQuote, apart, unbroken,
      by rw [List.append_assoc]⟩
  · rintro ⟨word, left, right, quote, rest, spells, blank, spaced, isQuote, apart, unbroken, rfl⟩
    rw [valueHere?_of_spells spells blank spaced isQuote]
    exact quotedValue?_eq_some_iff.mpr ⟨quote, rest, isQuote, apart, unbroken, rfl⟩

theorem Gives.ne_nil (gives : Gives s value) : s ≠ [] := by
  obtain ⟨word, left, right, quote, rest, -, -, -, -, -, -, rfl⟩ := gives
  simp

theorem Gives.isWordChar {c : Char} (gives : Gives (c :: s) value) :
    Text.isWordChar c = true := by
  obtain ⟨word, left, right, quote, rest, spells, -, -, -, -, -, same⟩ := gives
  obtain ⟨d, word, rfl⟩ := List.exists_cons_of_ne_nil spells.ne_nil
  obtain ⟨rfl, -⟩ := List.cons.inj same
  exact spells.isWordChar c List.mem_cons_self

end

/-! ## The search -/

/-- Whether a word character stands at the end of the text; `before` tells of the one in front. -/
def endsInWord (before : Bool) (s : List Char) : Bool := (s.getLast?.map isWordChar).getD before

theorem endsInWord_cons (before : Bool) (c : Char) (s : List Char) :
    endsInWord before (c :: s) = endsInWord (isWordChar c) s := by
  unfold endsInWord
  rw [List.getLast?_cons]
  cases s.getLast? <;> rfl

theorem endsInWord_append (before : Bool) (s t : List Char) :
    endsInWord before (s ++ t) = endsInWord (endsInWord before s) t := by
  unfold endsInWord
  rw [List.getLast?_append]
  cases t.getLast? <;> rfl

section

variable {inWord : Bool} {front rest s value : List Char}

/-- A part in which no attempt succeeds is passed over. -/
theorem findValue?_append
    (fails : ∀ before c after, front = before ++ c :: after → endsInWord inWord before = false →
      ∀ value, ¬ Gives (c :: after ++ rest) value) :
    findValue? inWord (front ++ rest) = findValue? (endsInWord inWord front) rest := by
  induction front generalizing inWord with
  | nil => rfl
  | cons c front ih =>
    have here : (if inWord then none else valueHere? (c :: front ++ rest)) = none := by
      cases inWord with
      | true => rfl
      | false =>
        refine Option.eq_none_iff_forall_ne_some.mpr fun value found => ?_
        exact fails [] c front rfl rfl value (valueHere?_eq_some_iff.mp found)
    rw [List.cons_append] at here
    rw [List.cons_append, findValue?, here, endsInWord_cons]
    refine ih fun before d after split bounded => fails (c :: before) d after ?_ ?_
    · rw [split, List.cons_append]
    · rw [endsInWord_cons]
      exact bounded

theorem findValue?_append_of_apart (begun : front ≠ [])
    (apart : ∀ c ∈ front, isWordChar c = false) :
    findValue? inWord (front ++ rest) = findValue? false rest := by
  rw [findValue?_append]
  · have bounded : endsInWord inWord front = false := by
      rw [endsInWord, List.getLast?_eq_some_getLast begun]
      exact apart _ (List.getLast_mem begun)
    rw [bounded]
  · rintro before c after rfl - value gives
    have solid := apart c (List.mem_append_right before List.mem_cons_self)
    rw [gives.isWordChar] at solid
    cases solid

theorem findValue?_append_of_blank (blank : ∀ c ∈ front, isBlank c = true) :
    findValue? false (front ++ rest) = findValue? false rest := by
  by_cases none : front = []
  · rw [none, List.nil_append]
  · exact findValue?_append_of_apart none fun c member => isWordChar_of_isBlank (blank c member)

theorem findValue?_trimLeft (s : List Char) :
    findValue? false (trimLeft s) = findValue? false s := by
  obtain ⟨⟨blanks, blank, split⟩, -⟩ := trimLeft_eq_iff.mp (rfl : trimLeft s = trimLeft s)
  conv_rhs => rw [split]
  exact (findValue?_append_of_blank blank).symm

theorem findValue?_of_gives (gives : Gives s value) : findValue? false s = some value := by
  obtain ⟨c, rest, rfl⟩ := List.exists_cons_of_ne_nil gives.ne_nil
  rw [findValue?, if_neg (by decide), valueHere?_eq_some_iff.mpr gives]

/-- The search finds some value if the attribute begins anywhere behind a character that is not of a
word. -/
theorem findValue?_ne_none (gives : Gives s value) (bounded : endsInWord inWord front = false) :
    findValue? inWord (front ++ s) ≠ none := by
  induction front generalizing inWord with
  | nil =>
    obtain rfl : inWord = false := bounded
    rw [List.nil_append, findValue?_of_gives gives]
    exact Option.some_ne_none value
  | cons c front ih =>
    rw [endsInWord_cons] at bounded
    rw [List.cons_append, findValue?]
    split
    · exact Option.some_ne_none _
    · exact ih bounded

end

end RegisterMap.Document
