import RegisterMap.Proofs.Tag

/-!
The base that a tag names is the value of the attribute at its leftmost place in the text behind the
tag's name. A place is where the name of the attribute stands in any case, not right behind a word
character, with an equals sign and a closed value on one line. Where the value is not closed the
search goes on behind the opening quote, so that a later place can count.
-/

set_option autoImplicit false

namespace RegisterMap.Document

open Text (isBlank isWordChar)

/-! ## Places of the attribute -/

def EndsOutsideWord (s : List Char) : Prop :=
  s = [] ∨ ∃ start c, s = start ++ [c] ∧ isWordChar c = false

/-- Behind this part of the text the attribute begins, and this is its value. -/
def GivesBehind (s front value : List Char) : Prop :=
  EndsOutsideWord front ∧ ∃ rest, s = front ++ rest ∧ Gives rest value

/-- The value at the leftmost of the places. -/
def IsLeftmost (s value : List Char) : Prop :=
  ∃ front, GivesBehind s front value ∧
    ∀ other v, GivesBehind s other v → front.length ≤ other.length

/-- The text begins with the attribute and a quote that is not closed on its line; `rest` follows
that quote. -/
def BeginsUnclosed (s rest : List Char) : Prop :=
  ∃ word left right quote, Spells word ∧ (∀ c ∈ left, isBlank c = true) ∧
    (∀ c ∈ right, isBlank c = true) ∧ IsQuote quote ∧ quote ∉ rest.takeWhile (· ≠ '\n') ∧
      s = word ++ left ++ '=' :: (right ++ quote :: rest)

section

variable {inWord : Bool} {s front rest value : List Char}

theorem endsInWord_eq_false_iff : endsInWord false s = false ↔ EndsOutsideWord s := by
  rcases List.eq_nil_or_concat s with rfl | ⟨start, c, rfl⟩
  · exact ⟨fun _ => .inl rfl, fun _ => rfl⟩
  · rw [List.concat_eq_append]
    have last : endsInWord false (start ++ [c]) = isWordChar c := by
      rw [endsInWord, List.getLast?_concat]
      rfl
    rw [last]
    constructor
    · intro outside
      exact .inr ⟨start, c, rfl, outside⟩
    · rintro (none | ⟨start', c', same, outside⟩)
      · exact absurd none (by simp)
      · obtain ⟨-, rfl⟩ := List.append_singleton_inj.mp same
        exact outside

theorem Gives.value_unique {v : List Char} (gives : Gives s value) (other : Gives s v) :
    v = value := by
  have same := (valueHere?_eq_some_iff.mpr other).symm.trans (valueHere?_eq_some_iff.mpr gives)
  exact Option.some.inj same

/-! ## What the search finds -/

/-- A value that is found stands at a place, and at none further to the left. -/
theorem gives_of_findValue? (found : findValue? inWord s = some value) :
    ∃ front rest, s = front ++ rest ∧ endsInWord inWord front = false ∧ Gives rest value ∧
      ∀ other later v, s = other ++ later → endsInWord inWord other = false → Gives later v →
        front.length ≤ other.length := by
  induction s generalizing inWord with
  | nil => cases found
  | cons c s ih =>
    rw [findValue?] at found
    split at found
    case h_1 v here =>
      obtain rfl := Option.some.inj found
      cases inWord with
      | true => cases here
      | false =>
        exact ⟨[], c :: s, rfl, rfl, valueHere?_eq_some_iff.mp here, fun _ _ _ _ _ _ =>
          Nat.zero_le _⟩
    case h_2 here =>
      obtain ⟨front, rest, rfl, outside, gives, first⟩ := ih found
      refine ⟨c :: front, rest, rfl, (endsInWord_cons ..).trans outside, gives, ?_⟩
      intro other later v same outside begun
      cases other with
      | nil =>
        obtain rfl : inWord = false := outside
        obtain rfl : c :: (front ++ rest) = later := same
        rw [if_neg (by decide), valueHere?_eq_some_iff.mpr begun] at here
        cases here
      | cons d other =>
        obtain ⟨rfl, split⟩ := List.cons.inj same
        rw [endsInWord_cons] at outside
        exact Nat.succ_le_succ (first other later v split outside begun)

theorem derivedFrom?_ne_none (gives : GivesBehind s front value) : derivedFrom? s ≠ none := by
  obtain ⟨outside, rest, rfl, begun⟩ := gives
  exact findValue?_ne_none begun (endsInWord_eq_false_iff.mpr outside)

theorem isLeftmost_of_derivedFrom? (found : derivedFrom? s = some value) : IsLeftmost s value := by
  obtain ⟨front, rest, split, bounded, gives, first⟩ := gives_of_findValue? found
  refine ⟨front, ⟨endsInWord_eq_false_iff.mp bounded, rest, split, gives⟩, ?_⟩
  rintro other v ⟨outside, later, same, begun⟩
  exact first other later v same (endsInWord_eq_false_iff.mpr outside) begun

theorem IsLeftmost.value_unique {v : List Char} (leftmost : IsLeftmost s value)
    (other : IsLeftmost s v) : v = value := by
  obtain ⟨front, gives, first⟩ := leftmost
  obtain ⟨front', gives', first'⟩ := other
  have level : front'.length = front.length :=
    Nat.le_antisymm (first' front value gives) (first front' v gives')
  obtain ⟨-, rest, split, begun⟩ := gives
  obtain ⟨-, rest', split', begun'⟩ := gives'
  obtain ⟨-, rfl⟩ := List.append_inj (split'.symm.trans split) level
  exact begun.value_unique begun'

theorem derivedFrom?_eq_some_iff : derivedFrom? s = some value ↔ IsLeftmost s value := by
  constructor
  · exact isLeftmost_of_derivedFrom?
  · intro leftmost
    have ⟨front, gives, _⟩ := leftmost
    obtain ⟨v, found⟩ := Option.ne_none_iff_exists'.mp (derivedFrom?_ne_none gives)
    rw [found, leftmost.value_unique (isLeftmost_of_derivedFrom? found)]

theorem derivedFrom?_eq_none_iff :
    derivedFrom? s = none ↔ ∀ front value, ¬ GivesBehind s front value := by
  constructor
  · intro none front value gives
    exact derivedFrom?_ne_none gives none
  · intro nowhere
    refine Option.eq_none_iff_forall_ne_some.mpr fun value found => ?_
    obtain ⟨front, gives, -⟩ := isLeftmost_of_derivedFrom? found
    exact nowhere front value gives

/-! ## Values that are not closed -/

theorem quotedValue?_of_unclosed {quote : Char} (unclosed : quote ∉ rest.takeWhile (· ≠ '\n')) :
    quotedValue? (quote :: rest) = none := by
  refine Option.eq_none_iff_forall_ne_some.mpr fun value found => unclosed ?_
  obtain ⟨closing, after, isQuote, -, unbroken, same⟩ := quotedValue?_eq_some_iff.mp found
  obtain ⟨rfl, rfl⟩ := List.cons.inj same
  have inLine : ∀ c ∈ value, decide (c ≠ '\n') = true := fun c member =>
    decide_eq_true fun feed => unbroken (feed ▸ member)
  rw [List.takeWhile_append_of_pos inLine]
  simp [isQuote.ne_feed]

theorem BeginsUnclosed.not_gives (unclosed : BeginsUnclosed s rest) : ¬ Gives s value := by
  intro gives
  obtain ⟨word, left, right, quote, spells, blank, spaced, isQuote, unclosed, rfl⟩ := unclosed
  have here := valueHere?_eq_some_iff.mpr gives
  rw [valueHere?_of_spells spells blank spaced isQuote, quotedValue?_of_unclosed unclosed] at here
  cases here

/-- Inside the name no attempt is made, since a letter of it stands before. -/
theorem findValue?_spelled {word : List Char} (spells : Spells word)
    (fails : ∀ value, ¬ Gives (word ++ rest) value) :
    findValue? inWord (word ++ rest) = findValue? (endsInWord inWord word) rest := by
  refine findValue?_append fun before c after split outside value gives => ?_
  rcases List.eq_nil_or_concat before with rfl | ⟨start, d, rfl⟩
  · rw [List.nil_append] at split
    rw [← split] at gives
    exact fails value gives
  · have letter : isWordChar d = true := spells.isWordChar d (by simp [split])
    rw [List.concat_eq_append, endsInWord, List.getLast?_concat] at outside
    exact absurd (letter.symm.trans outside) (by decide)

/-- The search goes on behind a quote that is not closed. -/
theorem findValue?_of_unclosed (unclosed : BeginsUnclosed s rest) :
    findValue? inWord s = findValue? false rest := by
  have fails : ∀ value, ¬ Gives s value := fun _ => unclosed.not_gives
  obtain ⟨word, left, right, quote, spells, blank, spaced, isQuote, -, rfl⟩ := unclosed
  rw [List.append_assoc] at fails
  have apart : ∀ c ∈ left ++ '=' :: (right ++ [quote]), isWordChar c = false := by
    intro c member
    simp only [List.mem_append, List.mem_cons, List.not_mem_nil, or_false] at member
    rcases member with inLeft | rfl | inRight | rfl
    · exact isWordChar_of_isBlank (blank c inLeft)
    · exact isWordChar_equals
    · exact isWordChar_of_isBlank (spaced c inRight)
    · exact isQuote.not_isWordChar
  have regrouped : left ++ '=' :: (right ++ quote :: rest) =
      (left ++ '=' :: (right ++ [quote])) ++ rest := by simp
  rw [List.append_assoc, findValue?_spelled spells fails, regrouped,
    findValue?_append_of_apart (by simp) apart]

/-- A part of the text in which the attribute has no place is passed over, with the unclosed
beginning behind it. -/
theorem derivedFrom?_append_of_unclosed (unclosed : BeginsUnclosed s rest)
    (first : ∀ other v, GivesBehind (front ++ s) other v → front.length ≤ other.length) :
    derivedFrom? (front ++ s) = derivedFrom? rest := by
  rw [derivedFrom?, findValue?_append]
  · exact findValue?_of_unclosed unclosed
  · rintro before c after rfl outside value gives
    have place : GivesBehind (before ++ c :: after ++ s) before value :=
      ⟨endsInWord_eq_false_iff.mp outside, _, List.append_assoc .., gives⟩
    have behind := first before value place
    simp only [List.length_append, List.length_cons] at behind
    omega

end

/-! ## Tags -/

theorem ofParts_of_lead {lead : List Char} (blank : ∀ c ∈ lead, isBlank c = true)
    (inner after : List Char) : Tag.ofParts (lead ++ inner) after = Tag.ofParts inner after := by
  simp only [Tag.ofParts, Text.firstWord, Text.afterFirstWord, Text.trimLeft_append_of_blank blank]

section

variable {before lead name gap text after : List Char}

/-- Blanks in front of the name, or between it and the text behind it, do not show in a tag. -/
theorem ofLine?_spacedTag (blank : ∀ c ∈ before ++ lead ++ gap ++ after, isBlank c = true)
    (begun : name ≠ []) (solid : ∀ c ∈ name, isBlank c = false) (apart : text = [] ∨ gap ≠ [])
    (clear : '>' ∉ name ++ text) (behind : List Char) :
    Tag.ofLine? (spacedLine before (lead ++ (name ++ (gap ++ text))) behind after) =
      some { name := String.ofList name
             content := (upTo? '<' (Text.trimRight behind)).map String.ofList
             derivedFrom := (derivedFrom? text).map String.ofList } := by
  simp only [List.forall_mem_append] at blank
  obtain ⟨⟨⟨blankBefore, blankLead⟩, blankGap⟩, blankAfter⟩ := blank
  have around : ∀ c ∈ before ++ after, isBlank c = true :=
    List.forall_mem_append.mpr ⟨blankBefore, blankAfter⟩
  have inTag : '>' ∉ lead ++ (name ++ (gap ++ text)) := by
    have bracket : ¬ isBlank '>' = true := by decide
    simp only [List.mem_append, not_or] at clear ⊢
    exact ⟨fun member => bracket (blankLead _ member), clear.1,
      fun member => bracket (blankGap _ member), clear.2⟩
  have spaced : ∀ c, (gap ++ text).head? = some c → isBlank c = true := by
    intro c first
    rcases apart with rfl | some
    · rw [List.append_nil] at first
      exact blankGap c (List.mem_of_head? first)
    · exact Text.head_of_all some blankGap c first
  rw [ofLine?_spacedLine behind around inTag, ofParts_of_lead blankLead,
    ofParts_append begun solid spaced, findValue?_append_of_blank blankGap, derivedFrom?]

theorem map_derivedFrom?_eq_some_iff {base : String} :
    (derivedFrom? text).map String.ofList = some base ↔ IsLeftmost text base.toList := by
  rw [← derivedFrom?_eq_some_iff, Option.map_eq_some_iff]
  constructor
  · rintro ⟨value, found, rfl⟩
    rwa [String.toList_ofList]
  · intro found
    exact ⟨base.toList, found, String.ofList_toList⟩

/-- A tag's base is the value at the leftmost place of the attribute behind the tag's name, and a
tag without such a place has none. Where the value is not closed on its line there is no place, and
if there is none before that either, all depends on what follows the quote. -/
theorem base_is_leftmost (blank : ∀ c ∈ before ++ lead ++ gap ++ after, isBlank c = true)
    (begun : name ≠ []) (solid : ∀ c ∈ name, isBlank c = false) (apart : text = [] ∨ gap ≠ [])
    (clear : '>' ∉ name ++ text) (behind : List Char) :
    ∃ t, Tag.ofLine? (spacedLine before (lead ++ (name ++ (gap ++ text))) behind after) = some t ∧
      (∀ base, t.derivedFrom = some base ↔ IsLeftmost text base.toList) ∧
      (t.derivedFrom = none ↔ ∀ front value, ¬ GivesBehind text front value) ∧
      ∀ front s rest, text = front ++ s → BeginsUnclosed s rest →
        (∀ other v, GivesBehind text other v → front.length ≤ other.length) →
          ∀ base, t.derivedFrom = some base ↔ IsLeftmost rest base.toList := by
  refine ⟨_, ofLine?_spacedTag blank begun solid apart clear behind, ?_, ?_, ?_⟩
  · intro base
    exact map_derivedFrom?_eq_some_iff
  · exact Option.map_eq_none_iff.trans derivedFrom?_eq_none_iff
  · rintro front s rest rfl unclosed first base
    rw [derivedFrom?_append_of_unclosed unclosed first]
    exact map_derivedFrom?_eq_some_iff

/-- The first quote is never closed; behind it the name is spelled with a dotted capital. -/
def unclosedText : List Char :=
  "derivedFrom='A DER\u0130VEDFROM\u2003= \"B\" derivedFrom=\"C\"".toList

/-- What follows the first quote. -/
def unclosedRest : List Char := "A DER\u0130VEDFROM\u2003= \"B\" derivedFrom=\"C\"".toList

def unclosedLine : String :=
  spacedLine ['\t'] ([' '] ++ ("peripheral".toList ++ ([' ', ' '] ++ unclosedText))) [] []

theorem base_is_leftmost_behindUnclosed :
    unclosedLine =
        "\t< peripheral  derivedFrom='A DER\u0130VEDFROM\u2003= \"B\" derivedFrom=\"C\">" ∧
      (Tag.ofLine? unclosedLine).bind Tag.derivedFrom = some "B" ∧
      IsLeftmost unclosedText "B".toList := by
  have blank : ∀ c ∈ ['\t'] ++ [' '] ++ [' ', ' '] ++ [], isBlank c = true :=
    List.all_eq_true.mp (by decide)
  have solid : ∀ c ∈ "peripheral".toList, isBlank c = false := Text.solid_of_all (by decide +kernel)
  have clear : '>' ∉ "peripheral".toList ++ unclosedText := by decide +kernel
  obtain ⟨t, read, base, -, unclosed⟩ :=
    base_is_leftmost blank (by decide +kernel) solid (.inr (by decide)) clear []
  have begins : BeginsUnclosed unclosedText unclosedRest :=
    ⟨"derivedFrom".toList, [], [], '\'', spells_of_lower (by decide +kernel), nofun, nofun,
      .inr rfl, by decide +kernel, by decide +kernel⟩
  have found : derivedFrom? unclosedRest = some "B".toList := by decide +kernel
  have second : t.derivedFrom = some "B" :=
    (unclosed [] unclosedText unclosedRest rfl begins (fun _ _ _ => Nat.zero_le _) "B").mpr
      (derivedFrom?_eq_some_iff.mp found)
  refine ⟨by decide +kernel, ?_, (base "B").mp second⟩
  rw [unclosedLine, read, Option.bind_some, second]

end

end RegisterMap.Document
