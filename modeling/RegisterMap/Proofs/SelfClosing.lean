import RegisterMap.Proofs.Reader.Vocabulary
import RegisterMap.Proofs.Tag

/-!
Tags with a slash at their end. If the slash stands right behind the name, it belongs to the name,
and no element is called so: the line says nothing. Behind a blank the slash is one more attribute
that nobody asks for, so that the element is opened as if the slash were not there.
-/

set_option autoImplicit false

namespace RegisterMap.Document

open Text (isBlank trim trimLeft firstWord afterFirstWord)

/-! ## The base behind a slash -/

theorem isLetter_slash {letter : Char} (member : letter ∈ attributeName) :
    isLetter letter '/' = false := by
  have letters : attributeName.all (fun letter => !isLetter letter '/') = true := by decide
  have other := List.all_eq_true.mp letters letter member
  rwa [Bool.not_eq_true'] at other

theorem afterName?_append_slash {name : List Char} (s : List Char)
    (letters : ∀ letter ∈ name, isLetter letter '/' = false) :
    afterName? name (s ++ ['/']) = (afterName? name s).map (· ++ ['/']) := by
  induction name generalizing s with
  | nil => rfl
  | cons letter name ih =>
    have rest := fun letter member => letters letter (List.mem_cons_of_mem _ member)
    cases s with
    | nil => simp [afterName?, letters letter (by simp)]
    | cons c s =>
      by_cases same : isLetter letter c = true
      · simp only [List.cons_append, afterName?, same, if_true]
        exact ih s rest
      · simp [afterName?, same]

theorem trimLeft_append_slash (s : List Char) : trimLeft (s ++ ['/']) = trimLeft s ++ ['/'] := by
  rw [Text.trimLeft_append]
  split
  · rename_i empty
    rw [empty]
    rfl
  · rfl

theorem afterEquals?_append_slash (s : List Char) :
    afterEquals? (s ++ ['/']) = (afterEquals? s).map (· ++ ['/']) := by
  unfold afterEquals?
  rw [trimLeft_append_slash]
  cases trimLeft s with
  | nil => rfl
  | cons c rest =>
    by_cases equals : c = '='
    · subst equals
      simp [trimLeft_append_slash]
    · simp [equals]

theorem upToQuote?_append_slash {quote : Char} (other : quote ≠ '/') (s : List Char) :
    upToQuote? quote (s ++ ['/']) = upToQuote? quote s := by
  unfold upToQuote?
  rw [List.dropWhile_append]
  cases rest : s.dropWhile (fun c => c ≠ quote && c ≠ '\n') with
  | nil => simp [Ne.symm other]
  | cons c rest =>
    -- The quote stands before the slash, and so does the value.
    have short : (s.takeWhile fun c => c ≠ quote && c ≠ '\n').length ≠ s.length := by
      have whole := congrArg List.length
        (List.takeWhile_append_dropWhile (p := fun c => c ≠ quote && c ≠ '\n') (l := s))
      rw [rest, List.length_append, List.length_cons] at whole
      omega
    rw [List.takeWhile_append, if_neg short]
    rfl

theorem quotedValue?_append_slash (s : List Char) :
    quotedValue? (s ++ ['/']) = quotedValue? s := by
  cases s with
  | nil => rfl
  | cons c s =>
    by_cases double : c = '"'
    · subst double
      exact upToQuote?_append_slash (by decide) s
    · by_cases single : c = '\''
      · subst single
        exact upToQuote?_append_slash (by decide) s
      · simp [quotedValue?, double, single]

theorem valueHere?_append_slash (s : List Char) : valueHere? (s ++ ['/']) = valueHere? s := by
  unfold valueHere?
  rw [afterName?_append_slash s fun _ => isLetter_slash]
  cases afterName? attributeName s with
  | none => rfl
  | some rest =>
    simp only [Option.map_some, Option.bind_some, afterEquals?_append_slash]
    cases afterEquals? rest with
    | none => rfl
    | some value => exact quotedValue?_append_slash value

/-- A value ends with a quote, so that a slash behind all of them is in none. -/
theorem findValue?_append_slash (inWord : Bool) (s : List Char) :
    findValue? inWord (s ++ ['/']) = findValue? inWord s := by
  induction s generalizing inWord with
  | nil => cases inWord <;> rfl
  | cons c s ih =>
    have here : valueHere? (c :: (s ++ ['/'])) = valueHere? (c :: s) :=
      valueHere?_append_slash (c :: s)
    simp only [List.cons_append, findValue?, here, ih]

theorem derivedFrom?_append_slash (s : List Char) :
    derivedFrom? (s ++ ['/']) = derivedFrom? s :=
  findValue?_append_slash false s

/-! ## The line -/

/-- Trimmed, the line begins with a tag whose text ends in a slash. The slash follows `inner`. -/
def SelfCloses (line : String) (inner after : List Char) : Prop :=
  '>' ∉ inner ∧ trim line.toList = '<' :: (inner ++ '/' :: '>' :: after)

section

variable {line : String} {inner after : List Char}

theorem SelfCloses.ofLine? (closes : SelfCloses line inner after) :
    Tag.ofLine? line = some (Tag.ofParts (inner ++ ['/']) after) := by
  obtain ⟨clear, trimmed⟩ := closes
  apply ofLine?_of_trim
  · simpa using clear
  · rw [trimmed, List.append_assoc]
    rfl

/-- The line without its slash has a tag, too: it ends where a trimmed text does. -/
theorem SelfCloses.ofLine?_tagLine (closes : SelfCloses line inner after) :
    Tag.ofLine? (tagLine inner after) = some (Tag.ofParts inner after) := by
  apply Document.ofLine?_tagLine closes.1
  intro c last
  apply Text.isBlank_of_getLast?_trim (s := line.toList)
  rw [closes.2]
  simp [List.getLast?_cons, last]

/-- No name of an element ends in a slash. -/
theorem ofName?_append_slash (name : List Char) : Element.ofName? (name ++ ['/']) = none := by
  have letters : ∀ e ∈ Element.all, '/' ∉ Text.fold e.text.toList := by decide +kernel
  rw [Element.ofName?, List.find?_eq_none]
  intro e known same
  have slash : '/' ∈ Text.fold (name ++ ['/']) := by
    rw [Text.fold, List.map_append]
    exact List.mem_append_right _ (by decide)
  rw [of_decide_eq_true same] at slash
  exact letters e known slash

theorem ofName_append_slash (name : List Char) : Mark.ofName (name ++ ['/']) = .unknown := by
  cases name with
  | nil => rfl
  | cons c name =>
    by_cases closing : c = '/'
    · subst closing
      simp only [List.cons_append, Mark.ofName, ofName?_append_slash]
    · have whole := ofName?_append_slash (c :: name)
      rw [List.cons_append] at whole
      simp [Mark.ofName, closing, whole]

theorem mark_of_solid (solid : ∀ c ∈ trimLeft inner, isBlank c = false) :
    (Tag.ofParts (inner ++ ['/']) after).mark = .unknown := by
  have word : firstWord (inner ++ ['/']) = trimLeft inner ++ ['/'] := by
    rw [firstWord, trimLeft_append_slash, List.takeWhile_eq_self_iff]
    intro c member
    rcases List.mem_append.mp member with inside | slash
    · rw [solid c inside]
      rfl
    · rw [List.mem_singleton.mp slash]
      rfl
  rw [Tag.mark, Tag.ofParts, String.toList_ofList, word]
  exact ofName_append_slash _

theorem ofParts_of_spaced (spaced : ∃ c ∈ trimLeft inner, isBlank c = true) :
    Tag.ofParts (inner ++ ['/']) after = Tag.ofParts inner after := by
  obtain ⟨c, member, blank⟩ := spaced
  -- The first word ends at a blank, which comes before the slash.
  have rest : (trimLeft inner).dropWhile (!isBlank ·) ≠ [] := by
    intro none
    have solid := List.dropWhile_eq_nil_iff.mp none c member
    simp [blank] at solid
  have short : ((trimLeft inner).takeWhile (!isBlank ·)).length ≠ (trimLeft inner).length := by
    have whole := congrArg List.length
      (List.takeWhile_append_dropWhile (p := (!isBlank ·)) (l := trimLeft inner))
    rw [List.length_append] at whole
    have some := List.length_pos_iff.mpr rest
    omega
  have word : firstWord (inner ++ ['/']) = firstWord inner := by
    rw [firstWord, trimLeft_append_slash, List.takeWhile_append, if_neg short]
    rfl
  have behind : afterFirstWord (inner ++ ['/']) = afterFirstWord inner ++ ['/'] := by
    rw [afterFirstWord, trimLeft_append_slash, List.dropWhile_append,
      if_neg (by simpa [List.isEmpty_iff] using rest), trimLeft_append_slash]
    rfl
  rw [Tag.ofParts, word, behind, derivedFrom?_append_slash]
  rfl

/-- A line whose tag ends in a slash says nothing if the slash ends the name. Otherwise the line is
read as the one that lacks the slash. -/
theorem feed_of_selfCloses (closes : SelfCloses line inner after) (o : Settings) (r : Reader) :
    ((∀ c ∈ trimLeft inner, isBlank c = false) →
        r.feed o line = { reader := { r with line := r.line + 1 } }) ∧
      ((∃ c ∈ trimLeft inner, isBlank c = true) →
        r.feed o line = r.feed o (tagLine inner after)) := by
  constructor
  · intro solid
    have unknown : (Tag.ofParts (inner ++ ['/']) after).mark = .unknown := mark_of_solid solid
    apply feed_of_inert
    apply Inert.unknown closes.ofLine?
    · rw [unknown]
      cases r.place <;> decide
    · rw [unknown]
      intro a _
      exact nofun
  · intro spaced
    unfold Reader.feed
    rw [closes.ofLine?, closes.ofLine?_tagLine, ofParts_of_spaced spaced]

end

theorem feed_of_selfCloses_derived :
    let r := Reader.fed {} {} ["<peripherals>"]
    r.feed {} "<peripheral derivedFrom='A'/>" = r.feed {} "<peripheral derivedFrom='A'>" := by
  have closes : SelfCloses "<peripheral derivedFrom='A'/>" "peripheral derivedFrom='A'".toList [] :=
    ⟨by decide +kernel, by decide +kernel⟩
  have same := (feed_of_selfCloses closes {} (Reader.fed {} {} ["<peripherals>"])).2
    ⟨' ', by decide +kernel, by decide +kernel⟩
  exact same

/-- The line opens a processor, and what follows it is read as part of that. -/
theorem spaced_slash_opens :
    ¬ ∀ (o : Settings) (lines : List String) (line : String) (inner after : List Char),
      SelfCloses line inner after →
        (Reader.fed o {} lines).feed o line =
          { reader := { Reader.fed o {} lines with line := (Reader.fed o {} lines).line + 1 } } := by
  intro ignored
  have closes : SelfCloses "<cpu />" "cpu ".toList [] := ⟨by decide +kernel, by decide +kernel⟩
  have stays := congrArg (fun s : Step => s.reader.place) (ignored {} [] _ _ _ closes)
  exact absurd stays (by decide +kernel)

end RegisterMap.Document
