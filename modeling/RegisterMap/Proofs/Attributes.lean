import RegisterMap.Proofs.Tag

/-!
Tags with any number of attributes `name="value"`. The search for the base goes through the text of
all of them, names and values alike. It finds the first attribute named `derivedFrom` in any case if
nothing before that reads like it. What reads like it is a longer name that ends in `derivedFrom`
behind a hyphen, a point or a colon, or one with another i, and a value in which the name of the
attribute and its equals sign are quoted.
-/

set_option autoImplicit false

namespace RegisterMap.Document

open Text (isBlank)

/-! ## Attributes -/

/-- The characters of a name; letters, digits and the underscore are the word characters. -/
def isNameChar (c : Char) : Bool := Text.isWordChar c || c == '-' || c == '.' || c == ':'

structure Attribute where
  gap : List Char
  name : List Char
  value : List Char
  apart : gap ≠ [] := by decide +kernel
  blank : ∀ c ∈ gap, isBlank c = true := by exact List.all_eq_true.mp (by decide +kernel)
  begun : name ≠ [] := by decide +kernel
  named : ∀ c ∈ name, isNameChar c = true := by exact List.all_eq_true.mp (by decide +kernel)
  inQuotes : '"' ∉ value := by decide +kernel
  onLine : '\n' ∉ value := by decide +kernel
  inTag : '>' ∉ value := by decide +kernel

/-- The text ends in the attribute's name, with no word character before that. -/
def EndsInBase (name : List Char) : Prop :=
  ∃ front word, name = front ++ word ∧ Spells word ∧ endsInWord false front = false

/-- The text mentions the attribute up to its equals sign, and a single quote or nothing follows. -/
def Alludes (value : List Char) : Prop :=
  ∃ front word left right rest, value = front ++ (word ++ left ++ '=' :: (right ++ rest)) ∧
    endsInWord false front = false ∧ Spells word ∧ (∀ c ∈ left, isBlank c = true) ∧
      (∀ c ∈ right, isBlank c = true) ∧ (rest = [] ∨ ∃ more, rest = '\'' :: more)

namespace Attribute

def text (a : Attribute) : List Char := a.gap ++ (a.name ++ '=' :: '"' :: (a.value ++ ['"']))

/-- The whole name is the one sought, in any case. -/
def IsBase (a : Attribute) : Prop := a.name.map Char.toLower = attributeName

instance : DecidablePred IsBase := fun _ => inferInstanceAs (Decidable (_ = _))

/-- The search may stop in this attribute. -/
def Attracts (a : Attribute) : Prop := EndsInBase a.name ∨ Alludes a.value

theorem IsBase.endsInBase {a : Attribute} (base : a.IsBase) : EndsInBase a.name :=
  ⟨[], a.name, rfl, spells_of_lower base, rfl⟩

end Attribute

theorem isBlank_of_isNameChar {c : Char} (named : isNameChar c = true) : isBlank c = false := by
  simp only [isNameChar, Bool.or_eq_true, beq_iff_eq] at named
  rcases named with ((word | rfl) | rfl) | rfl
  · refine eq_false_of_ne_true fun blank => ?_
    rw [isWordChar_of_isBlank blank] at word
    cases word
  all_goals rfl

theorem isWordChar_quote : Text.isWordChar '"' = false := IsQuote.not_isWordChar (.inl rfl)

theorem not_isNameChar_equals : ¬ isNameChar '=' = true := by decide +kernel

theorem not_isNameChar_bracket : ¬ isNameChar '>' = true := by decide +kernel

/-! ## What the search passes over -/

section

variable {inWord : Bool} {front rest s value : List Char}

/-- Before the equals sign of an attribute stands nothing but the name. -/
theorem Gives.spells (gives : Gives (s ++ '=' :: rest) value)
    (named : ∀ c ∈ s, isNameChar c = true) : Spells s := by
  obtain ⟨word, left, right, quote, rest, spells, blank, -, -, -, -, same⟩ := gives
  have inName : '=' ∉ s := fun member => not_isNameChar_equals (named _ member)
  have inWord : '=' ∉ word ++ left := by
    rw [List.mem_append]
    rintro (member | member)
    · exact absurd (spells.isWordChar _ member) (by simp [isWordChar_equals])
    · exact absurd (blank _ member) (by decide)
  have cut := congrArg (upTo? '=') same
  rw [upTo?_of_notMem inName, upTo?_of_notMem inWord] at cut
  obtain rfl := Option.some.inj cut
  have none : left = [] := by
    refine List.eq_nil_iff_forall_not_mem.mpr fun c member => ?_
    have solid := isBlank_of_isNameChar (named c (List.mem_append_right word member))
    rw [blank c member] at solid
    cases solid
  rwa [none, List.append_nil]

/-- An attempt in a quoted text that goes on behind the quote needs the name and the equals sign to
stand before it. -/
theorem Gives.alludes {u : List Char} (gives : Gives (u ++ '"' :: rest) value) (clear : '"' ∉ u)
    (bounded : endsInWord false front = false) : Alludes (front ++ u) := by
  obtain ⟨word, left, right, quote, after, spells, blank, spaced, isQuote, -, -, same⟩ := gives
  suffices ends : ∃ tail, u = word ++ left ++ '=' :: (right ++ tail) ∧
      (tail = [] ∨ ∃ more, tail = '\'' :: more) by
    obtain ⟨tail, split, closes⟩ := ends
    exact ⟨front, word, left, right, tail, by rw [split], bounded, spells, blank, spaced, closes⟩
  have before : '"' ∉ word ++ left ++ '=' :: right := by
    simp only [List.mem_append, List.mem_cons, not_or]
    refine ⟨⟨fun member => ?_, fun member => ?_⟩, by decide, fun member => ?_⟩
    · exact absurd (spells.isWordChar _ member) (by simp [isWordChar_quote])
    · exact absurd (blank _ member) (by decide)
    · exact absurd (spaced _ member) (by decide)
  have whole : u ++ '"' :: rest =
      (word ++ left ++ '=' :: right) ++ quote :: (value ++ quote :: after) := by
    rw [same]
    simp
  rcases List.append_eq_append_iff.mp whole with ⟨tail, split, rest⟩ | ⟨tail, split, rest⟩
  · cases tail with
    | nil => exact ⟨[], by simpa using split.symm, .inl rfl⟩
    | cons c tail =>
      obtain ⟨rfl, -⟩ := List.cons.inj rest
      exact absurd (split ▸ List.mem_append_right u List.mem_cons_self) before
  · cases tail with
    | nil => exact ⟨[], by simpa using split, .inl rfl⟩
    | cons c tail =>
      obtain ⟨rfl, -⟩ := List.cons.inj rest
      rcases isQuote with rfl | rfl
      · exact absurd (split ▸ List.mem_append_right _ List.mem_cons_self) clear
      · exact ⟨'\'' :: tail, by simpa using split, .inr ⟨tail, rfl⟩⟩

end

/-! ## Attributes one after the other -/

namespace Attribute

variable {a : Attribute} {attributes : List Attribute}

theorem text_append (a : Attribute) (rest : List Char) :
    a.text ++ rest = a.gap ++ (a.name ++ '=' :: '"' :: (a.value ++ '"' :: rest)) := by
  simp [text]

theorem findValue?_of_quiet (quiet : ¬ a.Attracts) (rest : List Char) :
    findValue? false (a.text ++ rest) = findValue? false rest := by
  have name : findValue? false (a.name ++ '=' :: '"' :: (a.value ++ '"' :: rest)) =
      findValue? (endsInWord false a.name) ('=' :: '"' :: (a.value ++ '"' :: rest)) := by
    refine findValue?_append fun before c after split bounded value gives => quiet (.inl ?_)
    have named := a.named
    rw [split, List.forall_mem_append] at named
    exact ⟨before, c :: after, split, gives.spells named.2, bounded⟩
  have equals : findValue? (endsInWord false a.name) (['=', '"'] ++ (a.value ++ '"' :: rest)) =
      findValue? false (a.value ++ '"' :: rest) :=
    findValue?_append_of_apart (by simp) (by simp [isWordChar_equals, isWordChar_quote])
  have value : findValue? false (a.value ++ '"' :: rest) =
      findValue? (endsInWord false a.value) ('"' :: rest) := by
    refine findValue?_append fun before c after split bounded value gives => quiet (.inr ?_)
    have clear := a.inQuotes
    rw [split, List.mem_append, not_or] at clear
    rw [split]
    exact gives.alludes clear.2 bounded
  have quote : findValue? (endsInWord false a.value) (['"'] ++ rest) = findValue? false rest :=
    findValue?_append_of_apart (by simp) (by simp [isWordChar_quote])
  calc findValue? false (a.text ++ rest)
      = findValue? false (a.name ++ '=' :: '"' :: (a.value ++ '"' :: rest)) := by
        rw [text_append, findValue?_append_of_blank a.blank]
    _ = findValue? (endsInWord false a.name) ('=' :: '"' :: (a.value ++ '"' :: rest)) := name
    _ = findValue? false (a.value ++ '"' :: rest) := equals
    _ = findValue? (endsInWord false a.value) ('"' :: rest) := value
    _ = findValue? false rest := quote

/-- Of a name that ends in the one sought only that end is spelled like it. -/
theorem findValue?_of_endsInBase (ends : EndsInBase a.name) (rest : List Char) :
    findValue? false (a.text ++ rest) = some a.value := by
  obtain ⟨front, word, split, spells, bounded⟩ := ends
  have passed : findValue? false (front ++ (word ++ '=' :: '"' :: (a.value ++ '"' :: rest))) =
      findValue? (endsInWord false front) (word ++ '=' :: '"' :: (a.value ++ '"' :: rest)) := by
    refine findValue?_append fun before c after parts _ value gives => ?_
    have named := a.named
    rw [split, parts, List.append_assoc, List.forall_mem_append] at named
    rw [← List.append_assoc] at gives
    have long := (gives.spells named.2).length
    have short := spells.length
    simp only [List.cons_append, List.length_cons, List.length_append] at long
    omega
  have gives : Gives (word ++ '=' :: '"' :: (a.value ++ '"' :: rest)) a.value :=
    ⟨word, [], [], '"', rest, spells, nofun, nofun, .inl rfl, a.inQuotes, a.onLine, by simp⟩
  rw [text_append, findValue?_append_of_blank a.blank, split, List.append_assoc, passed, bounded,
    findValue?_of_gives gives]

/-- With a suitable text behind it an attribute whose value alludes stops the search. -/
theorem findValue?_ne_none_of_alludes (alludes : Alludes a.value) :
    findValue? false (a.text ++ ['"', '\'']) ≠ none := by
  obtain ⟨front, word, left, right, rest, split, bounded, spells, blank, spaced, ends⟩ := alludes
  have onLine := a.onLine
  obtain ⟨value, gives⟩ : ∃ value,
      Gives (word ++ left ++ '=' :: (right ++ (rest ++ ['"', '"', '\'']))) value := by
    rcases ends with rfl | ⟨more, rfl⟩
    · exact ⟨[], word, left, right, '"', ['\''], spells, blank, spaced, .inl rfl, nofun, nofun, rfl⟩
    · have closed : '\'' ∈ more ++ ['"', '"', '\''] := by simp
      obtain ⟨value, after, first, apart⟩ := List.eq_append_cons_of_mem closed
      have unbroken : '\n' ∉ more ++ ['"', '"', '\''] := by
        rw [split] at onLine
        simp only [List.mem_append, List.mem_cons, not_or] at onLine
        simp [onLine]
      rw [first, List.mem_append, not_or] at unbroken
      refine ⟨value, word, left, right, '\'', after, spells, blank, spaced, .inr rfl, apart,
        unbroken.1, ?_⟩
      rw [List.cons_append, first]
  have start : endsInWord false (a.gap ++ (a.name ++ '=' :: '"' :: front)) = false := by
    rw [endsInWord_append, endsInWord_append, endsInWord_cons, endsInWord_cons, isWordChar_quote,
      bounded]
  have whole : a.text ++ ['"', '\''] = (a.gap ++ (a.name ++ '=' :: '"' :: front)) ++
      (word ++ left ++ '=' :: (right ++ (rest ++ ['"', '"', '\'']))) := by
    rw [text_append, split]
    simp
  rw [whole]
  exact findValue?_ne_none gives start

/-- To attract the search is just to change its outcome in front of some text. -/
theorem attracts_iff :
    a.Attracts ↔ ∃ rest, findValue? false (a.text ++ rest) ≠ findValue? false rest := by
  constructor
  · rintro (ends | alludes)
    · refine ⟨[], ?_⟩
      rw [findValue?_of_endsInBase ends]
      exact Option.some_ne_none a.value
    · have nothing : findValue? false ['"', '\''] = none := by decide +kernel
      refine ⟨['"', '\''], ?_⟩
      rw [nothing]
      exact findValue?_ne_none_of_alludes alludes
  · rintro ⟨rest, differ⟩
    by_contra quiet
    exact differ (findValue?_of_quiet quiet rest)

/-- Most attributes leave the search alone for a plain reason. -/
theorem quiet_of_short (short : a.name.length < attributeName.length) (plain : '=' ∉ a.value) :
    ¬ a.Attracts := by
  rintro (⟨front, word, split, spells, -⟩ | ⟨front, word, left, right, rest, split, -⟩)
  · have long := congrArg List.length split
    rw [List.length_append, spells.length] at long
    omega
  · exact plain (by simp [split])

theorem findValue?_of_all_quiet (quiet : ∀ a ∈ attributes, ¬ a.Attracts) (rest : List Char) :
    findValue? false (attributes.flatMap text ++ rest) = findValue? false rest := by
  induction attributes with
  | nil => rfl
  | cons a attributes ih =>
    rw [List.forall_mem_cons] at quiet
    rw [List.flatMap_cons, List.append_assoc, findValue?_of_quiet quiet.1, ih quiet.2]

theorem clear (a : Attribute) : '>' ∉ a.text := by
  simp only [text, List.mem_append, List.mem_cons, List.not_mem_nil, or_false, not_or]
  refine ⟨fun member => ?_, fun member => ?_, by decide, by decide, a.inTag, by decide⟩
  · exact absurd (a.blank _ member) (by decide)
  · exact not_isNameChar_bracket (a.named _ member)

/-- Behind the name of the tag comes a blank, with attributes or without. -/
theorem isBlank_of_head? {trailing : List Char} (blank : ∀ c ∈ trailing, isBlank c = true) :
    ∀ c, (attributes.flatMap text ++ trailing).head? = some c → isBlank c = true := by
  cases attributes with
  | nil => exact fun c first => blank c (List.mem_of_mem_head? first)
  | cons a attributes =>
    rw [List.flatMap_cons, List.append_assoc, text_append]
    exact Text.head_of_all a.apart a.blank

end Attribute

/-! ## The base of a tag with attributes -/

section

variable {before name trailing after : List Char} {attributes : List Attribute}

/-- Where nothing before the first attribute of the name sought attracts the search, the tag has the
value of that as its base, and none if there is no such attribute. The first attribute to attract
the search gives its value if it does so by its name, of which the one sought may be just the
end. -/
theorem base_of_attributes (blank : ∀ c ∈ before ++ after, isBlank c = true) (begun : name ≠ [])
    (solid : ∀ c ∈ name, isBlank c = false) (clear : '>' ∉ name)
    (spaced : ∀ c ∈ trailing, isBlank c = true) (attributes : List Attribute)
    (behind : List Char) :
    ∃ t, Tag.ofLine? (spacedLine before
        (name ++ (attributes.flatMap Attribute.text ++ trailing)) behind after) = some t ∧
      ((∀ a ∈ attributes.takeWhile (¬ ·.IsBase), ¬ a.Attracts) →
        t.derivedFrom = (attributes.find? (·.IsBase)).map fun a => String.ofList a.value) ∧
      ∀ front a back, attributes = front ++ a :: back → (∀ b ∈ front, ¬ b.Attracts) →
        EndsInBase a.name → t.derivedFrom = some (String.ofList a.value) := by
  have inside : '>' ∉ name ++ (attributes.flatMap Attribute.text ++ trailing) := by
    simp only [List.mem_append, List.mem_flatMap, not_or]
    refine ⟨clear, fun ⟨a, _, member⟩ => a.clear member, fun member => ?_⟩
    exact absurd (spaced _ member) (by decide)
  have first : ∀ front a back, attributes = front ++ a :: back → (∀ b ∈ front, ¬ b.Attracts) →
      EndsInBase a.name → findValue? false (attributes.flatMap Attribute.text ++ trailing) =
        some a.value := by
    rintro front a back rfl quiet ends
    rw [List.flatMap_append, List.append_assoc, Attribute.findValue?_of_all_quiet quiet,
      List.flatMap_cons, List.append_assoc, Attribute.findValue?_of_endsInBase ends]
  refine ⟨_, ofLine?_spacedLine behind blank inside, fun quiet => ?_,
    fun front a back split quiet ends => ?_⟩
  · rw [ofParts_append begun solid (Attribute.isBlank_of_head? spaced)]
    cases found : attributes.find? (·.IsBase) with
    | none =>
      have others : attributes.takeWhile (¬ ·.IsBase) = attributes := by
        rw [List.takeWhile_eq_self_iff]
        simpa using found
      rw [others] at quiet
      have nothing : findValue? false (trailing ++ []) = none := findValue?_append_of_blank spaced
      rw [List.append_nil] at nothing
      rw [Attribute.findValue?_of_all_quiet quiet, nothing]
      rfl
    | some a =>
      obtain ⟨base, front, back, split, others⟩ := List.find?_eq_some_iff_append.mp found
      have apart : attributes.takeWhile (¬ ·.IsBase) = front := by
        rw [split, List.takeWhile_append_of_pos (by simpa using others),
          List.takeWhile_cons_of_neg (by simpa using base), List.append_nil]
      rw [apart] at quiet
      rw [first front a back split quiet (of_decide_eq_true base).endsInBase]
      rfl
  · rw [ofParts_append begun solid (Attribute.isBlank_of_head? spaced),
      first front a back split quiet ends]
    rfl

end

def numbered : Attribute := { gap := [' '], name := "id".toList, value := "a 'b'".toList }

def derived : Attribute := { gap := [' '], name := "DERIVEDFROM".toList, value := "B".toList }

/-- The name sought is only a part of the whole one. -/
def hyphenated : Attribute := { gap := [' '], name := "x-derivedFrom".toList, value := "A".toList }

theorem hyphenated_endsInBase : EndsInBase hyphenated.name :=
  ⟨"x-".toList, "derivedFrom".toList, by decide +kernel, spells_of_lower (by decide +kernel),
    by decide +kernel⟩

theorem base_of_attributes_hyphenated :
    (Tag.ofLine? "<peripheral id=\"a 'b'\" DERIVEDFROM=\"B\" x-derivedFrom=\"A\">").bind
        Tag.derivedFrom = some "B" ∧
      (Tag.ofLine? "<peripheral id=\"a 'b'\" x-derivedFrom=\"A\" DERIVEDFROM=\"B\">").bind
        Tag.derivedFrom = some "A" := by
  have none : ∀ c ∈ [] ++ [], isBlank c = true := nofun
  have solid : ∀ c ∈ "peripheral".toList, isBlank c = false :=
    Text.solid_of_all (by decide +kernel)
  have clear : '>' ∉ "peripheral".toList := by decide +kernel
  have quiet : ¬ numbered.Attracts :=
    Attribute.quiet_of_short (by decide +kernel) (by decide +kernel)
  constructor
  · obtain ⟨t, read, whole, -⟩ := base_of_attributes none (by decide +kernel) solid clear none
      [numbered, derived, hyphenated] []
    have line : spacedLine [] ("peripheral".toList ++
        ([numbered, derived, hyphenated].flatMap Attribute.text ++ ([] ++ []))) [] [] =
          "<peripheral id=\"a 'b'\" DERIVEDFROM=\"B\" x-derivedFrom=\"A\">" := by decide +kernel
    have other : ¬ numbered.IsBase := by decide +kernel
    have base : derived.IsBase := by decide +kernel
    rw [← line, read, Option.bind_some, whole (by simpa [other, base] using quiet)]
    have value : String.ofList derived.value = "B" := String.ofList_toList
    simp [other, base, value]
  · obtain ⟨t, read, -, first⟩ := base_of_attributes none (by decide +kernel) solid clear none
      [numbered, hyphenated, derived] []
    have line : spacedLine [] ("peripheral".toList ++
        ([numbered, hyphenated, derived].flatMap Attribute.text ++ ([] ++ []))) [] [] =
          "<peripheral id=\"a 'b'\" x-derivedFrom=\"A\" DERIVEDFROM=\"B\">" := by decide +kernel
    rw [← line, read, Option.bind_some,
      first [numbered] hyphenated [derived] rfl (by simpa using quiet) hyphenated_endsInBase]
    exact congrArg some String.ofList_toList

/-- The tag has no attribute named `derivedFrom`, but it has a base. -/
theorem hyphenated_name_is_taken :
    ¬ ∀ (before name trailing behind after : List Char) (attributes : List Attribute),
      (∀ c ∈ before ++ after, isBlank c = true) → name ≠ [] → (∀ c ∈ name, isBlank c = false) →
        '>' ∉ name → (∀ c ∈ trailing, isBlank c = true) →
          ∃ t, Tag.ofLine? (spacedLine before
              (name ++ (attributes.flatMap Attribute.text ++ trailing)) behind after) = some t ∧
            t.derivedFrom = (attributes.find? (·.IsBase)).map fun a => String.ofList a.value := by
  intro claimed
  obtain ⟨t, read, base⟩ := claimed [] "peripheral".toList [] [] [] [hyphenated] nofun
    (by decide +kernel) (Text.solid_of_all (by decide +kernel)) (by decide +kernel) nofun
  have line : spacedLine [] ("peripheral".toList ++
      ([hyphenated].flatMap Attribute.text ++ [])) [] [] = "<peripheral x-derivedFrom=\"A\">" := by
    decide +kernel
  have other : ¬ hyphenated.IsBase := by decide +kernel
  have taken : (Tag.ofLine? "<peripheral x-derivedFrom=\"A\">").bind Tag.derivedFrom =
      some "A" := by
    decide +kernel
  rw [← line, read, Option.bind_some, base] at taken
  simp [other] at taken

end RegisterMap.Document
