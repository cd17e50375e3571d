import RegisterMap.Proofs.Tag

/-!
Lines of the form `<name derivedFrom="base">data<…`, with blanks around them. Reading gives back the
parts that such a line was written from, be they what they may: the name and the base lack only the
characters that would end them, and the data lack the bracket of the next tag.
-/

set_option autoImplicit false

namespace RegisterMap.Document

open Text (isBlank)

/-- The attribute that names a base as it is written: behind blanks its name in any case, an equals
sign that may have blanks around it, and the value in quotes of either kind. -/
structure BaseAttribute where
  gap : List Char
  name : List Char
  left : List Char
  right : List Char
  quote : Char
  value : List Char
  apart : gap ≠ []
  blank : ∀ c ∈ gap, isBlank c = true
  blankLeft : ∀ c ∈ left, isBlank c = true
  blankRight : ∀ c ∈ right, isBlank c = true
  named : name.map Char.toLower = attributeName
  quoted : IsQuote quote
  inQuotes : quote ∉ value
  onLine : '\n' ∉ value
  inTag : '>' ∉ value

namespace BaseAttribute

variable (a : BaseAttribute)

/-- The attribute from its name on. -/
def body : List Char := a.name ++ a.left ++ '=' :: (a.right ++ a.quote :: (a.value ++ [a.quote]))

def text : List Char := a.gap ++ a.body

theorem spells : Spells a.name := spells_of_lower a.named

theorem gives_body : Gives a.body a.value :=
  ⟨a.name, a.left, a.right, a.quote, [], a.spells, a.blankLeft, a.blankRight, a.quoted, a.inQuotes,
    a.onLine, rfl⟩

theorem clear : '>' ∉ a.text := by
  have solid : ∀ s : List Char, (∀ c ∈ s, isBlank c = true) → '>' ∉ s := fun s blank member =>
    absurd (blank _ member) (by decide)
  have quote : '>' ≠ a.quote := by
    rcases a.quoted with same | same <;> rw [same] <;> decide
  have name : '>' ∉ a.name := fun member =>
    absurd (a.spells.isWordChar _ member) (by decide +kernel)
  simp only [text, body, List.mem_append, List.mem_cons, List.not_mem_nil, or_false, not_or]
  exact ⟨solid _ a.blank, ⟨name, solid _ a.blankLeft⟩, by decide, solid _ a.blankRight, quote,
    a.inTag, quote⟩

theorem head_text : ∀ c, a.text.head? = some c → isBlank c = true :=
  Text.head_of_all a.apart a.blank

theorem findValue?_text : findValue? false a.text = some a.value := by
  rw [text, findValue?_append_of_blank a.blank, findValue?_of_gives a.gives_body]

end BaseAttribute

/-- The attribute of a tag that may be without one. -/
def written (base : Option BaseAttribute) : List Char := (base.map BaseAttribute.text).getD []

section

variable {before name data after : List Char}

theorem ofParts_written (begun : name ≠ []) (solid : ∀ c ∈ name, isBlank c = false)
    (base : Option BaseAttribute) (behind : List Char) :
    Tag.ofParts (name ++ written base) behind =
      { name := String.ofList name
        content := (upTo? '<' behind).map String.ofList
        derivedFrom := base.map fun b => String.ofList b.value } := by
  cases base with
  | none =>
    have nothing : ∀ c, ([] : List Char).head? = some c → isBlank c = true := nofun
    exact ofParts_append begun solid nothing behind
  | some a =>
    rw [written, Option.map_some, Option.getD_some, ofParts_append begun solid a.head_text,
      a.findValue?_text]
    rfl

/-- From a line that was written so, reading takes just the parts of it: the name, the data as they
stand up to the next tag, or none if there is no other tag, and the base if there is one. -/
theorem written_line_is_undone (blank : ∀ c ∈ before ++ after, isBlank c = true)
    (begun : name ≠ []) (solid : ∀ c ∈ name, isBlank c = false) (clear : '>' ∉ name)
    (plain : '<' ∉ data) (base : Option BaseAttribute) (rest : List Char) :
    Tag.ofLine? (spacedLine before (name ++ written base) (data ++ '<' :: rest) after) =
        some { name := String.ofList name, content := some (String.ofList data),
               derivedFrom := base.map fun b => String.ofList b.value } ∧
      Tag.ofLine? (spacedLine before (name ++ written base) data after) =
        some { name := String.ofList name, content := none,
               derivedFrom := base.map fun b => String.ofList b.value } := by
  have inside : '>' ∉ name ++ written base := by
    cases base with
    | none => simpa [written] using clear
    | some a => simpa [written] using ⟨clear, a.clear⟩
  have bracket : isBlank '<' = false := rfl
  constructor
  · rw [ofLine?_spacedLine _ blank inside, ofParts_written begun solid,
      Text.trimRight_append_cons bracket, upTo?_of_notMem plain]
    rfl
  · have none : '<' ∉ Text.trimRight data := fun member => plain (Text.mem_of_mem_trimRight member)
    rw [ofLine?_spacedLine _ blank inside, ofParts_written begun solid, upTo?_eq_none none]
    rfl

/-- In any case, with blanks beyond the common ones, and a value that holds the other quote. -/
def oddBase : BaseAttribute where
  gap := "\t ".toList
  name := "DERIVEDfrom".toList
  left := "\u2003".toList
  right := []
  quote := '\''
  value := "a\"b=".toList
  apart := by decide +kernel
  blank := List.all_eq_true.mp (by decide +kernel)
  blankLeft := List.all_eq_true.mp (by decide +kernel)
  blankRight := List.all_eq_true.mp (by decide +kernel)
  named := by decide +kernel
  quoted := .inr rfl
  inQuotes := by decide +kernel
  onLine := by decide +kernel
  inTag := by decide +kernel

theorem written_line_is_undone_oddParts :
    Tag.ofLine? " \n<p\"=/\t DERIVEDfrom\u2003='a\"b='> 1 > 0 <x \t" =
        some { name := "p\"=/", content := some " 1 > 0 ", derivedFrom := some "a\"b=" } ∧
      Tag.ofLine? " \n<p\"=/\t DERIVEDfrom\u2003='a\"b='> 1 > 0  \t" =
        some { name := "p\"=/", content := none, derivedFrom := some "a\"b=" } := by
  have blank : ∀ c ∈ " \n".toList ++ " \t".toList, isBlank c = true :=
    List.all_eq_true.mp (by decide +kernel)
  have solid : ∀ c ∈ "p\"=/".toList, isBlank c = false := Text.solid_of_all (by decide +kernel)
  have plain : '<' ∉ " 1 > 0 ".toList := by decide +kernel
  have undone := written_line_is_undone blank (by decide +kernel) solid (by decide +kernel) plain
    (some oddBase) "x".toList
  have followed : spacedLine " \n".toList ("p\"=/".toList ++ written (some oddBase))
      (" 1 > 0 ".toList ++ '<' :: "x".toList) " \t".toList =
        " \n<p\"=/\t DERIVEDfrom\u2003='a\"b='> 1 > 0 <x \t" := by decide +kernel
  have alone : spacedLine " \n".toList ("p\"=/".toList ++ written (some oddBase))
      " 1 > 0 ".toList " \t".toList =
        " \n<p\"=/\t DERIVEDfrom\u2003='a\"b='> 1 > 0  \t" := by decide +kernel
  simp only [followed, alone, Option.map_some, String.ofList_toList] at undone
  exact undone

end

end RegisterMap.Document
