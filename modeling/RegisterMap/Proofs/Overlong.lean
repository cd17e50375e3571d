import RegisterMap.Proofs.Canonical.Tags
import RegisterMap.Proofs.Numeral.Grammar
import RegisterMap.Proofs.Reader.Endings

/-!
Decimal numerals of any length. One of at most 4300 digits stands for its word if it has one, and a
text that is no numeral, or stands for no word, stands for nothing. A longer numeral is refused, be
it worth a word or not, and the refusal is a fault of the reading. Apart from that no content of an
element can stand against a reading.
-/

set_option autoImplicit false

namespace RegisterMap

namespace Numeral

/-- A decimal numeral of too many digits. -/
structure Overlong (s : List Char) : Prop where
  numeral : IsNumeral 10 s
  long : maxDigits < s.length

variable {s : List Char}

theorem isNumeral_ten_iff : IsNumeral 10 s ↔ s ≠ [] ∧ ∀ c ∈ s, c.isDigit = true := by
  constructor
  · exact fun numeral =>
      ⟨numeral.ne_nil, fun c member => (worth_lt_ten_iff c).mp (numeral.digits c member)⟩
  · exact fun ⟨written, all⟩ => ⟨written, fun c member => (worth_lt_ten_iff c).mpr (all c member)⟩

theorem overlong_iff : Overlong s ↔ (∀ c ∈ s, c.isDigit = true) ∧ maxDigits < s.length := by
  constructor
  · exact fun overlong => ⟨(isNumeral_ten_iff.mp overlong.numeral).2, overlong.long⟩
  · rintro ⟨all, long⟩
    have written : s ≠ [] := List.ne_nil_of_length_pos (Nat.zero_lt_of_lt long)
    exact ⟨isNumeral_ten_iff.mpr ⟨written, all⟩, long⟩

theorem decimal?_eq_some_iff {n : Nat} :
    decimal? s = .ok (some n) ↔
      IsNumeral 10 s ∧ s.length ≤ maxDigits ∧ number 10 s = n ∧ n ≤ maxWord := by
  by_cases numeral : IsNumeral 10 s
  · rw [decimal?_of_isNumeral numeral]
    by_cases long : maxDigits < s.length
    · simp [if_pos long, Nat.not_le.mpr long]
    · simp [if_neg long, numeral, Nat.not_lt.mp long, word?_eq_some_iff]
  · simp [decimal?_of_not_isNumeral numeral, numeral]

theorem decimal?_eq_none_iff :
    decimal? s = .ok none ↔
      ¬IsNumeral 10 s ∨ s.length ≤ maxDigits ∧ maxWord < number 10 s := by
  by_cases numeral : IsNumeral 10 s
  · rw [decimal?_of_isNumeral numeral]
    by_cases long : maxDigits < s.length
    · simp [if_pos long, numeral, Nat.not_le.mpr long]
    · simp [if_neg long, numeral, Nat.not_lt.mp long, word?]
  · simp [decimal?_of_not_isNumeral numeral, numeral]

theorem decimal?_eq_error {numeral : TooLong} :
    decimal? s = .error numeral ↔ Overlong s ∧ numeral.digits = s.length := by
  rw [decimal?_eq_error_iff, overlong_iff, and_assoc]

end Numeral

namespace Document

open Numeral (IsNumeral Overlong decimal? maxDigits maxWord number)

section

variable {o : Settings} {r : Reader} {line : String} {t : Tag} {e : Element} {data : String}

/-- Where the content of an element is to be a decimal numeral, its length alone can be a fault. -/
theorem feed_fault_iff_overlong (tagged : Tag.ofLine? line = some t) (tells : t.Tells e data)
    (known : r.TakesDecimal e) :
    (r.feed o line).fault ≠ none ↔ Overlong data.toList := by
  constructor
  · intro fails
    obtain ⟨fault, fails⟩ := Option.ne_none_iff_exists'.mp fails
    rcases (Reader.feed_fault_eq_some_iff line fault).mp fails with
      ⟨_, ⟨here, -⟩, -⟩ | ⟨_, ⟨t', e', data', tagged', tells', -, all, long, -⟩, -⟩
    · unfold Reader.TakesDecimal at known
      rw [here] at known
      exact known.elim
    · obtain rfl : t = t' := Option.some.inj (tagged.symm.trans tagged')
      obtain rfl : data = data' := Option.some.inj (tells.2.symm.trans tells'.2)
      exact Numeral.overlong_iff.mpr ⟨all, long⟩
  · intro overlong passes
    obtain ⟨all, long⟩ := Numeral.overlong_iff.mp overlong
    have fails := (Reader.feed_fault_eq_some_iff (o := o) (r := r) line
      (.numeralTooLong ⟨data.toList.length⟩)).mpr
        (.inr ⟨_, ⟨t, e, data, tagged, tells, known, all, long, rfl⟩, rfl⟩)
    rw [passes] at fails
    cases fails

/-- Without such a numeral on its lines a reading comes to its end, or to a misplaced register. -/
theorem read_fault_of_short {lines : List String}
    (short : ∀ line ∈ lines, ∀ t data, Tag.ofLine? line = some t → t.content = some data →
      ¬Overlong data.toList) {fault : Fault} (fails : (read o lines).fault = some fault) :
    (∃ n place, fault = .truncated n place) ∨ ∃ n name, fault = .registerBeforeBase n name := by
  cases fault with
  | truncated n place => exact .inl ⟨n, place, rfl⟩
  | registerBeforeBase n name => exact .inr ⟨n, name, rfl⟩
  | numeralTooLong numeral =>
    obtain ⟨before, line, after, rfl, -, t, e, data, tagged, tells, -, all, long, -⟩ :=
      (read_fault_eq_overlong_iff numeral.digits).mp fails
    have listed : line ∈ before ++ line :: after := by simp
    exact absurd (Numeral.overlong_iff.mpr ⟨all, long⟩) (short line listed t data tagged tells.2)

end

/-- A decimal numeral is read as its word, whatever zeros stand in front; a text that is no numeral,
or stands for more than a word, is read as nothing. The length alone can be refused, and only where
it is that of the content of an element that takes decimal numerals is it a fault. So without such a
line a reading has no faults but an early end and a misplaced register. -/
theorem decimals_fail_by_length_only (s : List Char) (o : Settings) (r : Reader)
    (lines : List String) :
    (∀ n, decimal? s = .ok (some n) ↔
        IsNumeral 10 s ∧ s.length ≤ maxDigits ∧ number 10 s = n ∧ n ≤ maxWord) ∧
      (decimal? s = .ok none ↔ ¬IsNumeral 10 s ∨ s.length ≤ maxDigits ∧ maxWord < number 10 s) ∧
      (∀ numeral, decimal? s = .error numeral ↔ Overlong s ∧ numeral.digits = s.length) ∧
      (∀ line t e data, Tag.ofLine? line = some t → t.Tells e data → r.TakesDecimal e →
        ((r.feed o line).fault ≠ none ↔ Overlong data.toList)) ∧
      ((∀ line ∈ lines, ∀ t data, Tag.ofLine? line = some t → t.content = some data →
          ¬Overlong data.toList) →
        ∀ fault, (read o lines).fault = some fault →
          (∃ n place, fault = .truncated n place) ∨
            ∃ n name, fault = .registerBeforeBase n name) :=
  ⟨fun _ => Numeral.decimal?_eq_some_iff, Numeral.decimal?_eq_none_iff,
    fun _ => Numeral.decimal?_eq_error, fun _ _ _ _ => feed_fault_iff_overlong,
    fun short _ => read_fault_of_short short⟩

/-- As many zeros in front of a seven as a numeral may have. -/
def paddedSeven : List Char := List.replicate 4299 '0' ++ ['7']

theorem length_paddedSeven : paddedSeven.length = maxDigits := by
  rw [paddedSeven, List.length_append, List.length_replicate]
  rfl

theorem notMem_paddedSeven : '<' ∉ (String.ofList paddedSeven).toList := by
  rw [String.toList_ofList]
  intro listed
  rcases List.mem_append.mp listed with zero | seven
  · exact absurd (List.eq_of_mem_replicate zero) (by decide)
  · exact absurd (List.mem_singleton.mp seven) (by decide)

theorem decimals_fail_by_length_only_padded :
    decimal? paddedSeven = .ok (some 7) ∧
      (({} : Reader).feed {} (Element.width.holding (String.ofList paddedSeven))).fault = none ∧
      ∀ fault, (read {} [Element.width.holding (String.ofList paddedSeven)]).fault = some fault →
        (∃ n place, fault = .truncated n place) ∨
          ∃ n name, fault = .registerBeforeBase n name := by
  have numeral : IsNumeral 10 paddedSeven :=
    Numeral.isNumeral_zeros_append (by decide) 4299 (by decide +kernel)
  have seven : number 10 paddedSeven = 7 := Numeral.number_zeros_append 10 4299 ['7']
  have short : ¬Overlong (String.ofList paddedSeven).toList := by
    rw [String.toList_ofList]
    exact fun overlong => absurd overlong.long (by rw [length_paddedSeven]; exact lt_irrefl _)
  obtain ⟨t, tagged, tells⟩ := Element.width.ofLine?_holding notMem_paddedSeven
  obtain ⟨word, -, -, feeds, reads⟩ := decimals_fail_by_length_only paddedSeven {} {}
    [Element.width.holding (String.ofList paddedSeven)]
  refine ⟨(word 7).mpr ⟨numeral, length_paddedSeven.le, seven, by decide⟩, ?_, reads ?_⟩
  · by_contra fails
    exact short ((feeds _ t .width _ tagged tells (by simp [Reader.TakesDecimal])).mp fails)
  · intro line listed t' data tagged' content
    rw [List.mem_singleton.mp listed, tagged] at tagged'
    cases tagged'
    obtain rfl : String.ofList paddedSeven = data :=
      Option.some.inj (tells.2.symm.trans content)
    exact short

/-- A zero that is written with more digits than are read. -/
theorem zeros_are_refused :
    IsNumeral 10 (List.replicate 4301 '0') ∧ number 10 (List.replicate 4301 '0') = 0 ∧
      decimal? (List.replicate 4301 '0') = .error ⟨4301⟩ ∧
      (read {} [Element.width.holding (String.ofList (List.replicate 4301 '0'))]).fault =
        some (.numeralTooLong ⟨4301⟩) := by
  have digits : ∀ c ∈ List.replicate 4301 '0', c.isDigit = true := by
    intro c member
    rw [List.eq_of_mem_replicate member]
    rfl
  have long : maxDigits < (List.replicate 4301 '0').length := by
    rw [List.length_replicate]
    decide
  have overlong : Overlong (List.replicate 4301 '0') := Numeral.overlong_iff.mpr ⟨digits, long⟩
  have plain : '<' ∉ (String.ofList (List.replicate 4301 '0')).toList := by
    rw [String.toList_ofList]
    exact fun listed => absurd (List.eq_of_mem_replicate listed) (by decide)
  refine ⟨overlong.numeral, ?_, ?_, ?_⟩
  · have empty := Numeral.number_zeros_append 10 4301 []
    rwa [List.append_nil] at empty
  · exact Numeral.decimal?_eq_error.mpr ⟨overlong, List.length_replicate.symm⟩
  · obtain ⟨t, tagged, tells⟩ := Element.width.ofLine?_holding plain
    refine (read_fault_eq_overlong_iff 4301).mpr ⟨[], _, [], rfl, trivial, t, .width, _, tagged,
      tells, by simp [Reader.TakesDecimal], ?_⟩
    rw [String.toList_ofList]
    exact ⟨digits, long, List.length_replicate.symm⟩

end Document

end RegisterMap
