import RegisterMap.Proofs.Numeral.Positional

/-!
The grammar of numerals. A numeral of a base consists of one or more of its digits, in either case,
and stands for the number that has these digits. Decimal numerals are read up to a number of digits,
hexadecimal ones at any length, and both only if the number is a word.
-/

set_option autoImplicit false

namespace RegisterMap.Numeral

/-- The characters of digits, each at the place that it is worth. -/
def digitCharacters : List Char := "0123456789abcdef".toList

/-- What a character is worth as a digit, in either case. One that is no digit is worth sixteen. -/
def worth (c : Char) : Nat := digitCharacters.idxOf c.toLower

/-- One or more digits of the base, and nothing else. -/
structure IsNumeral (base : Nat) (s : List Char) : Prop where
  ne_nil : s ≠ []
  digits : ∀ c ∈ s, worth c < base

instance (base : Nat) (s : List Char) : Decidable (IsNumeral base s) :=
  decidable_of_iff (s ≠ [] ∧ s.all (fun c => worth c < base) = true)
    ⟨fun ⟨written, all⟩ => ⟨written, fun c member =>
        of_decide_eq_true (List.all_eq_true.mp all c member)⟩,
      fun ⟨written, digits⟩ => ⟨written, List.all_eq_true.mpr fun c member =>
        decide_eq_true (digits c member)⟩⟩

/-- The number that has these digits, with the most significant one in front. -/
def number (base : Nat) (s : List Char) : Nat := Nat.ofDigits base (s.map worth).reverse

/-! ## Digits -/

/-- What holds of every character with a code below the bound can be told code by code. -/
theorem of_code_lt (holds : Char → Prop) {bound : Nat} (each : ∀ n < bound, holds (Char.ofNat n))
    {c : Char} (below : c.toNat < bound) : holds c := by
  have known := each c.toNat below
  rwa [Char.ofNat_toNat] at known

/-- What the character of a code is worth. -/
def worthOfCode (n : Nat) : Nat :=
  if 0x30 ≤ n ∧ n ≤ 0x39 then n - 0x30
  else if 0x61 ≤ n ∧ n ≤ 0x66 then n - 0x57
  else if 0x41 ≤ n ∧ n ≤ 0x46 then n - 0x37
  else 16

theorem worth_eq (c : Char) : worth c = worthOfCode c.toNat := by
  by_cases ascii : c.toNat < 0x80
  · exact of_code_lt (fun c => worth c = worthOfCode c.toNat) (by decide +kernel) ascii
  · have lowered : c.toLower = c := by
      refine dif_neg fun upper => ascii ?_
      exact Nat.lt_of_le_of_lt (UInt32.le_iff_toNat_le.mp upper.2) (by decide)
    have low : digitCharacters.all (fun d => d.toNat < 0x80) = true := by decide
    have other : c ∉ digitCharacters := fun listed =>
      ascii (of_decide_eq_true (List.all_eq_true.mp low c listed))
    rw [worth, lowered, List.idxOf_eq_length_iff.mpr other, worthOfCode, if_neg (by omega),
      if_neg (by omega), if_neg (by omega)]
    rfl

theorem digit?_eq {base : Nat} (base_le : base ≤ 16) (c : Char) :
    digit? base c = if worth c < base then some (worth c) else none := by
  rw [worth_eq]
  unfold digit? worthOfCode
  dsimp only
  split_ifs <;> first | rfl | omega

theorem worth_lt_ten_iff (c : Char) : worth c < 10 ↔ c.isDigit = true := by
  have range : c.isDigit = true ↔ 0x30 ≤ c.toNat ∧ c.toNat ≤ 0x39 := Char.isDigit_iff_toNat
  rw [worth_eq, range, worthOfCode]
  split_ifs <;> omega

/-! ## Texts of digits -/

section

variable {base : Nat} {s : List Char}

theorem mapM_digit? (base_le : base ≤ 16) (all : ∀ c ∈ s, worth c < base) :
    s.mapM (digit? base) = some (s.map worth) := by
  induction s with
  | nil => rfl
  | cons c rest ih =>
    obtain ⟨first, others⟩ := List.forall_mem_cons.mp all
    rw [List.mapM_cons, digit?_eq base_le, if_pos first, ih others]
    rfl

theorem digits?_of_isNumeral (base_le : base ≤ 16) (numeral : IsNumeral base s) :
    digits? base s = some (s.map worth) := by
  unfold digits?
  rw [if_neg (by simpa using numeral.ne_nil), mapM_digit? base_le numeral.digits]

theorem isNumeral_of_digits? (base_le : base ≤ 16) {ds : List Nat}
    (read : digits? base s = some ds) : IsNumeral base s := by
  unfold digits? at read
  split at read
  · cases read
  case isFalse written =>
    refine ⟨by simpa using written, fun c member => ?_⟩
    have digit := (mapM_eq_some read).2 c member
    rw [digit?_eq base_le] at digit
    by_contra other
    exact digit (if_neg other)

theorem digits?_eq_some_iff (base_le : base ≤ 16) {ds : List Nat} :
    digits? base s = some ds ↔ IsNumeral base s ∧ s.map worth = ds := by
  constructor
  · intro read
    have numeral := isNumeral_of_digits? base_le read
    rw [digits?_of_isNumeral base_le numeral] at read
    exact ⟨numeral, Option.some.inj read⟩
  · rintro ⟨numeral, rfl⟩
    exact digits?_of_isNumeral base_le numeral

theorem digits?_eq_none_iff (base_le : base ≤ 16) : digits? base s = none ↔ ¬IsNumeral base s := by
  rw [Option.eq_none_iff_forall_ne_some]
  constructor
  · exact fun never numeral => never _ (digits?_of_isNumeral base_le numeral)
  · exact fun other ds read => other ((digits?_eq_some_iff base_le).mp read).1

theorem value_map_worth (base : Nat) (s : List Char) : value base (s.map worth) = number base s :=
  value_eq_ofDigits base (s.map worth)

/-- Zeros in front of a numeral do not count. -/
theorem number_zeros_append (base zeros : Nat) (s : List Char) :
    number base (List.replicate zeros '0' ++ s) = number base s := by
  have none : worth '0' = 0 := by decide
  rw [number, List.map_append, List.map_replicate, none, List.reverse_append,
    List.reverse_replicate, Nat.ofDigits_append_replicate_zero]
  rfl

theorem isNumeral_zeros_append (base_pos : 0 < base) (zeros : Nat) (numeral : IsNumeral base s) :
    IsNumeral base (List.replicate zeros '0' ++ s) where
  ne_nil := List.append_ne_nil_of_right_ne_nil _ numeral.ne_nil
  digits c member := by
    rcases List.mem_append.mp member with zero | digit
    · rw [List.eq_of_mem_replicate zero]
      exact base_pos
    · exact numeral.digits c digit

/-- A number is written as a numeral that stands for it. -/
theorem isNumeral_text (base_ge : 2 ≤ base) (base_le : base ≤ 16) (n : Nat) :
    IsNumeral base (text base n).toList ∧ number base (text base n).toList = n := by
  obtain ⟨numeral, same⟩ := (digits?_eq_some_iff base_le).mp (digits?_text base_ge base_le n)
  refine ⟨numeral, ?_⟩
  rw [← value_map_worth, same, value_digits base_ge]

end

/-! ## Numerals of words -/

variable {s : List Char}

theorem word?_eq_some_iff {m n : Nat} : word? m = some n ↔ m = n ∧ n ≤ maxWord := by
  unfold word?
  split
  case isTrue small =>
    exact ⟨fun same => by cases same; exact ⟨rfl, small⟩, fun same => by rw [same.1]⟩
  case isFalse large => exact ⟨nofun, fun same => absurd (same.1 ▸ same.2) large⟩

theorem decimal?_of_isNumeral (numeral : IsNumeral 10 s) :
    decimal? s =
      if maxDigits < s.length then .error ⟨s.length⟩ else .ok (word? (number 10 s)) := by
  unfold decimal?
  rw [digits?_of_isNumeral (by decide) numeral, ← value_map_worth]
  dsimp only
  rw [List.length_map]

theorem decimal?_of_not_isNumeral (other : ¬IsNumeral 10 s) : decimal? s = .ok none := by
  unfold decimal?
  rw [(digits?_eq_none_iff (by decide)).mpr other]

theorem hexadecimal?_eq_some_iff {n : Nat} :
    hexadecimal? s = some n ↔
      ∃ a b rest, s = a :: b :: rest ∧ IsNumeral 16 rest ∧ number 16 rest = n ∧ n ≤ maxWord := by
  constructor
  · intro read
    unfold hexadecimal? at read
    split at read
    case h_1 a b rest =>
      obtain ⟨ds, digits, known⟩ := Option.bind_eq_some_iff.mp read
      obtain ⟨numeral, rfl⟩ := (digits?_eq_some_iff le_rfl).mp digits
      rw [value_map_worth] at known
      exact ⟨a, b, rest, rfl, numeral, word?_eq_some_iff.mp known⟩
    case h_2 => cases read
  · rintro ⟨a, b, rest, rfl, numeral, rfl, small⟩
    change (digits? 16 rest).bind _ = _
    rw [digits?_of_isNumeral le_rfl numeral, Option.bind_some, value_map_worth, word?_of_le small]

end RegisterMap.Numeral
