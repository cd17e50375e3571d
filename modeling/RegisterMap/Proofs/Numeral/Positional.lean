import Mathlib.Data.Nat.Digits.Lemmas
import RegisterMap.Numeral.Word

/-!
Numerals are positional: their digits are those of the number in its base, with the most significant
one in front, and their value is the number that has these digits. What is written for a word is
read back as this word, both as a decimal and as a hexadecimal numeral.
-/

set_option autoImplicit false

namespace RegisterMap.Numeral

/-! ## Digits of a number -/

theorem digitsUp_eq {base : Nat} (base_ge : 2 ≤ base) {fuel n : Nat} (enough : n < fuel) :
    digitsUp base fuel n = if n = 0 then [0] else Nat.digits base n := by
  induction fuel generalizing n with
  | zero => omega
  | succ fuel ih =>
    unfold digitsUp
    by_cases small : n < base
    · by_cases zero : n = 0
      · rw [if_pos small, if_pos zero, zero]
      · rw [if_pos small, if_neg zero, Nat.digits_of_lt base n zero small]
    · have positive : 0 < n := by omega
      have quotient : 0 < n / base := Nat.div_pos (by omega) (by omega)
      have less : n / base < fuel := by
        have := Nat.div_lt_self positive base_ge
        omega
      rw [if_neg small, if_neg (by omega), ih less, if_neg (by omega),
        Nat.digits_def' base_ge positive]

theorem digits_eq {base : Nat} (base_ge : 2 ≤ base) (n : Nat) :
    digits base n = if n = 0 then [0] else (Nat.digits base n).reverse := by
  unfold digits
  rw [digitsUp_eq base_ge (Nat.lt_succ_self n)]
  split <;> rfl

theorem digits_ne_nil {base : Nat} (base_ge : 2 ≤ base) (n : Nat) : digits base n ≠ [] := by
  rw [digits_eq base_ge]
  split
  · exact List.cons_ne_nil _ _
  · rename_i nonzero
    simpa [Nat.digits_eq_nil_iff_eq_zero] using nonzero

theorem digits_lt {base n d : Nat} (base_ge : 2 ≤ base) (member : d ∈ digits base n) :
    d < base := by
  rw [digits_eq base_ge] at member
  split at member
  · rw [List.mem_singleton.mp member]
    omega
  · exact Nat.digits_lt_base base_ge (List.mem_reverse.mp member)

theorem length_digits_le {base n k : Nat} (base_ge : 2 ≤ base) (positive : 0 < k)
    (bound : n < base ^ k) : (digits base n).length ≤ k := by
  rw [digits_eq base_ge]
  split
  · exact positive
  · rw [List.length_reverse]
    exact (Nat.digits_length_le_iff base_ge n).mpr bound

/-! ## The value of digits -/

theorem value_eq_ofDigits (base : Nat) (ds : List Nat) :
    value base ds = Nat.ofDigits base ds.reverse := by
  rw [value, Nat.ofDigits_eq_foldr, List.foldr_reverse]
  congr 1
  funext n d
  simp only [Nat.cast_id]
  rw [Nat.mul_comm, Nat.add_comm]

theorem value_digits {base : Nat} (base_ge : 2 ≤ base) (n : Nat) :
    value base (digits base n) = n := by
  rw [value_eq_ofDigits, digits_eq base_ge]
  split
  · rename_i zero
    rw [zero]
    rfl
  · rw [List.reverse_reverse, Nat.ofDigits_digits]

/-! ## Characters of digits -/

theorem digit?_digitChar {base d : Nat} (small : d < base) (base_le : base ≤ 16) :
    digit? base (digitChar d) = some d := by
  have code : (digitChar d).toNat = if d < 10 then 0x30 + d else 0x57 + d := by
    have bound : d < 16 := by omega
    interval_cases d <;> rfl
  unfold digit?
  by_cases decimal : d < 10
  · have range : 0x30 ≤ 0x30 + d ∧ 0x30 + d ≤ 0x39 := by omega
    simp only [code, if_pos decimal, if_pos range, Nat.add_sub_cancel_left, if_pos small]
  · have above : ¬(0x30 ≤ 0x57 + d ∧ 0x57 + d ≤ 0x39) := by omega
    have range : 0x61 ≤ 0x57 + d ∧ 0x57 + d ≤ 0x66 := by omega
    simp only [code, if_neg decimal, if_neg above, if_pos range, Nat.add_sub_cancel_left,
      if_pos small]

theorem digit?_ten (c : Char) :
    digit? 10 c = if c.isDigit then some (c.toNat - 0x30) else none := by
  have range : c.isDigit = true ↔ 0x30 ≤ c.toNat ∧ c.toNat ≤ 0x39 := Char.isDigit_iff_toNat
  unfold digit?
  by_cases isDigit : c.isDigit = true
  · have bounds := range.mp isDigit
    rw [if_pos isDigit]
    simp only [if_pos bounds]
    rw [if_pos (by omega)]
  · have bounds := mt range.mpr isDigit
    rw [if_neg isDigit]
    simp only [if_neg bounds]
    rw [if_neg (by split_ifs <;> omega)]

section

variable {α β : Type} {f : α → Option β}

theorem mapM_eq_some {l : List α} {ds : List β} (read : l.mapM f = some ds) :
    ds.length = l.length ∧ ∀ a ∈ l, f a ≠ none := by
  induction l generalizing ds with
  | nil =>
    cases read
    exact ⟨rfl, nofun⟩
  | cons a l ih =>
    rw [List.mapM_cons] at read
    obtain ⟨d, first, read⟩ := Option.bind_eq_some_iff.mp read
    obtain ⟨rest, later, read⟩ := Option.bind_eq_some_iff.mp read
    cases read
    obtain ⟨length, all⟩ := ih later
    refine ⟨congrArg Nat.succ length, fun b member => ?_⟩
    rcases List.mem_cons.mp member with rfl | member
    · rw [first]
      exact Option.some_ne_none d
    · exact all b member

theorem mapM_ne_none {l : List α} (all : ∀ a ∈ l, f a ≠ none) : l.mapM f ≠ none := by
  induction l with
  | nil => exact Option.some_ne_none []
  | cons a l ih =>
    obtain ⟨d, first⟩ := Option.ne_none_iff_exists'.mp (all a (by simp))
    have rest : l.mapM f ≠ none := ih fun b member => all b (by simp [member])
    obtain ⟨ds, later⟩ := Option.ne_none_iff_exists'.mp rest
    rw [List.mapM_cons, first, later]
    exact Option.some_ne_none _

end

theorem digits?_ten_eq_some {s : List Char} {ds : List Nat} (read : digits? 10 s = some ds) :
    ds.length = s.length ∧ ∀ c ∈ s, c.isDigit := by
  unfold digits? at read
  split at read
  · exact absurd read nofun
  · obtain ⟨length, all⟩ := mapM_eq_some read
    refine ⟨length, fun c member => ?_⟩
    have known := all c member
    rw [digit?_ten] at known
    by_contra other
    exact known (if_neg other)

theorem digits?_ten_ne_none {s : List Char} (written : s ≠ []) (all : ∀ c ∈ s, c.isDigit) :
    digits? 10 s ≠ none := by
  unfold digits?
  rw [if_neg (by simpa using written)]
  refine mapM_ne_none fun c member => ?_
  rw [digit?_ten, if_pos (all c member)]
  exact Option.some_ne_none _

theorem digits?_map_digitChar {base : Nat} (base_le : base ≤ 16) {ds : List Nat}
    (written : ds ≠ []) (small : ∀ d ∈ ds, d < base) :
    digits? base (ds.map digitChar) = some ds := by
  have read : (ds.map digitChar).mapM (digit? base) = some ds := by
    clear written
    induction ds with
    | nil => rfl
    | cons d ds ih =>
      rw [List.map_cons, List.mapM_cons, digit?_digitChar (small d (by simp)) base_le,
        ih fun e member => small e (by simp [member])]
      rfl
  unfold digits?
  rw [if_neg (by simpa using written), read]

theorem digits?_text {base : Nat} (base_ge : 2 ≤ base) (base_le : base ≤ 16) (n : Nat) :
    digits? base (text base n).toList = some (digits base n) := by
  rw [text, String.toList_ofList]
  exact digits?_map_digitChar base_le (digits_ne_nil base_ge n) fun d => digits_lt base_ge

/-- A numeral consists of digits of its base. -/
theorem digit?_ne_none_of_mem_text {base n : Nat} {c : Char} (base_ge : 2 ≤ base)
    (base_le : base ≤ 16) (member : c ∈ (text base n).toList) : digit? base c ≠ none := by
  have read := digits?_text base_ge base_le n
  unfold digits? at read
  split at read
  · exact absurd read nofun
  · exact (mapM_eq_some read).2 c member

/-! ## Words -/

theorem word?_of_le {n : Nat} (bound : n ≤ maxWord) : word? n = some n := if_pos bound

theorem word?_le {m n : Nat} (known : word? m = some n) : n ≤ maxWord := by
  unfold word? at known
  split at known
  · cases known
    assumption
  · exact absurd known nofun

theorem decimal?_le {s : List Char} {n : Nat} (read : decimal? s = .ok (some n)) : n ≤ maxWord := by
  unfold decimal? at read
  split at read
  · exact absurd read nofun
  · split at read
    · exact absurd read nofun
    · exact word?_le (Except.ok.inj read)

theorem hexadecimal?_le {s : List Char} {n : Nat} (read : hexadecimal? s = some n) :
    n ≤ maxWord := by
  unfold hexadecimal? at read
  split at read
  · obtain ⟨ds, -, known⟩ := Option.bind_eq_some_iff.mp read
    exact word?_le known
  · exact absurd read nofun

theorem decimal?_decimalText {n : Nat} (bound : n ≤ maxWord) :
    decimal? (decimalText n).toList = .ok (some n) := by
  have short : (digits 10 n).length ≤ 10 :=
    length_digits_le (by omega) (by omega) (by unfold maxWord at bound; omega)
  unfold decimal?
  rw [show decimalText n = text 10 n from rfl, digits?_text (by omega) (by omega)]
  dsimp only
  rw [if_neg (by unfold maxDigits; omega), value_digits (by omega), word?_of_le bound]

/-- Only a run of too many digits is refused; it is no matter what it is worth. -/
theorem decimal?_eq_error_iff (s : List Char) (numeral : TooLong) :
    decimal? s = .error numeral ↔
      (∀ c ∈ s, c.isDigit) ∧ maxDigits < s.length ∧ numeral.digits = s.length := by
  unfold decimal?
  constructor
  · intro refused
    split at refused
    · exact absurd refused nofun
    · rename_i ds read
      obtain ⟨length, all⟩ := digits?_ten_eq_some read
      split at refused
      · rename_i long
        cases refused
        exact ⟨all, length ▸ long, length⟩
      · exact absurd refused nofun
  · rintro ⟨all, long, same⟩
    have written : s ≠ [] := by
      rintro rfl
      exact absurd long (Nat.not_lt_zero _)
    obtain ⟨ds, read⟩ := Option.ne_none_iff_exists'.mp (digits?_ten_ne_none written all)
    obtain ⟨length, -⟩ := digits?_ten_eq_some read
    rw [read]
    dsimp only
    rw [if_pos (length ▸ long), length, ← same]

theorem hexadecimal?_hexText {n : Nat} (bound : n ≤ maxWord) :
    hexadecimal? ("0x" ++ hexText n).toList = some n := by
  rw [String.toList_append]
  change (digits? 16 (text 16 n).toList).bind (fun ds => word? (value 16 ds)) = some n
  rw [digits?_text (by omega) (by omega), Option.bind_some, value_digits (by omega),
    word?_of_le bound]

end RegisterMap.Numeral
