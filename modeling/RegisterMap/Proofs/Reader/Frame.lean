import RegisterMap.Document.Attribute

/-!
What changes leave alone. An attribute puts one value into its entity or changes nothing; it never
touches what the entity contains, except that the name of a peripheral goes down to its registers
and fields. An interrupt that is added changes nothing but the interrupts.
-/

set_option autoImplicit false

namespace RegisterMap

theorem Device.addInterrupt_eq (d : Device) (i : Interrupt) :
    ∃ entries, d.addInterrupt i = { d with interrupts := d.interrupts ++ entries } := by
  unfold addInterrupt
  split
  · exact ⟨_, rfl⟩
  · exact ⟨[], by rw [List.append_nil]⟩

theorem Device.addInterrupt_peripherals (d : Device) (i : Interrupt) :
    (d.addInterrupt i).peripherals = d.peripherals := by
  obtain ⟨entries, added⟩ := d.addInterrupt_eq i
  rw [added]

end RegisterMap

namespace RegisterMap.Document

section

variable {α β : Type} {data : String} {change : α → α}

theorem textual_eq_ok {put : Value → α → α} (known : textual data put = .ok change) :
    change = put (.ofString data) :=
  (Except.ok.inj known).symm

theorem changeBy_eq (v : Option β) (put : β → α → α) :
    changeBy v put = id ∨ ∃ b, v = some b ∧ changeBy v put = put b := by
  cases v with
  | none => exact Or.inl rfl
  | some b => exact Or.inr ⟨b, rfl, rfl⟩

theorem decimal_eq_ok {put : Value → α → α} (known : decimal data put = .ok change) :
    change = id ∨
      ∃ n : Nat, Numeral.decimal? data.toList = .ok (some n) ∧ change = put (.int n) := by
  unfold decimal at known
  cases read : Numeral.decimal? data.toList with
  | error numeral => rw [read] at known; exact absurd known nofun
  | ok v =>
    rw [read] at known
    obtain rfl := (Except.ok.inj known).symm
    obtain same | ⟨n, rfl, same⟩ := changeBy_eq v fun n : Nat => put (.int n)
    · exact Or.inl same
    · exact Or.inr ⟨n, rfl, same⟩

theorem hexadecimal_eq_ok {put : Value → α → α} (known : hexadecimal data put = .ok change) :
    change = id ∨ ∃ n : Nat, Numeral.hexadecimal? data.toList = some n ∧ change = put (.int n) := by
  obtain rfl := (Except.ok.inj known).symm
  exact changeBy_eq _ _

theorem right_eq_ok {put : Access → α → α} (known : right data put = .ok change) :
    change = id ∨ ∃ a : Access, Access.ofText? data.toList = some a ∧ change = put a := by
  obtain rfl := (Except.ok.inj known).symm
  exact changeBy_eq _ _

end

variable {e : Element} {data : String}

theorem deviceAttribute_keeps {change : Device → Device}
    (known : deviceAttribute e data = .ok change) (d : Device) :
    (change d).peripherals = d.peripherals ∧ (change d).interrupts = d.interrupts ∧
      (change d).cpu = d.cpu := by
  unfold deviceAttribute at known
  split at known
  case h_9 => cases known; exact ⟨rfl, rfl, rfl⟩
  case h_1 | h_2 | h_3 => obtain rfl := textual_eq_ok known; exact ⟨rfl, rfl, rfl⟩
  all_goals obtain rfl | ⟨n, -, rfl⟩ := decimal_eq_ok known <;> exact ⟨rfl, rfl, rfl⟩

/-- Of the attributes of a peripheral only its name reaches its registers. -/
theorem peripheralAttribute_cases {change : Peripheral → Peripheral}
    (known : peripheralAttribute e data = .ok change) :
    (e = .name ∧ change = Peripheral.rename (.ofString data)) ∨
      ∀ p, (change p).name = p.name ∧ (change p).registers = p.registers ∧
        (change p).addressBlock = p.addressBlock := by
  unfold peripheralAttribute at known
  split at known
  · exact Or.inl ⟨rfl, textual_eq_ok known⟩
  · obtain rfl := textual_eq_ok known; exact Or.inr fun p => ⟨rfl, rfl, rfl⟩
  · obtain rfl := textual_eq_ok known; exact Or.inr fun p => ⟨rfl, rfl, rfl⟩
  · obtain rfl | ⟨n, -, rfl⟩ := hexadecimal_eq_ok known <;> exact Or.inr fun p => ⟨rfl, rfl, rfl⟩
  · cases known; exact Or.inr fun p => ⟨rfl, rfl, rfl⟩

theorem peripheralAttribute_addressBlock {change : Peripheral → Peripheral}
    (known : peripheralAttribute e data = .ok change) (p : Peripheral) :
    (change p).addressBlock = p.addressBlock := by
  obtain ⟨-, rfl⟩ | kept := peripheralAttribute_cases known
  · rfl
  · exact (kept p).2.2

theorem registerAttribute_keeps {change : Register → Register}
    (known : registerAttribute e data = .ok change) (x : Register) :
    (change x).peripheralName = x.peripheralName ∧ (change x).fields = x.fields ∧
      (e ≠ .name → (change x).name = x.name) := by
  unfold registerAttribute at known
  split at known
  case h_8 => cases known; exact ⟨rfl, rfl, fun _ => rfl⟩
  case h_1 => obtain rfl := textual_eq_ok known; exact ⟨rfl, rfl, fun other => absurd rfl other⟩
  case h_2 | h_3 => obtain rfl := textual_eq_ok known; exact ⟨rfl, rfl, fun _ => rfl⟩
  case h_7 => obtain rfl | ⟨a, -, rfl⟩ := right_eq_ok known <;> exact ⟨rfl, rfl, fun _ => rfl⟩
  all_goals
    obtain rfl | ⟨n, -, rfl⟩ := hexadecimal_eq_ok known <;> exact ⟨rfl, rfl, fun _ => rfl⟩

theorem fieldAttribute_keeps {change : Field → Field}
    (known : fieldAttribute e data = .ok change) (f : Field) :
    (change f).peripheralName = f.peripheralName ∧ (change f).registerName = f.registerName := by
  unfold fieldAttribute at known
  split at known
  case h_6 => cases known; exact ⟨rfl, rfl⟩
  case h_1 | h_2 => obtain rfl := textual_eq_ok known; exact ⟨rfl, rfl⟩
  case h_5 => obtain rfl | ⟨a, -, rfl⟩ := right_eq_ok known <;> exact ⟨rfl, rfl⟩
  all_goals obtain rfl | ⟨n, -, rfl⟩ := decimal_eq_ok known <;> exact ⟨rfl, rfl⟩

end RegisterMap.Document
