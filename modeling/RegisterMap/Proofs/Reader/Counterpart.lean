import Mathlib.Data.List.Forall2
import RegisterMap.Proofs.Derivation

/-!
Counterparts in two readings. The models that two readings build correspond to each other if they
differ only in the peripherals and the interrupts that came first, and in the sizes and the reset
values of their registers, where a `Contrast` tells in what way. Whatever is done to both readers
keeps this; the marks of address blocks may differ as well where they have become stale.
-/

set_option autoImplicit false

namespace RegisterMap

/-- What two models may differ in: the sizes and the reset values of their registers, and what came
first among their peripherals and their interrupts. -/
structure Contrast where
  size : Value → Value → Prop
  resetValue : Value → Value → Prop
  size_refl : ∀ v, size v v
  resetValue_refl : ∀ v, resetValue v v
  earlier : List Peripheral
  otherEarlier : List Peripheral
  stored : List (Value × Interrupt)
  otherStored : List (Value × Interrupt)

/-- Models that differ only in what came first. -/
def Contrast.exact (earlier otherEarlier : List Peripheral)
    (stored otherStored : List (Value × Interrupt)) : Contrast where
  size v w := w = v
  resetValue v w := w = v
  size_refl _ := rfl
  resetValue_refl _ := rfl
  earlier := earlier
  otherEarlier := otherEarlier
  stored := stored
  otherStored := otherStored

inductive Register.Counterpart (c : Contrast) (x : Register) : Register → Prop
  | intro {size resetValue : Value} (sized : c.size x.size size)
      (reset : c.resetValue x.resetValue resetValue) :
      Counterpart c x { x with size := size, resetValue := resetValue }

inductive Peripheral.Counterpart (c : Contrast) (p : Peripheral) : Peripheral → Prop
  | intro {registers : List Register}
      (each : List.Forall₂ (Register.Counterpart c) p.registers registers) :
      Counterpart c p { p with registers := registers }

namespace Document

/-- The marks of the address blocks count only inside a peripheral and inside an address block. -/
inductive Reader.Counterpart (c : Contrast) (r : Reader) : Reader → Prop
  | intro {later otherLater : List Peripheral} {entries : List (Value × Interrupt)}
      {seen skipped : Bool} (peripherals : r.device.peripherals = c.earlier ++ later)
      (each : List.Forall₂ (Peripheral.Counterpart c) later otherLater)
      (begun : r.place.isInside = true → later ≠ [])
      (interrupts : r.device.interrupts = c.stored ++ entries)
      (sameSeen : r.place.isInside = true → seen = r.blockSeen)
      (sameSkipped : r.place = .addressBlock → skipped = r.blockSkipped) :
      Counterpart c r
        { r with
          device := { r.device with
            peripherals := c.otherEarlier ++ otherLater
            interrupts := c.otherStored ++ entries }
          blockSeen := seen
          blockSkipped := skipped }

end Document

/-! ## Lists -/

section

variable {α β : Type} {R : α → β → Prop} {xs : List α} {ys : List β}

theorem forall₂_changeLast {f : α → α} {g : β → β} (each : List.Forall₂ R xs ys)
    (last : ∀ x y, R x y → R (f x) (g y)) :
    List.Forall₂ R (changeLast f xs) (changeLast g ys) := by
  induction each with
  | nil => exact .nil
  | cons first rest ih =>
    cases rest with
    | nil => exact .cons (last _ _ first) .nil
    | cons second others => exact .cons first ih

theorem forall₂_getLast? (each : List.Forall₂ R xs ys) (nonempty : xs ≠ []) :
    ∃ x y, xs.getLast? = some x ∧ ys.getLast? = some y ∧ R x y := by
  induction each with
  | nil => exact absurd rfl nonempty
  | @cons x y xs ys first rest ih =>
    cases rest with
    | nil => exact ⟨x, y, rfl, rfl, first⟩
    | cons second others =>
      rw [List.getLast?_cons_cons, List.getLast?_cons_cons]
      exact ih nofun

theorem forall₂_find? {holds : α → Bool} {others : β → Bool} (each : List.Forall₂ R xs ys)
    (same : ∀ x y, R x y → others y = holds x) :
    Option.Rel R (xs.find? holds) (ys.find? others) := by
  induction each with
  | nil => exact .none
  | @cons x y xs ys first rest ih =>
    rw [List.find?_cons, List.find?_cons, same x y first]
    cases holds x with
    | true => exact .some first
    | false => exact ih

theorem forall₂_getElem? {x : α} {i : Nat} (each : List.Forall₂ R xs ys) (found : xs[i]? = some x) :
    ∃ y, ys[i]? = some y ∧ R x y := by
  induction each generalizing i with
  | nil => exact absurd found nofun
  | cons first rest ih =>
    cases i with
    | zero =>
      cases found
      exact ⟨_, rfl, first⟩
    | succ i => exact ih found

theorem eq_of_forall₂ {S : α → α → Prop} {us vs : List α} (each : List.Forall₂ S us vs)
    (same : ∀ x y, S x y → y = x) : vs = us := by
  induction each with
  | nil => rfl
  | cons first rest ih => rw [same _ _ first, ih]

theorem map_eq_of_forall₂ {γ : Type} {f : α → γ} {g : β → γ} (each : List.Forall₂ R xs ys)
    (same : ∀ x y, R x y → g y = f x) : ys.map g = xs.map f := by
  have mapped : List.Forall₂ (fun a b => b = a) (xs.map f) (ys.map g) := by
    rw [List.forall₂_map_left_iff, List.forall₂_map_right_iff]
    exact each.imp same
  exact eq_of_forall₂ mapped fun _ _ same => same

end

/-! ## Entities -/

section

variable {c : Contrast} {x y : Register} {p q : Peripheral}

theorem Register.Counterpart.refl (x : Register) : x.Counterpart c x :=
  .intro (c.size_refl _) (c.resetValue_refl _)

theorem Peripheral.Counterpart.refl (p : Peripheral) : p.Counterpart c p :=
  .intro (List.forall₂_same.mpr fun x _ => .refl x)

theorem eq_of_exact {earlier otherEarlier ps qs : List Peripheral}
    {stored otherStored : List (Value × Interrupt)}
    (each : List.Forall₂
      (Peripheral.Counterpart (.exact earlier otherEarlier stored otherStored)) ps qs) :
    qs = ps := by
  have registers : ∀ x y : Register,
      x.Counterpart (.exact earlier otherEarlier stored otherStored) y → y = x := by
    rintro x _ ⟨sized, reset⟩
    rw [sized, reset]
  have peripherals : ∀ p q : Peripheral,
      p.Counterpart (.exact earlier otherEarlier stored otherStored) q → q = p := by
    rintro p _ ⟨each⟩
    rw [eq_of_forall₂ each registers]
  exact eq_of_forall₂ each peripherals

theorem Register.Counterpart.inPeripheral (held : x.Counterpart c y) (name : Value) :
    (x.inPeripheral name).Counterpart c (y.inPeripheral name) := by
  cases held with
  | intro sized reset => exact .intro sized reset

theorem Peripheral.Counterpart.rename (held : p.Counterpart c q) (name : Value) :
    (p.rename name).Counterpart c (q.rename name) := by
  cases held with
  | intro each =>
    refine .intro ?_
    rw [Peripheral.rename, List.forall₂_map_left_iff, List.forall₂_map_right_iff]
    exact each.imp fun _ _ same => same.inPeripheral name

theorem Peripheral.Counterpart.changeRegister {f g : Register → Register}
    (held : p.Counterpart c q)
    (maps : ∀ x y : Register, x.Counterpart c y → (f x).Counterpart c (g y)) :
    (p.changeRegister f).Counterpart c (q.changeRegister g) := by
  cases held with
  | intro each => exact .intro (forall₂_changeLast each maps)

theorem Register.Counterpart.changeFields (held : x.Counterpart c y)
    (f : List Field → List Field) :
    Counterpart c { x with fields := f x.fields } { y with fields := f y.fields } := by
  cases held with
  | intro sized reset => exact .intro sized reset

theorem Peripheral.Counterpart.addRegister (held : p.Counterpart c q) {u v : Register}
    (new : u.Counterpart c v) :
    Counterpart c { p with registers := p.registers ++ [u] }
      { q with registers := q.registers ++ [v] } := by
  cases held with
  | intro each => exact .intro (List.rel_append each (.cons new .nil))

namespace Document

variable {e : Element} {data : String}

theorem registerAttribute_counterpart {change : Register → Register}
    (known : registerAttribute e data = .ok change) (held : x.Counterpart c y) :
    (change x).Counterpart c (change y) := by
  cases held with
  | intro sized reset =>
    unfold registerAttribute at known
    split at known
    case h_1 | h_2 | h_3 => obtain rfl := textual_eq_ok known; exact .intro sized reset
    · obtain rfl | ⟨n, -, rfl⟩ := hexadecimal_eq_ok known <;> exact .intro sized reset
    · obtain rfl | ⟨n, -, rfl⟩ := hexadecimal_eq_ok known
      · exact .intro sized reset
      · exact .intro (c.size_refl _) reset
    · obtain rfl | ⟨n, -, rfl⟩ := hexadecimal_eq_ok known
      · exact .intro sized reset
      · exact .intro sized (c.resetValue_refl _)
    · obtain rfl | ⟨a, -, rfl⟩ := right_eq_ok known <;> exact .intro sized reset
    · cases known
      exact .intro sized reset

theorem peripheralAttribute_counterpart {change : Peripheral → Peripheral}
    (known : peripheralAttribute e data = .ok change) (held : p.Counterpart c q) :
    (change p).Counterpart c (change q) := by
  unfold peripheralAttribute at known
  split at known
  · obtain rfl := textual_eq_ok known
    exact held.rename _
  case h_2 | h_3 =>
    obtain rfl := textual_eq_ok known
    cases held with
    | intro each => exact .intro each
  · obtain rfl | ⟨n, -, rfl⟩ := hexadecimal_eq_ok known
    · exact held
    · cases held with
      | intro each => exact .intro each
  · cases known
    exact held

/-- Of a device its own attributes change nothing but themselves. -/
theorem deviceAttribute_replaces {change : Device → Device}
    (known : deviceAttribute e data = .ok change) (d : Device) (peripherals : List Peripheral)
    (interrupts : List (Value × Interrupt)) :
    change { d with peripherals := peripherals, interrupts := interrupts } =
      { change d with peripherals := peripherals, interrupts := interrupts } := by
  unfold deviceAttribute at known
  split at known
  case h_9 => cases known; rfl
  case h_1 | h_2 | h_3 => obtain rfl := textual_eq_ok known; rfl
  all_goals obtain rfl | ⟨n, -, rfl⟩ := decimal_eq_ok known <;> rfl

end Document

end

namespace Document

namespace Reader

variable {c : Contrast} {r s : Reader}

/-! ## Changes -/

namespace Counterpart

/-- Behind what came first, models under the same settings are the same. -/
theorem device_exact {earlier otherEarlier : List Peripheral}
    {stored otherStored : List (Value × Interrupt)}
    (held : r.Counterpart (.exact earlier otherEarlier stored otherStored) s) :
    ∃ later entries, r.device.peripherals = earlier ++ later ∧
      r.device.interrupts = stored ++ entries ∧
      s.device = { r.device with
        peripherals := otherEarlier ++ later
        interrupts := otherStored ++ entries } := by
  obtain ⟨peripherals, each, -, interrupts, -, -⟩ := held
  refine ⟨_, _, peripherals, interrupts, ?_⟩
  rw [eq_of_exact each]
  rfl

theorem place_eq (held : r.Counterpart c s) : s.place = r.place := by
  cases held with
  | intro => rfl

/-- The last peripherals of both are changed, each in its own way. -/
theorem changePeripheral (held : r.Counterpart c s) (inside : r.place.isInside = true)
    {f g : Peripheral → Peripheral}
    (maps : ∀ p q, Peripheral.Counterpart c p q → Peripheral.Counterpart c (f p) (g q)) :
    (r.changePeripheral f).Counterpart c (s.changePeripheral g) := by
  cases held with
  | @intro later otherLater _ _ _ peripherals each begun interrupts seen skipped =>
    have nonempty := begun inside
    have others : otherLater ≠ [] := by
      intro none
      rw [none, List.forall₂_nil_right_iff] at each
      exact nonempty each
    have changed : changeLast f r.device.peripherals = c.earlier ++ changeLast f later := by
      rw [peripherals, changeLast_append_right f _ nonempty]
    have changedOthers : changeLast g (c.otherEarlier ++ otherLater) =
        c.otherEarlier ++ changeLast g otherLater := changeLast_append_right g _ others
    simp only [Reader.changePeripheral, changeDevice, Device.changePeripheral, changedOthers]
    refine .intro changed (forall₂_changeLast each maps) (fun _ none => nonempty ?_) interrupts seen
      skipped
    exact List.eq_nil_of_length_eq_zero (by rw [← length_changeLast f, none, List.length_nil])

theorem peripheral (held : r.Counterpart c s) (inside : r.place.isInside = true) :
    ∃ p q, r.peripheral? = some p ∧ s.peripheral? = some q ∧ Peripheral.Counterpart c p q := by
  cases held with
  | @intro later otherLater _ _ _ peripherals each begun =>
    have nonempty := begun inside
    obtain ⟨p, q, last, otherLast, same⟩ := forall₂_getLast? each nonempty
    have others : otherLater ≠ [] := by
      rintro rfl
      cases otherLast
    refine ⟨p, q, ?_, ?_, same⟩
    · rw [peripheral?, peripherals, List.getLast?_append_of_ne_nil _ nonempty, last]
    · rw [peripheral?, List.getLast?_append_of_ne_nil _ others, otherLast]

/-- The device's own attributes are the same in both, and are changed in the same way. -/
theorem changeOwn (held : r.Counterpart c s) {change : Device → Device}
    (keeps : ∀ d, (change d).peripherals = d.peripherals ∧ (change d).interrupts = d.interrupts)
    (replaces : ∀ d peripherals interrupts,
      change { d with peripherals := peripherals, interrupts := interrupts } =
        { change d with peripherals := peripherals, interrupts := interrupts }) :
    (r.changeDevice change).Counterpart c (s.changeDevice change) := by
  cases held with
  | @intro later otherLater entries _ _ peripherals each begun interrupts seen skipped =>
    have other := replaces r.device (c.otherEarlier ++ otherLater) (c.otherStored ++ entries)
    unfold changeDevice
    dsimp only
    rw [other]
    exact .intro ((keeps r.device).1.trans peripherals) each begun
      ((keeps r.device).2.trans interrupts) seen skipped

theorem changeInterrupt (held : r.Counterpart c s) (f : Interrupt → Interrupt) :
    (r.changeInterrupt f).Counterpart c (s.changeInterrupt f) := by
  cases held with
  | intro peripherals each begun interrupts seen skipped =>
    exact .intro peripherals each begun interrupts seen skipped

theorem changeCpu (held : r.Counterpart c s) (f : Option Cpu → Option Cpu) :
    (r.changeDevice fun d => { d with cpu := f d.cpu }).Counterpart c
      (s.changeDevice fun d => { d with cpu := f d.cpu }) :=
  held.changeOwn (fun _ => ⟨rfl, rfl⟩) fun _ _ _ => rfl

theorem see (held : r.Counterpart c s) (seen : Bool) :
    Reader.Counterpart c { r with blockSeen := seen } { s with blockSeen := seen } := by
  cases held with
  | intro peripherals each begun interrupts _ skipped =>
    exact .intro peripherals each begun interrupts (fun _ => rfl) skipped

theorem skip (held : r.Counterpart c s) (skipped : Bool) :
    Reader.Counterpart c { r with blockSkipped := skipped } { s with blockSkipped := skipped } := by
  cases held with
  | intro peripherals each begun interrupts seen _ =>
    exact .intro peripherals each begun interrupts seen fun _ => rfl

theorem enumerate (held : r.Counterpart c s) (within : Bool) :
    Reader.Counterpart c { r with inEnumeratedValues := within }
      { s with inEnumeratedValues := within } := by
  cases held with
  | intro peripherals each begun interrupts seen skipped =>
    exact .intro peripherals each begun interrupts seen skipped

theorem count (held : r.Counterpart c s) :
    Reader.Counterpart c { r with line := r.line + 1 } { s with line := s.line + 1 } := by
  cases held with
  | intro peripherals each begun interrupts seen skipped =>
    exact .intro peripherals each begun interrupts seen skipped

end Counterpart

end Reader

end Document

end RegisterMap
