import Mathlib.Data.List.Forall2
import RegisterMap.Proofs.Derivation

/-!
What a line leaves alone. Nothing is ever taken out of a model or moved in it. A line changes at
most the last peripheral, and this only inside its element; there it changes at most the last
register, and in this at most the last field, except that the name of the peripheral goes down to
all of them. Besides it adds at most one entity behind the others. So a peripheral whose element has
ended stays as it is, whatever comes after it.
-/

set_option autoImplicit false

namespace RegisterMap

/-! ## Lists that grow -/

section

variable {α : Type}

/-- The last list has the entries of the first one at its beginning, in their order, and behind them
the new ones. `latest` tells what became of the last entry and `earlier` of the others. -/
inductive Grown (earlier latest : α → α → Prop) : List α → List α → List α → Prop
  | started (new : List α) : Grown earlier latest [] new new
  | continued {xs ys : List α} {x y : α} (new : List α) (before : List.Forall₂ earlier xs ys)
      (last : latest x y) : Grown earlier latest (xs ++ [x]) new (ys ++ y :: new)

variable {earlier latest : α → α → Prop} {f : α → α} {xs : List α}

theorem grown_changeLast (same : ∀ x, earlier x x)
    (last : ∀ x, xs.getLast? = some x → latest x (f x)) (new : List α) :
    Grown earlier latest xs new (changeLast f xs ++ new) := by
  rcases List.eq_nil_or_concat xs with rfl | ⟨ys, y, rfl⟩
  · exact .started new
  · rw [List.concat_eq_append, changeLast_append, List.append_assoc]
    exact .continued new (List.forall₂_same.mpr fun x _ => same x) (last y (by simp))

theorem grown_changeLast_self (same : ∀ x, earlier x x)
    (last : ∀ x, xs.getLast? = some x → latest x (f x)) :
    Grown earlier latest xs [] (changeLast f xs) := by
  have grown := grown_changeLast same last []
  rwa [List.append_nil] at grown

theorem grown_append (same : ∀ x, earlier x x) (last : ∀ x, latest x x) (new : List α) :
    Grown earlier latest xs new (xs ++ new) := by
  have grown : Grown earlier latest xs new (changeLast id xs ++ new) :=
    grown_changeLast same (fun x _ => last x) new
  rwa [changeLast_id] at grown

theorem grown_self (same : ∀ x, earlier x x) (last : ∀ x, latest x x) :
    Grown earlier latest xs [] xs := by
  have grown : Grown earlier latest xs [] (xs ++ []) := grown_append same last []
  rwa [List.append_nil] at grown

theorem grown_map (others : ∀ x, earlier x (f x)) (last : ∀ x, latest x (f x)) :
    Grown earlier latest xs [] (xs.map f) := by
  rcases List.eq_nil_or_concat xs with rfl | ⟨ys, y, rfl⟩
  · exact .started []
  · rw [List.concat_eq_append, List.map_append]
    refine .continued [] ?_ (last y)
    rw [List.forall₂_map_right_iff]
    exact List.forall₂_same.mpr fun x _ => others x

end

/-! ## Models that grow -/

/-- The entities that are added to a model. What a peripheral begins with is part of it. -/
structure Additions where
  peripherals : List Peripheral := []
  registers : List Register := []
  fields : List Field := []
  interrupts : List (Value × Interrupt) := []

def Additions.count (a : Additions) : Nat :=
  a.peripherals.length + a.registers.length + a.fields.length + a.interrupts.length

/-- The field has not changed, but for the name of the peripheral that it carries. -/
def Field.Reowned (f g : Field) : Prop := g = f ∨ ∃ name, g = f.inPeripheral name

/-- The register has not changed, but for the name of the peripheral that it and its fields carry.
-/
def Register.Reowned (x y : Register) : Prop := y = x ∨ ∃ name, y = x.inPeripheral name

/-- Of the fields only the last one may have changed. -/
def Register.Grows (added : Additions) (x y : Register) : Prop :=
  Grown Field.Reowned (fun _ _ => True) x.fields added.fields y.fields

/-- Of the registers only the last one may have changed. -/
def Peripheral.Grows (added : Additions) (p q : Peripheral) : Prop :=
  Grown Register.Reowned (Register.Grows added) p.registers added.registers q.registers

/-- Of the peripherals only the last one may have changed, and this only if it is described. -/
structure Device.Grows (described : Bool) (added : Additions) (d e : Device) : Prop where
  peripherals : Grown Eq (fun p q => if described then p.Grows added q else q = p)
    d.peripherals added.peripherals e.peripherals
  interrupts : e.interrupts = d.interrupts ++ added.interrupts

section

variable {added : Additions}

theorem Register.grows_of_fields {x y : Register} (same : y.fields = x.fields)
    (noField : added.fields = []) : x.Grows added y := by
  rw [Register.Grows, same, noField]
  exact grown_self (fun _ => Or.inl rfl) fun _ => trivial

theorem Register.grows_inPeripheral (name : Value) (x : Register) :
    x.Grows {} (x.inPeripheral name) :=
  grown_map (fun _ => Or.inr ⟨name, rfl⟩) fun _ => trivial

theorem Register.grows_changeField (f : Field → Field) (x : Register) :
    x.Grows {} (x.changeField f) := by
  apply grown_changeLast_self
  · exact fun _ => Or.inl rfl
  · exact fun _ _ => trivial

theorem Register.grows_addField (f : Field) (x : Register) :
    x.Grows { fields := [f] } { x with fields := x.fields ++ [f] } := by
  apply grown_append
  · exact fun _ => Or.inl rfl
  · exact fun _ => trivial

theorem Peripheral.grows_of_registers {p q : Peripheral} (same : q.registers = p.registers)
    (noRegister : added.registers = []) (noField : added.fields = []) : p.Grows added q := by
  rw [Peripheral.Grows, same, noRegister]
  exact grown_self (fun _ => Or.inl rfl) fun _ => Register.grows_of_fields rfl noField

theorem Peripheral.grows_rename (name : Value) (p : Peripheral) : p.Grows {} (p.rename name) :=
  grown_map (fun _ => Or.inr ⟨name, rfl⟩) (Register.grows_inPeripheral name)

theorem Peripheral.grows_addRegister (x : Register) (p : Peripheral) :
    p.Grows { registers := [x] } { p with registers := p.registers ++ [x] } := by
  apply grown_append
  · exact fun _ => Or.inl rfl
  · exact fun _ => Register.grows_of_fields rfl rfl

theorem Peripheral.grows_changeRegister {f : Register → Register} {p : Peripheral}
    (noRegister : added.registers = [])
    (last : ∀ x, p.registers.getLast? = some x → x.Grows added (f x)) :
    p.Grows added (p.changeRegister f) := by
  rw [Peripheral.Grows, noRegister]
  exact grown_changeLast_self (fun _ => Or.inl rfl) last

end

/-- The notice tells of a change of place. -/
def Notice.isMove : Notice → Bool
  | .moved .. => true
  | _ => false

namespace Document.Reader

section

variable {o : Settings} {r next : Reader} {t : Tag} {notices : List Notice}

theorem Touch.inside {f : Peripheral → Peripheral} (touch : Touch o r t f) :
    r.place.isInside = true := by
  cases touch with
  | described here | blockBegun here | blockDescribed here | registerBegun here
  | registerDescribed here | fieldBegun here | fieldDescribed here => rw [here]; rfl

/-- A touch of the last peripheral adds at most a register to it, or a field to its last one. -/
theorem Touch.grows {f : Peripheral → Peripheral} (touch : Touch o r t f) (p : Peripheral) :
    ∃ registers fields, registers.length + fields.length ≤ 1 ∧
      p.Grows { registers := registers, fields := fields } (f p) := by
  cases touch with
  | described _ _ known =>
    refine ⟨[], [], Nat.zero_le 1, ?_⟩
    obtain ⟨-, rfl⟩ | kept := peripheralAttribute_cases known
    · exact p.grows_rename _
    · exact Peripheral.grows_of_registers (kept p).2.1 rfl rfl
  | blockBegun | blockDescribed =>
    exact ⟨[], [], Nat.zero_le 1, Peripheral.grows_of_registers rfl rfl rfl⟩
  | registerBegun =>
    exact ⟨[newRegister o r.device p], [], Nat.le_refl 1, p.grows_addRegister _⟩
  | registerDescribed _ _ known =>
    refine ⟨[], [], Nat.zero_le 1, Peripheral.grows_changeRegister rfl fun x _ => ?_⟩
    exact Register.grows_of_fields (registerAttribute_keeps known x).2.1 rfl
  | fieldBegun =>
    cases last : p.registers.getLast? with
    | none =>
      refine ⟨[], [], Nat.zero_le 1, Peripheral.grows_changeRegister rfl fun x has => ?_⟩
      rw [last] at has
      cases has
    | some x =>
      refine ⟨[], [newField p x], Nat.le_refl 1, Peripheral.grows_changeRegister rfl ?_⟩
      intro y has
      cases last.symm.trans has
      exact x.grows_addField _
  | @fieldDescribed e data change =>
    exact ⟨[], [], Nat.zero_le 1, Peripheral.grows_changeRegister rfl fun x _ =>
      x.grows_changeField change⟩

/-- An addition that no peripheral takes part in leaves the peripherals as they are. -/
theorem grows_of_peripherals {described : Bool} {added : Additions} {d e : Device}
    (noRegister : added.registers = []) (noField : added.fields = [])
    (peripherals : e.peripherals = d.peripherals ++ added.peripherals)
    (interrupts : e.interrupts = d.interrupts ++ added.interrupts) :
    d.Grows described added e := by
  refine ⟨?_, interrupts⟩
  rw [peripherals]
  apply grown_append
  · exact fun _ => rfl
  · intro p
    cases described with
    | true => exact Peripheral.grows_of_registers rfl noRegister noField
    | false => rfl

theorem Touch.grows_last {f : Peripheral → Peripheral} (touch : Touch o r t f) :
    ∃ added : Additions, added.count ≤ 1 ∧ added.interrupts = [] ∧
      Grown Eq (fun p q => if r.place.isInside then p.Grows added q else q = p)
        r.device.peripherals added.peripherals (changeLast f r.device.peripherals) := by
  obtain ⟨registers, fields, few, grows⟩ := touch.grows (r.peripheral?.getD {})
  refine ⟨{ registers := registers, fields := fields }, ?_, rfl, ?_⟩
  · simp only [Additions.count, List.length_nil]
    omega
  · apply grown_changeLast_self
    · exact fun _ => rfl
    · intro p last
      have current : r.peripheral? = some p := last
      rw [current] at grows
      rw [if_pos touch.inside]
      exact grows

theorem Effect.grows (effect : Effect o r t next notices) :
    ∃ added : Additions, added.count ≤ 1 ∧ r.device.Grows r.place.isInside added next.device := by
  obtain sameInterrupts | ⟨i, -, -, -, -, stored⟩ := effect.interrupts
  · obtain same | ⟨p, -, -, -, same⟩ | ⟨f, touch, same⟩ := effect.peripherals
    · refine ⟨{}, Nat.zero_le 1, grows_of_peripherals rfl rfl ?_ ?_⟩
      · rw [same, List.append_nil]
      · rw [sameInterrupts, List.append_nil]
    · refine ⟨{ peripherals := [p] }, Nat.le_refl 1, grows_of_peripherals rfl rfl same ?_⟩
      rw [sameInterrupts, List.append_nil]
    · obtain ⟨added, few, noInterrupt, grown⟩ := touch.grows_last
      refine ⟨added, few, same ▸ grown, ?_⟩
      rw [sameInterrupts, noInterrupt, List.append_nil]
  · refine ⟨{ interrupts := [(i.vector, i)] }, Nat.le_refl 1, grows_of_peripherals rfl rfl ?_ ?_⟩
    · rw [stored, List.append_nil]
    · rw [stored]

theorem passage_moves {source target : Place} {m : Mark} (passage : Passage source m target) :
    target ≠ source := by
  cases passage <;> decide

/-- A tag changes the place at most once, and this is noticed. -/
theorem Effect.moves (effect : Effect o r t next notices) :
    notices.filter Notice.isMove =
      if next.place = r.place then [] else [.moved r.line r.place next.place] := by
  cases effect with
  | passed passage =>
    rw [if_neg (passage_moves passage)]
    rfl
  | cpuOpened here | peripheralOpened here | blockOpened here | blockRepeated here
  | interruptOpened here | registerOpened here | fieldOpened here | fieldClosed here =>
    rw [here]
    rfl
  | @interruptClosed i here =>
    rw [here]
    cases r.device.admits i <;> rfl
  | ignored | deviceDescribed | cpuDescribed | peripheralDescribed | blockDescribed
  | interruptDescribed | registerDescribed | valuesOpened | valuesClosed | fieldDescribed
  | peripheralSkipped =>
    exact (if_pos rfl).symm

theorem feed_grows (o : Settings) (r : Reader) (line : String) :
    ∃ added : Additions, added.count ≤ 1 ∧
      r.device.Grows r.place.isInside added (r.feed o line).reader.device := by
  have idle : ∃ added : Additions, added.count ≤ 1 ∧
      r.device.Grows r.place.isInside added r.device :=
    ⟨{}, Nat.zero_le 1, grows_of_peripherals rfl rfl (List.append_nil _).symm
      (List.append_nil _).symm⟩
  refine feed_cases (motive := fun step => ∃ added : Additions, added.count ≤ 1 ∧
    r.device.Grows r.place.isInside added step.reader.device) line (fun _ => idle) ?_
    (fun _ _ _ _ => idle)
  intro t next notices _ ok
  exact (effect_of_read ok).grows

theorem feed_moves (o : Settings) (r : Reader) (line : String) :
    (r.feed o line).notices.filter Notice.isMove =
      if (r.feed o line).reader.place = r.place then []
      else [.moved (r.line + 1) r.place (r.feed o line).reader.place] := by
  refine feed_cases (motive := fun step => step.notices.filter Notice.isMove =
    if step.reader.place = r.place then [] else [.moved (r.line + 1) r.place step.reader.place])
    line (fun _ => (if_pos rfl).symm) ?_ ?_
  · intro t next notices _ ok
    exact (effect_of_read ok).moves
  · intro t fault _ _
    rw [if_pos rfl]
    cases fault <;> rfl

/-! ## Runs -/

/-- These peripherals stand in front, and whatever is described comes behind them. -/
def Behind (finished : List Peripheral) (r : Reader) : Prop :=
  ∃ rest, r.device.peripherals = finished ++ rest ∧ (r.place.isInside = true → rest ≠ [])

theorem passage_inside {source target : Place} {m : Mark} (passage : Passage source m target)
    (inside : target.isInside = true) : source.isInside = true := by
  cases passage <;> first | rfl | exact absurd inside nofun

/-- Only a peripheral that is begun leads inside. -/
theorem Effect.inside (effect : Effect o r t next notices) (inside : next.place.isInside = true) :
    r.place.isInside = true ∨ ∃ p, next.device.peripherals = r.device.peripherals ++ [p] := by
  cases effect with
  | passed passage => exact Or.inl (passage_inside passage inside)
  | cpuOpened => exact absurd inside nofun
  | @peripheralOpened p => exact Or.inr ⟨p, rfl⟩
  | blockOpened here | blockRepeated here | interruptOpened here | interruptClosed here
  | registerOpened here | fieldOpened here | fieldClosed here =>
    rw [here]
    exact Or.inl rfl
  | ignored | deviceDescribed | cpuDescribed | peripheralDescribed | blockDescribed
  | interruptDescribed | registerDescribed | valuesOpened | valuesClosed | fieldDescribed
  | peripheralSkipped =>
    exact Or.inl inside

theorem Effect.behind {finished : List Peripheral} (effect : Effect o r t next notices)
    (before : Behind finished r) : Behind finished next := by
  obtain ⟨rest, listed, described⟩ := before
  obtain same | ⟨p, -, -, -, same⟩ | ⟨f, touch, same⟩ := effect.peripherals
  · refine ⟨rest, same.trans listed, fun inside => ?_⟩
    obtain stayed | ⟨p, more⟩ := effect.inside inside
    · exact described stayed
    · rw [same] at more
      exact absurd (List.self_eq_append_right.mp more) (List.cons_ne_nil p [])
  · refine ⟨rest ++ [p], ?_, fun _ => by simp⟩
    rw [same, listed, List.append_assoc]
  · have some := described touch.inside
    refine ⟨changeLast f rest, ?_, fun _ => ?_⟩
    · rw [same, listed, changeLast_append_right f finished some]
    · rw [← List.length_pos_iff, length_changeLast]
      exact List.length_pos_iff.mpr some

theorem behind_fed (o : Settings) {finished : List Peripheral} (before : Behind finished r)
    (lines : List String) : Behind finished (fed o r lines) := by
  refine fed_induction o r ?_ before lines
  intro r line held
  exact feed_keeps (fun _ held => held) (fun _ _ _ _ held ok => (effect_of_read ok).behind held)
    line held

/-- Whatever the reader does with a line, the entities that it already has stay where they are, and
all that are not being described stay as they are; at most one entity is added, and the place
changes at most once. A peripheral whose element has ended is never touched again. -/
theorem finished_entities_stay (o : Settings) (lines : List String) :
    (∀ line : String,
        let r := fed o {} lines
        let step := r.feed o line
        (∃ added : Additions, added.count ≤ 1 ∧
          r.device.Grows r.place.isInside added step.reader.device) ∧
        step.notices.filter Notice.isMove =
          if step.reader.place = r.place then []
          else [.moved (r.line + 1) r.place step.reader.place]) ∧
      ((fed o {} lines).place.isInside = false → ∀ later : List String,
        (fed o {} lines).device.peripherals <+:
          (fed o {} (lines ++ later)).device.peripherals) := by
  refine ⟨fun line => ⟨feed_grows o _ line, feed_moves o _ line⟩, fun outside later => ?_⟩
  have start : Behind (fed o {} lines).device.peripherals (fed o {} lines) :=
    ⟨[], (List.append_nil _).symm, fun inside => absurd (outside.symm.trans inside) nofun⟩
  obtain ⟨rest, kept, -⟩ := behind_fed o start later
  rw [fed_append]
  exact ⟨rest, kept.symm⟩

end

/-- The timer stays as it is while a peripheral that is derived from it gets another name and a
register of its own. -/
theorem finished_entities_stay_timer :
    behindTimer.place.isInside = false ∧
      [timer] <+: (fed {} behindTimer
        ("<peripheral derivedFrom=\"TIM2\">" :: derivedTimer)).device.peripherals := by
  have stays := (finished_entities_stay {} ["<peripherals>", "<peripheral>", "<name>TIM2</name>",
    "<baseAddress>0x40</baseAddress>", "<registers>", "<register>", "</register>",
    "</registers>", "</peripheral>"]).2
  simp only [fed_append, ← behindTimer_reached] at stays
  exact ⟨rfl, stays rfl _⟩

end Document.Reader

end RegisterMap
