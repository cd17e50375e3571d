import Mathlib.Data.List.Induction
import RegisterMap.Proofs.Reader.Growth

/-!
The names that registers and fields carry. In every reachable model a register and its fields carry
the name that their peripheral has now, in whatever order names, registers, fields and derivations
came. The name of its register is different: a field keeps the one that the register had when the
field was begun, so that only a name that comes behind a field can make the two differ.
-/

set_option autoImplicit false

namespace RegisterMap

/-- The register and its fields carry this name of a peripheral. -/
def Register.Carries (name : Value) (x : Register) : Prop :=
  x.peripheralName = name ∧ ∀ f ∈ x.fields, f.peripheralName = name

def Peripheral.NamesCohere (p : Peripheral) : Prop := ∀ x ∈ p.registers, x.Carries p.name

theorem Register.carries_inPeripheral (name : Value) (x : Register) :
    (x.inPeripheral name).Carries name := by
  refine ⟨rfl, fun f member => ?_⟩
  obtain ⟨g, -, rfl⟩ := List.mem_map.mp member
  rfl

/-- Names that cohere are those that a renaming to the present name would give. -/
theorem Register.Carries.inPeripheral_eq {name : Value} {x : Register} (carries : x.Carries name) :
    x.inPeripheral name = x := by
  have fields : x.fields.map (Field.inPeripheral name) = x.fields := by
    refine (List.map_congr_left fun f member => ?_).trans (List.map_id x.fields)
    rw [← carries.2 f member]
    rfl
  rw [Register.inPeripheral, fields, ← carries.1]

namespace Document.Reader

/-- The field in this position, or the one that it was copied from, was opened in a register that
had the name. -/
inductive OpenedUnder (o : Settings) : List String → Nat → Nat → Nat → Value → Prop
  | opened {lines : List String} {line : String} {t : Tag} {i j : Nat} {x : Register}
      (here : (fed o {} lines).place = .fields) (current : (fed o {} lines).IsCurrent i j)
      (tagged : Tag.ofLine? line = some t) (mark : t.mark = .opening .field)
      (known : (fed o {} lines).device.register? i j = some x) :
      OpenedUnder o (lines ++ [line]) i j x.fields.length x.name
  | copied {lines : List String} {line : String} {t : Tag} {i j k b : Nat} {name : Value}
      (tagged : Tag.ofLine? line = some t) (derives : (fed o {} lines).Derives t i b)
      (source : OpenedUnder o lines b j k name) : OpenedUnder o (lines ++ [line]) i j k name
  | later {lines : List String} {i j k : Nat} {name : Value} (line : String)
      (before : OpenedUnder o lines i j k name) : OpenedUnder o (lines ++ [line]) i j k name

/-- The register in this position, or the one that it was copied from, was given a name when it
already had a field. -/
inductive RenamedLate (o : Settings) : List String → Nat → Nat → Prop
  | renamed {lines : List String} {line data : String} {t : Tag} {i j : Nat} {x : Register}
      (here : (fed o {} lines).place = .register) (current : (fed o {} lines).IsCurrent i j)
      (tagged : Tag.ofLine? line = some t) (tells : t.Tells .name data)
      (known : (fed o {} lines).device.register? i j = some x) (begun : x.fields ≠ []) :
      RenamedLate o (lines ++ [line]) i j
  | copied {lines : List String} {line : String} {t : Tag} {i j b : Nat}
      (tagged : Tag.ofLine? line = some t) (derives : (fed o {} lines).Derives t i b)
      (source : RenamedLate o lines b j) : RenamedLate o (lines ++ [line]) i j
  | later {lines : List String} {i j : Nat} (line : String) (before : RenamedLate o lines i j) :
      RenamedLate o (lines ++ [line]) i j

section

variable {o : Settings} {r : Reader} {t : Tag}

theorem Touch.namesCohere {f : Peripheral → Peripheral} {p : Peripheral} (touch : Touch o r t f)
    (before : p.NamesCohere) : (f p).NamesCohere := by
  cases touch with
  | described _ _ known =>
    obtain ⟨-, rfl⟩ | kept := peripheralAttribute_cases known
    · intro x member
      obtain ⟨y, -, rfl⟩ := List.mem_map.mp member
      exact y.carries_inPeripheral _
    · intro x member
      rw [(kept p).2.1] at member
      rw [(kept p).1]
      exact before x member
  | blockBegun | blockDescribed => exact before
  | registerBegun =>
    intro x member
    rcases List.mem_append.mp member with old | new
    · exact before x old
    · rw [List.mem_singleton.mp new]
      exact ⟨rfl, nofun⟩
  | registerDescribed _ _ known =>
    refine forall_changeLast (fun x _ carries => ?_) before
    obtain ⟨owner, fields, -⟩ := registerAttribute_keeps known x
    exact ⟨owner.trans carries.1, fields ▸ carries.2⟩
  | fieldBegun =>
    refine forall_changeLast (fun x _ carries => ⟨carries.1, fun f member => ?_⟩) before
    rcases List.mem_append.mp member with old | new
    · exact carries.2 f old
    · rw [List.mem_singleton.mp new]
      rfl
  | fieldDescribed _ _ _ known =>
    refine forall_changeLast (fun x _ carries => ⟨carries.1, ?_⟩) before
    exact forall_changeLast (fun f _ same => (fieldAttribute_keeps known f).1.trans same) carries.2

theorem namesCohere_feed (line : String) (before : ∀ p ∈ r.device.peripherals, p.NamesCohere) :
    ∀ p ∈ (r.feed o line).reader.device.peripherals, p.NamesCohere :=
  feed_keeps (motive := fun r => ∀ p ∈ r.device.peripherals, p.NamesCohere)
    (fun _ held => held)
    (fun _ _ _ _ held ok => (effect_of_read ok).forall_peripherals nofun
      (fun _ _ touch _ coheres => touch.namesCohere coheres) held)
    line before

theorem namesCohere_fed (o : Settings) (lines : List String) :
    ∀ p ∈ (fed o {} lines).device.peripherals, p.NamesCohere :=
  fed_induction o {} (motive := fun r => ∀ p ∈ r.device.peripherals, p.NamesCohere)
    (fun _ line held => namesCohere_feed line held) nofun lines

/-! ## The name of its register that a field carries -/

theorem field?_eq (d : Device) (i j k : Nat) :
    d.field? i j k = (d.register? i j).bind fun x => x.fields[k]? := rfl

/-- What becomes of a field in position `k` of the register. -/
inductive FieldGrowth (r : Reader) (t : Tag) (i j k : Nat) (x : Register) : Field → Field → Prop
  | same (f : Field) : FieldGrowth r t i j k x f f
  | named (name : Value) (f : Field) : FieldGrowth r t i j k x f (f.inPeripheral name)
  | described {e : Element} {data : String} {change : Field → Field} (f : Field)
      (here : r.place = .field) (current : r.IsCurrent i j) (last : k + 1 = x.fields.length)
      (tells : t.Tells e data) (known : fieldAttribute e data = .ok change) :
      FieldGrowth r t i j k x f (change f)

/-- A field that the register has keeps its position. -/
theorem Growth.field {i j k : Nat} {x : Register} {y : Option Register} {f : Field}
    (growth : Growth o r t i j (some x) y) (has : x.fields[k]? = some f) :
    ∃ z g, y = some z ∧ z.fields[k]? = some g ∧ FieldGrowth r t i j k x f g := by
  cases growth with
  | same => exact ⟨x, f, rfl, has, .same f⟩
  | @named data =>
    refine ⟨_, f.inPeripheral (.ofString data), rfl, ?_, .named _ f⟩
    rw [Register.inPeripheral, List.getElem?_map, has]
    rfl
  | described _ _ _ _ known =>
    exact ⟨_, f, rfl, by rw [(registerAttribute_keeps known x).2.1, has], .same f⟩
  | fieldBegun =>
    refine ⟨_, f, rfl, ?_, .same f⟩
    rw [List.getElem?_append_left (List.getElem?_eq_some_iff.mp has).1, has]
  | @fieldDescribed e data change _ here current tells known =>
    by_cases last : k + 1 = x.fields.length
    · refine ⟨_, change f, rfl, ?_, .described f here current last tells known⟩
      rw [Register.changeField, getElem?_changeLast, if_pos last, has]
      rfl
    · refine ⟨_, f, rfl, ?_, .same f⟩
      rw [Register.changeField, getElem?_changeLast, if_neg last, has]

theorem FieldGrowth.registerName {i j k : Nat} {x : Register} {f g : Field}
    (growth : FieldGrowth r t i j k x f g) : g.registerName = f.registerName := by
  cases growth with
  | same | named => rfl
  | described _ _ _ _ _ known => exact (fieldAttribute_keeps known f).2

theorem field_feed (line : String) {i j k : Nat} {f : Field}
    (has : r.device.field? i j k = some f) :
    ∃ g, (r.feed o line).reader.device.field? i j k = some g ∧
      g.registerName = f.registerName := by
  rw [field?_eq] at has ⊢
  obtain ⟨x, known, has⟩ := Option.bind_eq_some_iff.mp has
  obtain same | ⟨t, -, growth⟩ := growth_feed (o := o) (r := r) line i j
  · rw [same, known]
    exact ⟨f, has, rfl⟩
  · rw [known] at growth
    obtain ⟨y, g, new, found, becomes⟩ := growth.field has
    rw [new]
    exact ⟨g, found, becomes.registerName⟩

theorem field_fed (lines : List String) {i j k : Nat} {f : Field}
    (has : r.device.field? i j k = some f) :
    ∃ g, (fed o r lines).device.field? i j k = some g ∧ g.registerName = f.registerName := by
  induction lines generalizing r f with
  | nil => exact ⟨f, has, rfl⟩
  | cons line rest ih =>
    obtain ⟨g, kept, same⟩ := field_feed (o := o) line has
    obtain ⟨h, later, again⟩ := ih kept
    exact ⟨h, later, again.trans same⟩

/-- Where a field of a register comes from: it was there before, it has just been opened, or the
register has just been copied together with it. -/
theorem Growth.field_origin {i j k : Nat} {x : Option Register} {y : Register} {f : Field}
    (growth : Growth o r t i j x (some y)) (has : y.fields[k]? = some f) :
    (∃ z g, x = some z ∧ z.fields[k]? = some g ∧ g.registerName = f.registerName) ∨
      (∃ z, x = some z ∧ r.place = .fields ∧ r.IsCurrent i j ∧ t.mark = .opening .field ∧
        k = z.fields.length ∧ f.registerName = z.name) ∨
      ∃ b, r.Derives t i b ∧ r.device.register? b j = some y := by
  cases growth with
  | same => exact Or.inl ⟨y, f, rfl, has, rfl⟩
  | named z =>
    rw [Register.inPeripheral, List.getElem?_map] at has
    obtain ⟨g, old, rfl⟩ := Option.map_eq_some_iff.mp has
    exact Or.inl ⟨z, g, rfl, old, rfl⟩
  | described z _ _ _ known =>
    rw [(registerAttribute_keeps known z).2.1] at has
    exact Or.inl ⟨z, f, rfl, has, rfl⟩
  | fieldBegun z here mark current =>
    rw [List.getElem?_append] at has
    split at has
    · exact Or.inl ⟨z, f, rfl, has, rfl⟩
    · rw [List.getElem?_singleton] at has
      split at has
      · cases has
        exact Or.inr (Or.inl ⟨z, rfl, here, current, mark, by omega, rfl⟩)
      · exact absurd has nofun
  | fieldDescribed z _ _ _ known =>
    rw [Register.changeField] at has
    dsimp only at has
    rw [getElem?_changeLast] at has
    split at has
    · obtain ⟨g, old, rfl⟩ := Option.map_eq_some_iff.mp has
      exact Or.inl ⟨z, g, rfl, old, (fieldAttribute_keeps known g).2.symm⟩
    · exact Or.inl ⟨z, f, rfl, has, rfl⟩
  | begun => exact absurd has nofun
  | copied derives source => exact Or.inr (Or.inr ⟨_, derives, source⟩)

/-- What is done to the last register of the last peripheral is done to the one in this position. -/
theorem register?_changeCurrent {i j : Nat} {x : Register} (current : r.IsCurrent i j)
    (known : r.device.register? i j = some x) (f : Peripheral → Register → Register) :
    ∃ p, r.peripheral? = some p ∧
      (r.changePeripheral fun p => p.changeRegister (f p)).device.register? i j =
        some (f p x) := by
  obtain ⟨last, p, owner, lastRegister⟩ := current
  have place : r.device.peripherals[i]? = some p := by
    rw [← owner, peripheral?, List.getLast?_eq_getElem?]
    congr 1
    omega
  rw [register?_eq, place, Option.bind_some] at known
  refine ⟨p, owner, ?_⟩
  simp only [changePeripheral, changeDevice, Device.changePeripheral]
  rw [register?_eq, getElem?_changeLast, if_pos last, place, Option.map_some, Option.bind_some,
    changeRegister_registers, getElem?_changeLast, if_pos lastRegister, known, Option.map_some]

/-- A field is opened with the names and the access right that are known at that moment. -/
theorem field?_opened {line : String} {i j : Nat} {x : Register} (here : r.place = .fields)
    (current : r.IsCurrent i j) (tagged : Tag.ofLine? line = some t)
    (mark : t.mark = .opening .field) (known : r.device.register? i j = some x) :
    ∃ p, (r.feed o line).reader.device.field? i j x.fields.length = some (newField p x) := by
  obtain ⟨p, -, new⟩ := register?_changeCurrent current known
    fun p x => { x with fields := x.fields ++ [newField p x] }
  have opened : (r.feed o line).reader.device =
      (r.changePeripheral fun p =>
        p.changeRegister fun x => { x with fields := x.fields ++ [newField p x] }).device := by
    rw [feed_of_tag tagged, read, here]
    simp only [inFields, mark]
    rfl
  refine ⟨p, ?_⟩
  rw [opened, field?_eq, new, Option.bind_some, List.getElem?_append_right (Nat.le_refl _),
    Nat.sub_self, List.getElem?_singleton, if_pos rfl]

/-- A field that is opened carries the name that its register has at that moment. -/
theorem field_opened {line : String} {i j : Nat} {x : Register} (here : r.place = .fields)
    (current : r.IsCurrent i j) (tagged : Tag.ofLine? line = some t)
    (mark : t.mark = .opening .field) (known : r.device.register? i j = some x) :
    ∃ f, (r.feed o line).reader.device.field? i j x.fields.length = some f ∧
      f.registerName = x.name := by
  obtain ⟨p, opened⟩ := field?_opened (o := o) here current tagged mark known
  exact ⟨newField p x, opened, rfl⟩

/-- A register that a derived peripheral begins with is the one of its base. -/
theorem register_copied {line : String} {i j b : Nat} (tagged : Tag.ofLine? line = some t)
    (derives : r.Derives t i b) :
    (r.feed o line).reader.device.register? i j = r.device.register? b j := by
  obtain ⟨here, mark, rfl, name, derived, index⟩ := derives
  obtain ⟨p, found, place⟩ := found_of_peripheralIndex? index
  rw [feed_of_tag tagged, read, here]
  simp only [inPeripherals, mark, derived, found, openPeripheral, enter, Step.ofProgress]
  rw [register?_eq, register?_eq, List.getElem?_append_right (Nat.le_refl _), Nat.sub_self, place]
  rfl

/-- The name of its register that a field carries is the one under which it was opened. -/
theorem openedUnder_iff (lines : List String) (i j k : Nat) (name : Value) :
    OpenedUnder o lines i j k name ↔
      ∃ f, (fed o {} lines).device.field? i j k = some f ∧ f.registerName = name := by
  constructor
  · intro opened
    induction opened with
    | opened here current tagged mark known =>
      rw [fed_append]
      exact field_opened here current tagged mark known
    | copied tagged derives _ ih =>
      rw [fed_append, fed_cons, fed_nil, field?_eq, register_copied tagged derives, ← field?_eq]
      exact ih
    | later line _ ih =>
      obtain ⟨f, has, same⟩ := ih
      obtain ⟨g, kept, again⟩ := field_fed (o := o) [line] has
      exact ⟨g, by rw [fed_append, kept], again.trans same⟩
  -- The last line either left the field alone, or opened it, or copied it with its register.
  · induction lines using List.reverseRecOn generalizing i j k name with
    | nil =>
      rintro ⟨f, has, -⟩
      exact absurd has nofun
    | append_singleton lines line ih =>
      rintro ⟨f, has, rfl⟩
      rw [fed_append, fed_cons, fed_nil, field?_eq] at has
      obtain ⟨y, new, has⟩ := Option.bind_eq_some_iff.mp has
      obtain same | ⟨t, tagged, growth⟩ := growth_feed (o := o) (r := fed o {} lines) line i j
      · refine .later line (ih i j k _ ⟨f, ?_, rfl⟩)
        rw [field?_eq, ← same, new, Option.bind_some, has]
      · rw [new] at growth
        obtain ⟨x, g, old, kept, same⟩ | ⟨x, known, here, current, mark, rfl, same⟩ |
          ⟨b, derives, source⟩ := growth.field_origin has
        · refine .later line (ih i j k _ ⟨g, ?_, same⟩)
          rw [field?_eq, old, Option.bind_some, kept]
        · rw [same]
          exact .opened here current tagged mark known
        · refine .copied tagged derives (ih b j k _ ⟨f, ?_, rfl⟩)
          rw [field?_eq, source, Option.bind_some, has]

/-- The fields carry the present name of their register, unless a name came behind one of them. -/
theorem registerName_of_not_renamedLate (lines : List String) {i j : Nat} {x : Register}
    (known : (fed o {} lines).device.register? i j = some x)
    (early : ¬ RenamedLate o lines i j) : ∀ f ∈ x.fields, f.registerName = x.name := by
  induction lines using List.reverseRecOn generalizing i j x with
  | nil => exact absurd known nofun
  | append_singleton lines line ih =>
    rw [fed_append, fed_cons, fed_nil] at known
    have before : ∀ y, (fed o {} lines).device.register? i j = some y →
        ∀ f ∈ y.fields, f.registerName = y.name :=
      fun y old => ih old fun late => early (.later line late)
    obtain same | ⟨t, tagged, growth⟩ := growth_feed (o := o) (r := fed o {} lines) line i j
    · exact before x (same.symm.trans known)
    rw [known] at growth
    generalize old : (fed o {} lines).device.register? i j = y at growth
    cases growth with
    | same => exact before x old
    | named y =>
      intro f member
      obtain ⟨g, has, rfl⟩ := List.mem_map.mp member
      exact before y old g has
    | @described e data change y here current tells accepted =>
      obtain ⟨-, fields, name⟩ := registerAttribute_keeps accepted y
      rw [fields]
      intro f member
      -- A name that comes behind a field is just what makes the register one that is renamed late.
      by_cases naming : e = .name
      · subst naming
        have begun : y.fields ≠ [] := List.ne_nil_of_mem member
        exact absurd (.renamed here current tagged tells old begun) early
      · rw [name naming]
        exact before y old f member
    | fieldBegun y =>
      intro f member
      rcases List.mem_append.mp member with has | new
      · exact before y old f has
      · rw [List.mem_singleton.mp new]
        rfl
    | fieldDescribed y _ _ _ accepted =>
      refine forall_changeLast (fun f _ same => ?_) (before y old)
      exact (fieldAttribute_keeps accepted f).2.trans same
    | begun => nofun
    | copied derives source => exact ih source fun late => early (.copied tagged derives late)

-- A register that gets its name behind a field: the field keeps the empty name.
example :
    let x := (fed {} {} ["<peripherals>", "<peripheral>", "<baseAddress>0x0</baseAddress>",
      "<registers>", "<register>", "<fields>", "<field>", "</field>", "</fields>",
      "<name>CR1</name>"]).device.register? 0 0
    x.map Register.name = some (.ofString "CR1") ∧
      x.map (fun x => x.fields.map Field.registerName) = some [.text []] := by
  decide +kernel

end

/-- Names in every reachable model, however names, registers, fields and derivations came. -/
theorem names_cohere (o : Settings) (lines : List String) :
    (∀ p ∈ (fed o {} lines).device.peripherals, p.NamesCohere) ∧
      (∀ i j k name, OpenedUnder o lines i j k name ↔
        ∃ f, (fed o {} lines).device.field? i j k = some f ∧ f.registerName = name) ∧
      (∀ i j k f, (fed o {} lines).device.field? i j k = some f → ∀ later,
        ∃ g, (fed o {} (lines ++ later)).device.field? i j k = some g ∧
          g.registerName = f.registerName) ∧
      ∀ i j x, (fed o {} lines).device.register? i j = some x → ¬ RenamedLate o lines i j →
        ∀ f ∈ x.fields, f.registerName = x.name := by
  refine ⟨namesCohere_fed o lines, openedUnder_iff lines, ?_,
    fun _ _ _ => registerName_of_not_renamedLate lines⟩
  intro i j k f has later
  rw [fed_append]
  exact field_fed later has

end Document.Reader

end RegisterMap
