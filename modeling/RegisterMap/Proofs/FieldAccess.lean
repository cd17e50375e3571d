import RegisterMap.Proofs.AnySettings
import RegisterMap.Proofs.Names
import RegisterMap.Proofs.Reader.Saying
import RegisterMap.Proofs.WriteMask

/-!
Access rights of registers and fields. A register has the right that it was given last, and a field
as well; a field that was given none has the one that its register had when it was opened. What the
register, other fields or derived peripherals are given behind it does not reach it. Both are told
from the history of the run: `RegisterRights` and `FieldRights` list what an entity was given.
-/

set_option autoImplicit false

namespace RegisterMap

theorem Value.MaybeWord.maybeNatural {v : Value} (word : v.MaybeWord) : v.MaybeNatural :=
  word.imp_right fun ⟨n, _, same⟩ => ⟨n, same⟩

theorem Field.Fits.measured {f : Field} (fits : f.Fits) : f.Measured :=
  ⟨fits.bitOffset.maybeNatural, fits.bitWidth.maybeNatural⟩

namespace Document

/-- The access right that the line names as the one of an entity. -/
def rightSaid? (line : String) : Option Access :=
  said? .access (fun data => Access.ofText? data.toList) line

section

variable {e : Element} {data : String}

/-- Of the attributes of a register only the access right changes the access right. -/
theorem registerAttribute_access {change : Register → Register}
    (known : registerAttribute e data = .ok change) :
    (e = .access ∧ ∃ a, Access.ofText? data.toList = some a ∧
        change = fun x => { x with access := a }) ∨
      ∀ x, (change x).access = x.access := by
  unfold registerAttribute at known
  split at known
  case h_7 =>
    obtain rfl | ⟨a, named, rfl⟩ := right_eq_ok known
    · exact .inr fun _ => rfl
    · exact .inl ⟨rfl, a, named, rfl⟩
  case h_8 => cases known; exact .inr fun _ => rfl
  case h_1 | h_2 | h_3 => obtain rfl := textual_eq_ok known; exact .inr fun _ => rfl
  all_goals obtain rfl | ⟨n, -, rfl⟩ := hexadecimal_eq_ok known <;> exact .inr fun _ => rfl

theorem fieldAttribute_access {change : Field → Field}
    (known : fieldAttribute e data = .ok change) :
    (e = .access ∧ ∃ a, Access.ofText? data.toList = some a ∧
        change = fun f => { f with access := a }) ∨
      ∀ f, (change f).access = f.access := by
  unfold fieldAttribute at known
  split at known
  case h_5 =>
    obtain rfl | ⟨a, named, rfl⟩ := right_eq_ok known
    · exact .inr fun _ => rfl
    · exact .inl ⟨rfl, a, named, rfl⟩
  case h_6 => cases known; exact .inr fun _ => rfl
  case h_1 | h_2 => obtain rfl := textual_eq_ok known; exact .inr fun _ => rfl
  all_goals obtain rfl | ⟨n, -, rfl⟩ := decimal_eq_ok known <;> exact .inr fun _ => rfl

end

namespace Reader

/-- The position is that of the last field of the last register of the last peripheral. -/
def IsCurrentField (r : Reader) (i j k : Nat) : Prop :=
  r.IsCurrent i j ∧ ∃ x, r.device.register? i j = some x ∧ k + 1 = x.fields.length

/-- The field in this position is being described. -/
def DescribesField (r : Reader) (i j k : Nat) : Prop :=
  r.place = .field ∧ r.IsCurrentField i j k

/-- The line gives the register in this position the right. -/
structure GivesRegister (r : Reader) (line : String) (i j : Nat) (a : Access) : Prop where
  here : r.place = .register
  current : r.IsCurrent i j
  said : rightSaid? line = some a

/-- The line gives the field in this position the right. -/
structure GivesField (r : Reader) (line : String) (i j k : Nat) (a : Access) : Prop where
  here : r.place = .field
  outside : r.inEnumeratedValues = false
  current : r.IsCurrentField i j k
  said : rightSaid? line = some a

/-- The rights that the register in this position, or the one that it was copied from, has been
given, in this order. -/
inductive RegisterRights (o : Settings) : List String → Nat → Nat → List Access → Prop
  | begun {lines : List String} {line : String} {i j : Nat}
      (here : (fed o {} lines).place = .registers)
      (free : (fed o {} lines).device.register? i j = none)
      (taken : (fed o {} (lines ++ [line])).device.register? i j ≠ none) :
      RegisterRights o (lines ++ [line]) i j []
  | copied {lines : List String} {line : String} {t : Tag} {i j b : Nat} {told : List Access}
      (tagged : Tag.ofLine? line = some t) (derives : (fed o {} lines).Derives t i b)
      (source : RegisterRights o lines b j told) : RegisterRights o (lines ++ [line]) i j told
  | given {lines : List String} {line : String} {i j : Nat} {told : List Access} {a : Access}
      (gives : (fed o {} lines).GivesRegister line i j a)
      (before : RegisterRights o lines i j told) :
      RegisterRights o (lines ++ [line]) i j (told ++ [a])
  | later {lines : List String} {line : String} {i j : Nat} {told : List Access}
      (silent : ∀ a, ¬ (fed o {} lines).GivesRegister line i j a)
      (before : RegisterRights o lines i j told) : RegisterRights o (lines ++ [line]) i j told

/-- The rights that the field in this position, or the one that it was copied from, has been given,
in this order, behind the one that its register had when it was opened. -/
inductive FieldRights (o : Settings) :
    List String → Nat → Nat → Nat → Access → List Access → Prop
  | opened {lines : List String} {line : String} {t : Tag} {i j : Nat} {x : Register}
      {told : List Access} (here : (fed o {} lines).place = .fields)
      (current : (fed o {} lines).IsCurrent i j) (tagged : Tag.ofLine? line = some t)
      (mark : t.mark = .opening .field) (known : (fed o {} lines).device.register? i j = some x)
      (register : RegisterRights o lines i j told) :
      FieldRights o (lines ++ [line]) i j x.fields.length (told.getLast?.getD .readWrite) []
  | copied {lines : List String} {line : String} {t : Tag} {i j k b : Nat} {start : Access}
      {told : List Access} (tagged : Tag.ofLine? line = some t)
      (derives : (fed o {} lines).Derives t i b) (source : FieldRights o lines b j k start told) :
      FieldRights o (lines ++ [line]) i j k start told
  | given {lines : List String} {line : String} {i j k : Nat} {start a : Access}
      {told : List Access} (gives : (fed o {} lines).GivesField line i j k a)
      (before : FieldRights o lines i j k start told) :
      FieldRights o (lines ++ [line]) i j k start (told ++ [a])
  | later {lines : List String} {line : String} {i j k : Nat} {start : Access}
      {told : List Access} (silent : ∀ a, ¬ (fed o {} lines).GivesField line i j k a)
      (before : FieldRights o lines i j k start told) :
      FieldRights o (lines ++ [line]) i j k start told

section

variable {o : Settings} {r : Reader} {t : Tag} {line : String} {i j k : Nat} {x : Register}

/-! ## Registers -/

theorem GivesRegister.feed {a : Access} (gives : r.GivesRegister line i j a) :
    (r.feed o line).reader.device = (r.changeRegister fun x => { x with access := a }).device := by
  obtain ⟨here, -, said⟩ := gives
  obtain ⟨t, data, tagged, ⟨mark, content⟩, named⟩ := said?_eq_some_iff.mp said
  rw [feed_of_tag tagged, read, here]
  simp only [inRegister, mark, describe, content, registerAttribute, right, named, changeBy]
  rfl

theorem register?_given {a : Access} (gives : r.GivesRegister line i j a)
    (known : r.device.register? i j = some x) :
    (r.feed o line).reader.device.register? i j = some { x with access := a } := by
  obtain ⟨p, -, new⟩ := register?_changeCurrent gives.current known
    fun _ x => { x with access := a }
  rw [gives.feed]
  exact new

/-- A line that gives the register no right leaves it its own. -/
theorem register?_silent (silent : ∀ a, ¬ r.GivesRegister line i j a)
    (known : r.device.register? i j = some x) :
    ∃ y, (r.feed o line).reader.device.register? i j = some y ∧ y.access = x.access := by
  obtain same | ⟨t, tagged, growth⟩ := growth_feed (o := o) (r := r) line i j
  · exact ⟨x, same.trans known, rfl⟩
  · rw [known] at growth
    generalize (r.feed o line).reader.device.register? i j = y at growth
    cases growth with
    | same => exact ⟨x, rfl, rfl⟩
    | named | fieldBegun | fieldDescribed => exact ⟨_, rfl, rfl⟩
    | described _ here current tells accepted =>
      obtain ⟨rfl, a, named, -⟩ | keeps := registerAttribute_access accepted
      · exact absurd ⟨here, current, (said?_of_tells tagged tells).trans named⟩ (silent a)
      · exact ⟨_, rfl, keeps x⟩

/-- A register has the right that it was given last, or may be read and written. -/
theorem RegisterRights.access {lines : List String} {told : List Access}
    (rights : RegisterRights o lines i j told) :
    ∃ x, (fed o {} lines).device.register? i j = some x ∧
      x.access = told.getLast?.getD .readWrite := by
  induction rights with
  | @begun lines line i j here free taken =>
    rw [fed_append, fed_cons, fed_nil] at taken ⊢
    obtain same | ⟨t, tagged, growth⟩ := growth_feed (o := o) (r := fed o {} lines) line i j
    · exact absurd (same.trans free) taken
    · rw [free] at growth
      generalize ((fed o {} lines).feed o line).reader.device.register? i j = y at growth taken
      cases growth with
      | same => exact absurd rfl taken
      | begun => exact ⟨_, rfl, rfl⟩
      | copied derives => exact absurd (here.symm.trans derives.1) nofun
  | copied tagged derives _ ih =>
    rw [fed_append, fed_cons, fed_nil, register_copied tagged derives]
    exact ih
  | given gives _ ih =>
    obtain ⟨x, known, -⟩ := ih
    rw [fed_append, fed_cons, fed_nil]
    refine ⟨_, register?_given gives known, ?_⟩
    rw [List.getLast?_concat]
    rfl
  | later silent _ ih =>
    obtain ⟨x, known, has⟩ := ih
    obtain ⟨y, kept, same⟩ := register?_silent (o := o) silent known
    rw [fed_append, fed_cons, fed_nil]
    exact ⟨y, kept, same.trans has⟩

/-- Every register has a history. -/
theorem exists_registerRights (lines : List String)
    (known : (fed o {} lines).device.register? i j = some x) :
    ∃ told, RegisterRights o lines i j told := by
  induction lines using List.reverseRecOn generalizing i j x with
  | nil => exact absurd known nofun
  | append_singleton lines line ih =>
    have goesOn : ∀ y, (fed o {} lines).device.register? i j = some y →
        ∃ told, RegisterRights o (lines ++ [line]) i j told := by
      intro y old
      obtain ⟨told, before⟩ := ih old
      by_cases gives : ∃ a, (fed o {} lines).GivesRegister line i j a
      · exact ⟨_, .given gives.choose_spec before⟩
      · exact ⟨told, .later (not_exists.mp gives) before⟩
    cases old : (fed o {} lines).device.register? i j with
    | some y => exact goesOn y old
    | none =>
      have taken := known
      rw [fed_append, fed_cons, fed_nil] at known
      obtain same | ⟨t, tagged, growth⟩ := growth_feed (o := o) (r := fed o {} lines) line i j
      · exact absurd (known.symm.trans (same.trans old)) nofun
      · rw [old, known] at growth
        cases growth with
        | begun here => exact ⟨[], .begun here old (by rw [taken]; nofun)⟩
        | copied derives source =>
          obtain ⟨told, before⟩ := ih source
          exact ⟨told, .copied tagged derives before⟩

/-! ## Fields -/

theorem GivesField.feed {a : Access} (gives : r.GivesField line i j k a) :
    (r.feed o line).reader.device = (r.changeField fun f => { f with access := a }).device := by
  obtain ⟨here, outside, -, said⟩ := gives
  obtain ⟨t, data, tagged, ⟨mark, content⟩, named⟩ := said?_eq_some_iff.mp said
  rw [feed_of_tag tagged, read, here]
  simp only [inField, mark, outside, describe, content, fieldAttribute, right, named, changeBy]
  rfl

theorem field?_given {a : Access} {f : Field} (gives : r.GivesField line i j k a)
    (has : r.device.field? i j k = some f) :
    (r.feed o line).reader.device.field? i j k = some { f with access := a } := by
  obtain ⟨current, x, known, last⟩ := gives.current
  obtain ⟨p, -, new⟩ := register?_changeCurrent current known
    fun _ x => x.changeField fun f => { f with access := a }
  have same : (r.feed o line).reader.device.register? i j =
      some (x.changeField fun f => { f with access := a }) := by
    rw [gives.feed]
    exact new
  rw [field?_eq, known, Option.bind_some] at has
  rw [field?_eq, same, Option.bind_some, Register.changeField, getElem?_changeLast, if_pos last,
    has]
  rfl

/-- Inside of enumerated values no line reaches a register. -/
theorem register?_in_values (here : r.place = .field) (opened : r.inEnumeratedValues = true) :
    (r.feed o line).reader.device.register? i j = r.device.register? i j := by
  refine feed_cases
    (motive := fun step => step.reader.device.register? i j = r.device.register? i j)
    line (fun _ => rfl) ?_ (fun _ _ _ _ => rfl)
  intro t next notices tagged ok
  rw [register?_eq, register?_eq]
  obtain same | ⟨p, elsewhere, -⟩ | ⟨f, touch, -⟩ := (effect_of_read ok).peripherals
  · rw [same]
  · exact absurd (here.symm.trans elsewhere) nofun
  · cases touch with
    | fieldDescribed _ outside => exact absurd (opened.symm.trans outside) nofun
    | described elsewhere | blockBegun elsewhere | blockDescribed elsewhere
    | registerBegun elsewhere | registerDescribed elsewhere | fieldBegun elsewhere =>
      exact absurd (here.symm.trans elsewhere) nofun

/-- A line that gives the field no right leaves it its own. -/
theorem field?_silent {f : Field} (silent : ∀ a, ¬ r.GivesField line i j k a)
    (has : r.device.field? i j k = some f) :
    ∃ g, (r.feed o line).reader.device.field? i j k = some g ∧ g.access = f.access := by
  by_cases values : r.place = .field ∧ r.inEnumeratedValues = true
  · refine ⟨f, ?_, rfl⟩
    rw [field?_eq, register?_in_values values.1 values.2, ← field?_eq, has]
  obtain ⟨x, known, listed⟩ := Option.bind_eq_some_iff.mp ((field?_eq ..).symm.trans has)
  rw [field?_eq]
  obtain same | ⟨t, tagged, growth⟩ := growth_feed (o := o) (r := r) line i j
  · rw [same, known]
    exact ⟨f, listed, rfl⟩
  · rw [known] at growth
    obtain ⟨y, g, new, found, becomes⟩ := growth.field listed
    refine ⟨g, by rw [new, Option.bind_some, found], ?_⟩
    cases becomes with
    | same | named => rfl
    | described _ here current last tells accepted =>
      obtain ⟨rfl, a, named, -⟩ | keeps := fieldAttribute_access accepted
      · have outside : r.inEnumeratedValues = false :=
          Bool.eq_false_iff.mpr fun opened => values ⟨here, opened⟩
        exact absurd ⟨here, outside, ⟨current, x, known, last⟩,
          (said?_of_tells tagged tells).trans named⟩ (silent a)
      · exact keeps f

/-- A field has the right that it was given last, or else the one that it began with. -/
theorem FieldRights.access {lines : List String} {start : Access} {told : List Access}
    (rights : FieldRights o lines i j k start told) :
    ∃ f, (fed o {} lines).device.field? i j k = some f ∧
      f.access = told.getLast?.getD start := by
  induction rights with
  | @opened lines line t i j x told here current tagged mark known register =>
    obtain ⟨y, same, has⟩ := register.access
    cases known.symm.trans same
    obtain ⟨p, opened⟩ := field?_opened (o := o) here current tagged mark known
    rw [fed_append, fed_cons, fed_nil]
    exact ⟨newField p x, opened, has⟩
  | copied tagged derives _ ih =>
    rw [fed_append, fed_cons, fed_nil, field?_eq, register_copied tagged derives, ← field?_eq]
    exact ih
  | given gives _ ih =>
    obtain ⟨f, has, -⟩ := ih
    rw [fed_append, fed_cons, fed_nil]
    refine ⟨_, field?_given gives has, ?_⟩
    rw [List.getLast?_concat]
    rfl
  | later silent _ ih =>
    obtain ⟨f, has, same⟩ := ih
    obtain ⟨g, kept, again⟩ := field?_silent (o := o) silent has
    rw [fed_append, fed_cons, fed_nil]
    exact ⟨g, kept, again.trans same⟩

/-- Every field has a history. -/
theorem exists_fieldRights (lines : List String) {f : Field}
    (has : (fed o {} lines).device.field? i j k = some f) :
    ∃ start told, FieldRights o lines i j k start told := by
  induction lines using List.reverseRecOn generalizing i j k f with
  | nil => exact absurd has nofun
  | append_singleton lines line ih =>
    have goesOn : ∀ g, (fed o {} lines).device.field? i j k = some g →
        ∃ start told, FieldRights o (lines ++ [line]) i j k start told := by
      intro g old
      obtain ⟨start, told, before⟩ := ih old
      by_cases gives : ∃ a, (fed o {} lines).GivesField line i j k a
      · exact ⟨start, _, .given gives.choose_spec before⟩
      · exact ⟨start, told, .later (not_exists.mp gives) before⟩
    rw [fed_append, fed_cons, fed_nil, field?_eq] at has
    obtain ⟨y, new, listed⟩ := Option.bind_eq_some_iff.mp has
    obtain same | ⟨t, tagged, growth⟩ := growth_feed (o := o) (r := fed o {} lines) line i j
    · refine goesOn f ?_
      rw [field?_eq, ← same, new, Option.bind_some, listed]
    · rw [new] at growth
      obtain ⟨x, g, old, kept, -⟩ | ⟨x, known, here, current, mark, rfl, -⟩ |
        ⟨b, derives, source⟩ := growth.field_origin listed
      · refine goesOn g ?_
        rw [field?_eq, old, Option.bind_some, kept]
      · obtain ⟨told, register⟩ := exists_registerRights lines known
        exact ⟨_, _, .opened here current tagged mark known register⟩
      · have copy : (fed o {} lines).device.field? b j k = some f := by
          rw [field?_eq, source, Option.bind_some, listed]
        obtain ⟨start, told, before⟩ := ih copy
        exact ⟨start, told, .copied tagged derives before⟩

/-! ## What comes later -/

theorem IsCurrent.of_changeCurrent {f : Peripheral → Register → Register}
    (current : (r.changePeripheral fun p => p.changeRegister (f p)).IsCurrent i j) :
    r.IsCurrent i j := by
  obtain ⟨last, q, owner, lastRegister⟩ := current
  rw [peripheral?_changePeripheral] at owner
  obtain ⟨p, known, rfl⟩ := Option.map_eq_some_iff.mp owner
  rw [changeRegister_registers, length_changeLast] at lastRegister
  exact ⟨last.trans (length_changeLast _ _), p, known, lastRegister⟩

/-- No tag goes back to a field that is there already. -/
theorem Effect.describesField {next : Reader} {notices : List Notice} {f : Field}
    (effect : Effect o r t next notices) (has : r.device.field? i j k = some f)
    (described : next.DescribesField i j k) : r.DescribesField i j k := by
  obtain ⟨there, current, y, new, last⟩ := described
  obtain ⟨x, known, listed⟩ := Option.bind_eq_some_iff.mp ((field?_eq ..).symm.trans has)
  cases effect with
  | ignored => exact ⟨there, current, y, new, last⟩
  | valuesOpened here | valuesClosed here => exact ⟨here, current, y, new, last⟩
  | @fieldDescribed _ _ change here =>
    have before : r.IsCurrent i j :=
      IsCurrent.of_changeCurrent (f := fun _ => Register.changeField change) current
    obtain ⟨p, -, changed⟩ := register?_changeCurrent before known
      fun _ => Register.changeField change
    obtain rfl := Option.some.inj (new.symm.trans changed)
    refine ⟨here, before, x, known, last.trans ?_⟩
    rw [Register.changeField, length_changeLast]
  -- The field that is opened stands behind all others of its register.
  | fieldOpened =>
    have before : r.IsCurrent i j := IsCurrent.of_changeCurrent current
    obtain ⟨p, -, changed⟩ := register?_changeCurrent before known
      fun p x => { x with fields := x.fields ++ [newField p x] }
    obtain rfl := Option.some.inj (new.symm.trans changed)
    have bound := (List.getElem?_eq_some_iff.mp listed).1
    rw [List.length_append, List.length_singleton] at last
    omega
  | passed passage =>
    dsimp only at there
    subst there
    generalize r.place = source at passage
    generalize t.mark = m at passage
    cases passage
  | deviceDescribed here | cpuDescribed here | peripheralSkipped here | peripheralDescribed here
  | blockDescribed here | interruptDescribed here | registerDescribed here =>
    cases here.symm.trans there
  | _ => cases there

theorem describesField_of_feed {f : Field} (has : r.device.field? i j k = some f)
    (described : (r.feed o line).reader.DescribesField i j k) : r.DescribesField i j k := by
  revert described
  refine feed_cases
    (motive := fun step => step.reader.DescribesField i j k → r.DescribesField i j k)
    line (fun _ described => described) ?_ (fun _ _ _ _ described => described)
  intro t next notices _ ok described
  have before := (effect_of_read ok).describesField has described
  exact before

/-- As long as a field is given no right it keeps its own. -/
theorem field?_throughout {later : List String} {f : Field}
    (has : r.device.field? i j k = some f)
    (silent : Throughout o (fun s next => ∀ a, ¬ s.GivesField next i j k a) r later) :
    ∃ g, (r.fed o later).device.field? i j k = some g ∧ g.access = f.access := by
  induction later generalizing r f with
  | nil => exact ⟨f, has, rfl⟩
  | cons line rest ih =>
    obtain ⟨g, kept, same⟩ := field?_silent (o := o) silent.1 has
    obtain ⟨h, last, again⟩ := ih kept silent.2
    exact ⟨h, last, again.trans same⟩

/-- A field that is no longer described is never given a right again. -/
theorem silent_of_not_describesField {f : Field} (has : r.device.field? i j k = some f)
    (closed : ¬ r.DescribesField i j k) (later : List String) :
    Throughout o (fun s next => ∀ a, ¬ s.GivesField next i j k a) r later := by
  induction later generalizing r f with
  | nil => trivial
  | cons line rest ih =>
    have silent : ∀ a, ¬ r.GivesField line i j k a :=
      fun a gives => closed ⟨gives.here, gives.current⟩
    obtain ⟨g, kept, -⟩ := field?_silent (o := o) silent has
    exact ⟨silent, ih kept fun described => closed (describesField_of_feed has described)⟩

/-! ## The write mask -/

theorem measured_of_known {lines : List String}
    (known : (fed o {} lines).device.register? i j = some x) : x.Measured := by
  rw [register?_eq] at known
  obtain ⟨p, listed, member⟩ := Option.bind_eq_some_iff.mp known
  have fits := ((fitsUnder_fed o lines).peripherals p (List.mem_of_getElem? listed)).registers x
    (List.mem_of_getElem? member)
  exact fun f stands => (fits.fields f stands).measured

/-- The bits of the write mask are those of the fields whose history ends in a right to write. -/
theorem writeMask_of_rights {lines : List String}
    (known : (fed o {} lines).device.register? i j = some x) :
    ∃ word : Nat, x.writeMask = pure word ∧ ∀ n, word.testBit n = true ↔ n < 32 ∧
      ∃ k f start told, x.fields[k]? = some f ∧ FieldRights o lines i j k start told ∧
        told.getLast?.getD start ≠ .readOnly ∧ f.Takes n := by
  obtain ⟨word, made, bits⟩ := (measured_of_known known).writeMask
  refine ⟨word, made, fun n => ?_⟩
  rw [bits]
  refine and_congr_right fun _ => ⟨?_, ?_⟩
  · rintro ⟨f, member, writable, takes⟩
    obtain ⟨k, listed⟩ := List.mem_iff_getElem?.mp member
    have has : (fed o {} lines).device.field? i j k = some f := by
      rw [field?_eq, known, Option.bind_some, listed]
    obtain ⟨start, told, rights⟩ := exists_fieldRights lines has
    obtain ⟨g, same, access⟩ := rights.access
    cases has.symm.trans same
    exact ⟨k, f, start, told, listed, rights, access ▸ writable, takes⟩
  · rintro ⟨k, f, start, told, listed, rights, writable, takes⟩
    obtain ⟨g, has, access⟩ := rights.access
    rw [field?_eq, known, Option.bind_some, listed] at has
    cases has
    exact ⟨f, List.mem_of_getElem? listed, access ▸ writable, takes⟩

end

/-- A register has the access right that it was given last, or else may be read and written. A field
has the one that it was given last, or else the one that its register had when the field was opened.
Behind that no line changes it which does not give this field a right, and so none at all once the
field is no longer described. The write mask of the register is made up of these rights. -/
theorem access_is_given_last (o : Settings) (lines : List String) :
    (∀ i j a, (∃ told, RegisterRights o lines i j told ∧ told.getLast?.getD .readWrite = a) ↔
      ∃ x, (fed o {} lines).device.register? i j = some x ∧ x.access = a) ∧
    (∀ i j k a, (∃ start told, FieldRights o lines i j k start told ∧
        told.getLast?.getD start = a) ↔
      ∃ f, (fed o {} lines).device.field? i j k = some f ∧ f.access = a) ∧
    (∀ i j k f, (fed o {} lines).device.field? i j k = some f → ∀ later,
      (¬ (fed o {} lines).DescribesField i j k ∨
        Throughout o (fun s next => ∀ a, ¬ s.GivesField next i j k a) (fed o {} lines) later) →
      ∃ g, (fed o {} (lines ++ later)).device.field? i j k = some g ∧ g.access = f.access) ∧
    ∀ i j x, (fed o {} lines).device.register? i j = some x →
      ∃ word : Nat, x.writeMask = pure word ∧ ∀ n, word.testBit n = true ↔ n < 32 ∧
        ∃ k f start told, x.fields[k]? = some f ∧ FieldRights o lines i j k start told ∧
          told.getLast?.getD start ≠ .readOnly ∧ f.Takes n := by
  refine ⟨fun i j a => ⟨?_, ?_⟩, fun i j k a => ⟨?_, ?_⟩, ?_, fun i j x => writeMask_of_rights⟩
  · rintro ⟨told, rights, rfl⟩
    exact rights.access
  · rintro ⟨x, known, rfl⟩
    obtain ⟨told, rights⟩ := exists_registerRights lines known
    obtain ⟨y, same, access⟩ := rights.access
    cases known.symm.trans same
    exact ⟨told, rights, access.symm⟩
  · rintro ⟨start, told, rights, rfl⟩
    exact rights.access
  · rintro ⟨f, has, rfl⟩
    obtain ⟨start, told, rights⟩ := exists_fieldRights lines has
    obtain ⟨g, same, access⟩ := rights.access
    cases has.symm.trans same
    exact ⟨start, told, rights, access.symm⟩
  · intro i j k f has later kept
    rw [fed_append]
    obtain closed | silent := kept
    · exact field?_throughout has (silent_of_not_describesField has closed later)
    · exact field?_throughout has silent

-- A field keeps the right that its register had when it was opened, and its own when it has one.
example :
    let x := (fed {} {} ["<peripherals>", "<peripheral>", "<baseAddress>0x0</baseAddress>",
      "<registers>", "<register>", "<access>read-only</access>", "<fields>", "<field>", "</field>",
      "<field>", "<access>Write-Only</access>", "<access>none</access>", "</field>", "</fields>",
      "<access>read-write</access>"]).device.register? 0 0
    x.map Register.access = some .readWrite ∧
      x.map (fun x => x.fields.map Field.access) = some [.readOnly, .writeOnly] := by
  decide +kernel

end Reader

end Document

end RegisterMap
