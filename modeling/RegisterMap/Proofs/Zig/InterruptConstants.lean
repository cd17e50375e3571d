import RegisterMap.Proofs.Results
import RegisterMap.Proofs.Zig.Sections

/-!
The table of interrupts in the source. Whatever a device is rendered as, its last declaration is the
only struct of interrupts, and what stands in it beside comments are the constants of the named
entries of the table, in their order.
-/

set_option autoImplicit false

namespace RegisterMap.Zig

/-- Whether a member is a comment; every other one is written as a constant. -/
def Member.isComment : Member → Bool
  | .doc _ => true
  | .string .. | .flag .. | .plain .. => false

/-- Beside comments, what interrupts come to is one constant for each that has a name. -/
theorem constants_ofInterrupt (table : List Interrupt) :
    ((table.flatMap ofInterrupt).filter fun m => !m.isComment).map Member.line =
      (table.filter fun i => !i.name.isNothing).map fun i =>
        constant i.name.display i.vector.display := by
  induction table with
  | nil => rfl
  | cons i rest ih =>
    rw [List.flatMap_cons, List.filter_append, List.map_append, ih]
    unfold ofInterrupt
    cases named : i.name.isNothing with
    | true =>
      rw [List.filter_cons_of_neg (by simp [named])]
      rfl
    | false =>
      rw [List.filter_cons_of_pos (by simp [named])]
      cases i.description.isNothing <;> rfl

/-! ## The one table among the declarations -/

/-- The declaration is a struct with the name of the table of interrupts. -/
def Declaration.IsTable : Declaration → Prop
  | .struct name _ => name = "interrupts"
  | _ => False

/-- No table of interrupts is among the declarations. -/
def NoTable (declarations : List Declaration) : Prop := ∀ x ∈ declarations, ¬ x.IsTable

theorem noTable_append {xs ys : List Declaration} (first : NoTable xs) (second : NoTable ys) :
    NoTable (xs ++ ys) :=
  List.forall_mem_append.mpr ⟨first, second⟩

theorem noTable_remark (comment : String) : NoTable [.remark comment] :=
  List.forall_mem_singleton.mpr id

theorem yields_noTable_ofField (f : Field) : Yields NoTable (ofField f) := by
  unfold ofField
  split
  · exact yields_pure (noTable_remark _)
  split
  · refine (yields_any _).bind fun mask _ => (yields_any _).bind fun valueMask _ => ?_
    exact yields_pure (by simp [NoTable, Declaration.IsTable, described])
  · exact yields_pure (noTable_remark _)

theorem noTable_accessors (name wordType : Text) (access : Access) (mask : Nat) :
    NoTable (accessors name wordType access mask) := by
  cases access <;>
    simp [NoTable, Declaration.IsTable, accessors, Access.writable, Access.readable]

theorem yields_noTable_ofRegister (base : Int) (x : Register) :
    Yields NoTable (ofRegister base x) := by
  unfold ofRegister
  split
  · refine (yields_any _).bind fun mask _ => (yields_any _).bind fun access _ => ?_
    refine (yields_any _).bind fun offset _ => (yields_any _).bind fun reset _ => ?_
    refine (yields_forall_mapM fun f _ => yields_noTable_ofField f).bind fun fields each => ?_
    refine yields_pure (noTable_append (noTable_append ?_ (noTable_accessors _ _ _ _))
      (forall_mem_sections id each))
    simp [NoTable, Declaration.IsTable, described]
  · exact yields_pure (noTable_remark _)

theorem yields_noTable_ofPeripheral (p : Peripheral) : Yields NoTable (ofPeripheral p) := by
  unfold ofPeripheral
  split
  · refine (yields_any _).bind fun base _ => ?_
    refine (yields_forall_mapM fun x _ => yields_noTable_ofRegister base x).bind
      fun registers each => ?_
    refine yields_pure (noTable_append ?_ (forall_mem_sections id each))
    simp [NoTable, Declaration.IsTable, described]
  · exact yields_pure (noTable_remark _)

theorem noTable_plainIfSet (name : Text) (v : Value) : NoTable (plainIfSet name v) := by
  unfold plainIfSet
  split <;> simp [NoTable, Declaration.IsTable]

theorem noTable_ofCpu {c : Cpu} {declarations : List Declaration}
    (ok : ofCpu c = .ok declarations) : NoTable declarations := by
  obtain ⟨name, -, ok⟩ := bind_eq_ok.mp ok
  obtain ⟨revision, -, ok⟩ := bind_eq_ok.mp ok
  obtain ⟨endian, -, ok⟩ := bind_eq_ok.mp ok
  cases ok
  have other : Text.ofString "cpu" ≠ "interrupts" := by decide
  exact List.forall_mem_singleton.mpr other

theorem noTable_dataSections {d : Device} {declarations : List Declaration}
    (ok : dataSections d = .ok declarations) : NoTable declarations := by
  obtain ⟨own, made, ok⟩ := bind_eq_ok.mp ok
  obtain ⟨cpu, processed, ok⟩ := bind_eq_ok.mp ok
  cases ok
  refine noTable_append ?_ (forall_mem_sections id fun part member => ?_)
  · obtain ⟨name, -, made⟩ := bind_eq_ok.mp made
    obtain ⟨version, -, made⟩ := bind_eq_ok.mp made
    obtain ⟨description, -, made⟩ := bind_eq_ok.mp made
    cases made
    refine noTable_append (noTable_append ?_ (noTable_plainIfSet _ _)) (noTable_plainIfSet _ _)
    simp [NoTable, Declaration.IsTable]
  · obtain ⟨c, -, rendered⟩ := mem_of_mapM_eq_ok processed member
    exact noTable_ofCpu rendered

/-- All that a device is rendered as, but for the table of its interrupts. -/
def ofFront (d : Device) (s : Selection) : Masking (List Declaration) := do
  let data ← dataSections d
  let peripherals ← (d.peripherals.filter s.includes).mapM ofPeripheral
  return data ++ peripherals.flatMap (.blank :: ·)

theorem yields_noTable_ofFront (d : Device) (s : Selection) : Yields NoTable (ofFront d s) := by
  refine (yields_lift fun _ ok => noTable_dataSections ok).bind fun data first => ?_
  refine (yields_forall_mapM fun p _ => yields_noTable_ofPeripheral p).bind
    fun peripherals each => ?_
  exact yields_pure (noTable_append first (forall_mem_sections id each))

section

variable {d : Device} {s : Selection} {masks : Masks} {table : List Interrupt}

theorem ofDevice_eq (tabled : d.interruptTable = .ok table) (s : Selection) :
    ofDevice d s = ofFront d s >>= fun front =>
      pure (front ++ [.blank, .struct "interrupts" (table.flatMap ofInterrupt)]) := by
  unfold ofDevice ofFront
  rw [tabled]
  simp only [bind_assoc, pure_bind]
  rfl

theorem rendered_iff_front (tabled : d.interruptTable = .ok table) :
    (∃ lines, (renderKnowing masks d s).1.result = .ok lines) ↔
      (s.check d).result = .ok () ∧
        ∃ front after, (ofFront d s).run.run masks = (.ok front, after) := by
  have runs : ∀ declarations after,
      (ofDevice d s).run.run masks = (.ok declarations, after) ↔
        ∃ front, (ofFront d s).run.run masks = (.ok front, after) ∧
          declarations = front ++ [.blank, .struct "interrupts" (table.flatMap ofInterrupt)] := by
    intro declarations after
    rw [ofDevice_eq tabled, ExceptT.run_bind, StateT.run_bind]
    rcases (ofFront d s).run.run masks with ⟨misfit | front, later⟩
    · exact ⟨nofun, nofun⟩
    · constructor
      · rintro ⟨⟩
        exact ⟨front, rfl, rfl⟩
      · rintro ⟨_, ⟨⟩, rfl⟩
        rfl
  simp only [rendered_iff, runs]
  constructor
  · rintro ⟨_, checked, _, after, ⟨front, made, -⟩, -⟩
    exact ⟨checked, front, after, made⟩
  · rintro ⟨checked, front, after, made⟩
    exact ⟨_, checked, _, after, ⟨front, made, rfl⟩, rfl⟩

/-- The last of the declarations is the one table of interrupts. Beside comments it has a constant
for each named entry, in the order of the entries, and nothing else. -/
def ListsInterrupts (table : List Interrupt) (declarations : List Declaration) : Prop :=
  ∃ (front : List Declaration) (members : List Member),
    declarations = front ++ [.struct "interrupts" members] ∧ NoTable front ∧
    (members.filter fun m => !m.isComment).map Member.line =
      (table.filter fun i => !i.name.isNothing).map fun i =>
        constant i.name.display i.vector.display

theorem yields_listsInterrupts (tabled : d.interruptTable = .ok table) (s : Selection) :
    Yields (ListsInterrupts table) (ofDevice d s) := by
  rw [ofDevice_eq tabled]
  refine (yields_noTable_ofFront d s).bind fun front none => yields_pure ?_
  refine ⟨front ++ [.blank], table.flatMap ofInterrupt, ?_, ?_, constants_ofInterrupt table⟩
  · rw [List.append_assoc]
    rfl
  · exact noTable_append none (List.forall_mem_singleton.mpr id)

end

end RegisterMap.Zig
