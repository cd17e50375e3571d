import Mathlib.Data.List.Forall2
import RegisterMap.Zig.Rendering

/-!
The sections of a rendered device. Work on masks may fail, and what it gives may hang on the masks
that are remembered; `Yields` tells what holds of its result whenever there is one. So it is with
rendering: whatever it is that a device is rendered as, the section of a peripheral is the one
remark if its name or its base address is missing, or else it has the sections of its registers, and
that of a register likewise.
-/

set_option autoImplicit false

namespace RegisterMap

/-! ## What work on masks gives -/

/-- Every result of the work is of this kind, whatever masks are remembered. -/
def Yields {α : Type} (post : α → Prop) (work : Masking α) : Prop :=
  ∀ masks result after, work.run.run masks = (.ok result, after) → post result

section

variable {α β : Type} {middle : α → Prop} {post : β → Prop}

theorem yields_pure {b : β} (held : post b) : Yields post (pure b) := by
  intro masks result after same
  cases same
  exact held

theorem Yields.bind {work : Masking α} {next : α → Masking β} (first : Yields middle work)
    (rest : ∀ a, middle a → Yields post (next a)) : Yields post (work >>= next) := by
  intro masks result after same
  rw [ExceptT.run_bind, StateT.run_bind] at same
  rcases made : work.run.run masks with ⟨misfit | a, between⟩
  · rw [made] at same
    cases same
  · rw [made] at same
    exact rest a (first masks a between made) between result after same

theorem yields_any (work : Masking α) : Yields (fun _ => True) work := fun _ _ _ _ => trivial

theorem yields_lift {work : Except Misfit α} (known : ∀ a, work = .ok a → middle a) :
    Yields middle (liftM work : Masking α) := by
  intro masks result after same
  cases work with
  | error misfit => cases same
  | ok a =>
    cases same
    exact known result rfl

theorem yields_mapM {related : α → β → Prop} {f : α → Masking β} {xs : List α}
    (each : ∀ x ∈ xs, Yields (related x) (f x)) :
    Yields (fun ys => List.Forall₂ related xs ys) (xs.mapM f) := by
  induction xs with
  | nil =>
    rw [List.mapM_nil]
    exact yields_pure .nil
  | cons x rest ih =>
    rw [List.mapM_cons]
    refine (each x List.mem_cons_self).bind fun y first => ?_
    refine (ih fun z member => each z (List.mem_cons_of_mem x member)).bind fun ys others => ?_
    exact yields_pure (.cons first others)

theorem exists_of_forall₂ {related : α → β → Prop} {xs : List α} {ys : List β}
    (each : List.Forall₂ related xs ys) {y : β} (member : y ∈ ys) :
    ∃ x ∈ xs, related x y := by
  induction each with
  | nil => cases member
  | cons first rest ih =>
    rcases List.mem_cons.mp member with rfl | later
    · exact ⟨_, List.mem_cons_self, first⟩
    · obtain ⟨x, listed, related⟩ := ih later
      exact ⟨x, List.mem_cons_of_mem _ listed, related⟩

/-- What each result has, all results have. -/
theorem yields_forall_mapM {f : α → Masking β} {xs : List α}
    (each : ∀ x ∈ xs, Yields post (f x)) : Yields (fun ys => ∀ y ∈ ys, post y) (xs.mapM f) := by
  have related : Yields (List.Forall₂ (fun _ => post) xs) (xs.mapM f) := yields_mapM each
  intro masks ys after made y member
  obtain ⟨_, -, held⟩ := exists_of_forall₂ (related masks ys after made) member
  exact held

end

namespace Zig

/-! ## Sections -/

/-- Sections with a blank line in front of each. -/
theorem forall_mem_sections {holds : Declaration → Prop} (blank : holds .blank)
    {sections : List (List Declaration)} (each : ∀ part ∈ sections, ∀ x ∈ part, holds x) :
    ∀ x ∈ sections.flatMap (.blank :: ·), holds x := by
  intro x member
  obtain ⟨part, listed, inside⟩ := List.mem_flatMap.mp member
  cases inside with
  | head => exact blank
  | tail _ later => exact each part listed x later

def unplacedPeripheral : Declaration := .remark "Not enough info to print peripheral value"

def unplacedRegister : Declaration := .remark "Not enough info to print register value"

/-- The name of a register, with that of its peripheral in front. -/
def registerName (x : Register) : Text := joined [x.peripheralName, x.name]

/-- What a register is shown as: a remark, or its address and its reset value in front of more. -/
inductive ShowsRegister (base : Int) (x : Register) : List Declaration → Prop
  | remark (incomplete : x.isComplete = false) : ShowsRegister base x [unplacedRegister]
  | shown {offset reset : Int} {rest : List Declaration} (complete : x.isComplete = true)
      (placed : x.addressOffset.hexForm = .ok offset) (valued : x.resetValue.hexForm = .ok reset) :
      ShowsRegister base x
        (described x.description :: .address (registerName x) base offset ::
          .resetValue (registerName x) ("u" ++ x.size.display) reset :: rest)

/-- What a peripheral is shown as: a remark, or its base address and the sections of its registers.
-/
inductive ShowsPeripheral (p : Peripheral) : List Declaration → Prop
  | remark (incomplete : p.isComplete = false) : ShowsPeripheral p [unplacedPeripheral]
  | shown {base : Int} {registers : List (List Declaration)} (complete : p.isComplete = true)
      (based : p.baseAddress.hexForm = .ok base)
      (each : List.Forall₂ (ShowsRegister base) p.registers registers) :
      ShowsPeripheral p
        (described p.description :: .baseAddress p.name.display base ::
          registers.flatMap (.blank :: ·))

/-- What a device is shown as: its own data, the sections of the selected peripherals, and the
members that come of its interrupts. -/
inductive ShowsDevice (d : Device) (s : Selection) : List Declaration → Prop
  | intro {data : List Declaration} {sections : List (List Declaration)}
      {interrupts : List Interrupt} (own : dataSections d = .ok data)
      (each : List.Forall₂ ShowsPeripheral (d.peripherals.filter s.includes) sections)
      (table : d.interruptTable = .ok interrupts) :
      ShowsDevice d s (data ++ sections.flatMap (.blank :: ·) ++
        [.blank, .struct "interrupts" (interrupts.flatMap ofInterrupt)])

theorem yields_ofRegister (base : Int) (x : Register) :
    Yields (ShowsRegister base x) (ofRegister base x) := by
  unfold ofRegister
  split
  case isTrue complete =>
    refine (yields_any _).bind fun mask _ => ?_
    refine (yields_any _).bind fun access _ => ?_
    refine (yields_lift fun _ known => known).bind fun offset placed => ?_
    refine (yields_lift fun _ known => known).bind fun reset valued => ?_
    refine (yields_any _).bind fun fields _ => yields_pure ?_
    exact .shown complete placed valued
  case isFalse lacking => exact yields_pure (.remark (eq_false_of_ne_true lacking))

theorem yields_ofPeripheral (p : Peripheral) : Yields (ShowsPeripheral p) (ofPeripheral p) := by
  unfold ofPeripheral
  split
  case isTrue complete =>
    refine (yields_lift fun _ known => known).bind fun base based => ?_
    refine (yields_mapM fun x _ => yields_ofRegister base x).bind fun registers each => ?_
    exact yields_pure (.shown complete based each)
  case isFalse lacking => exact yields_pure (.remark (eq_false_of_ne_true lacking))

theorem yields_ofDevice (d : Device) (s : Selection) : Yields (ShowsDevice d s) (ofDevice d s) := by
  unfold ofDevice
  refine (yields_lift fun _ known => known).bind fun data own => ?_
  refine (yields_mapM fun p _ => yields_ofPeripheral p).bind fun sections each => ?_
  refine (yields_lift fun _ known => known).bind fun interrupts table => ?_
  exact yields_pure (.intro own each table)

theorem rendered_iff {d : Device} {s : Selection} {masks : Masks} {lines : List Text} :
    (renderKnowing masks d s).1.result = .ok lines ↔
      (s.check d).result = .ok () ∧ ∃ declarations after,
        (ofDevice d s).run.run masks = (.ok declarations, after) ∧
          lines = declarations.flatMap Declaration.lines := by
  unfold renderKnowing
  cases checked : (s.check d).result with
  | error misfit =>
    simp only [checked]
    exact ⟨nofun, nofun⟩
  | ok =>
    simp only [checked]
    rcases made : (ofDevice d s).run.run masks with ⟨misfit | declarations, after⟩
    · simp only [Except.map]
      refine ⟨nofun, ?_⟩
      rintro ⟨-, _, _, same, -⟩
      cases same
    · simp only [Except.map, Except.ok.injEq]
      constructor
      · rintro rfl
        exact ⟨trivial, declarations, after, rfl, rfl⟩
      · rintro ⟨-, _, _, same, rfl⟩
        cases same
        rfl

/-- Lines that a device is rendered as are those of declarations, and what all possible declarations
of it have, these have. -/
theorem declarations_of_rendered {d : Device} {s : Selection} {masks : Masks} {lines : List Text}
    (rendered : (renderKnowing masks d s).1.result = .ok lines) {post : List Declaration → Prop}
    (yields : Yields post (ofDevice d s)) :
    ∃ declarations, post declarations ∧ lines = declarations.flatMap Declaration.lines := by
  obtain ⟨-, declarations, after, made, rfl⟩ := rendered_iff.mp rendered
  exact ⟨declarations, yields masks declarations after made, rfl⟩

end Zig

end RegisterMap
