import RegisterMap.Proofs.AnySettings
import RegisterMap.Proofs.InterruptTable
import RegisterMap.Proofs.Reader.Segment
import RegisterMap.Proofs.Zig.InterruptConstants

/-!
Of the interrupts with one vector number the first counts. It is stored under its number when it is
closed, or added, and stays as it is; the others of its number, and those without a number, are
dropped. The table lists what is stored by ascending number, and rendering shows a constant for each
named entry of the table.
-/

set_option autoImplicit false

namespace RegisterMap

namespace Members

variable {κ α : Type} (same : κ → κ → Bool) (name : κ)

theorem get?_append (first second : List (κ × α)) :
    get? same name (first ++ second) = (get? same name first).or (get? same name second) := by
  induction first with
  | nil => rfl
  | cons entry rest ih =>
    simp only [List.cons_append, get?]
    split
    · rfl
    · exact ih

theorem isSome_get? (members : List (κ × α)) :
    (get? same name members).isSome = members.any fun entry => same entry.1 name := by
  induction members with
  | nil => rfl
  | cons entry rest ih =>
    rw [get?, List.any_cons, ← ih]
    cases same entry.1 name <;> rfl

end Members

/-- The interrupt that is stored under a vector number. -/
def Device.stored? (d : Device) (n : Int) : Option Interrupt :=
  Members.get? Value.alike (.int n) d.interrupts

/-- The first of some interrupts that has the vector number. -/
def Interrupt.first? (given : List Interrupt) (n : Int) : Option Interrupt :=
  given.find? fun i => i.vector = .int n

/-- The vector is a whole number or not set. -/
def Interrupt.IsNumbered (i : Interrupt) : Prop := i.vector = .null ∨ ∃ n : Int, i.vector = .int n

/-- Of the given interrupts the device stores the first of each vector number. -/
structure Device.StoresFirst (d : Device) (given : List Interrupt) : Prop where
  listed : Interrupt.Listed d.interrupts
  first : ∀ n : Int, d.stored? n = Interrupt.first? given n

namespace Device

variable {d e : Device} {given : List Interrupt} {i : Interrupt}

/-! ## Adding interrupts -/

theorem isSome_stored? (d : Device) (n : Int) : (d.stored? n).isSome = d.hasVector (.int n) :=
  Members.isSome_get? ..

theorem storesFirst_nil (none : d.interrupts = []) : d.StoresFirst [] := by
  refine ⟨?_, fun n => ?_⟩
  · rw [none]
    exact Interrupt.stored_nil.listed
  · unfold stored?
    rw [none]
    rfl

theorem StoresFirst.of_interrupts (stores : d.StoresFirst given)
    (same : e.interrupts = d.interrupts) : e.StoresFirst given := by
  obtain ⟨listed, first⟩ := stores
  unfold stored? at first
  rw [← same] at listed first
  exact ⟨listed, first⟩

/-- One more interrupt is stored if it is the first of its number, and dropped if it is not. -/
theorem StoresFirst.add (stores : d.StoresFirst given) (numbered : i.IsNumbered) :
    (d.addInterrupt i).StoresFirst (given ++ [i]) := by
  have found : ∀ m, Interrupt.first? (given ++ [i]) m =
      (d.stored? m).or (if i.vector = .int m then some i else none) := by
    intro m
    rw [stores.first, Interrupt.first?, List.find?_append]
    by_cases same : i.vector = .int m <;> simp [same, Interrupt.first?]
  unfold addInterrupt
  split
  case isTrue admitted =>
    have set : i.vector ≠ .null := by
      intro null
      rw [admits, null] at admitted
      cases admitted
    obtain ⟨n, number⟩ := numbered.resolve_left set
    refine ⟨stores.listed.append number admitted, fun m => ?_⟩
    rw [found, stored?, Members.get?_append]
    congr 1
    simp [Members.get?, number]
  case isFalse refused =>
    refine ⟨stores.listed, fun m => ?_⟩
    rw [found]
    by_cases same : i.vector = .int m
    · -- The number is taken, and what has taken it comes first.
      have taken : (d.stored? m).isSome = true := by
        rw [isSome_stored?]
        by_contra free
        apply refused
        rw [admits, same, eq_false_of_ne_true free]
        rfl
      rw [Option.or_of_isSome taken]
    · rw [if_neg same, Option.or_none]

theorem insertInterrupt_eq_ok (ok : d.insertInterrupt i = .ok e) : e = d.addInterrupt i := by
  unfold insertInterrupt at ok
  cases named : i.vector.asName with
  | error misfit =>
    rw [named] at ok
    cases ok
  | ok v =>
    rw [named] at ok
    cases ok
    rfl

theorem insertInterrupt_of_numbered (numbered : i.IsNumbered) :
    d.insertInterrupt i = .ok (d.addInterrupt i) := by
  unfold insertInterrupt
  obtain null | ⟨n, number⟩ := numbered
  · rw [null]
    rfl
  · rw [number]
    rfl

/-- Interrupts that are inserted come behind those that were there, and change nothing else. -/
theorem insertInterrupts_eq (later : List Interrupt)
    (ok : later.foldlM insertInterrupt d = .ok e) :
    ∃ entries, e = { d with interrupts := d.interrupts ++ entries } := by
  induction later generalizing d with
  | nil =>
    cases ok
    exact ⟨[], by rw [List.append_nil]⟩
  | cons i rest ih =>
    rw [List.foldlM_cons] at ok
    cases inserted : d.insertInterrupt i with
    | error misfit =>
      rw [inserted] at ok
      cases ok
    | ok next =>
      rw [inserted] at ok
      obtain ⟨others, rfl⟩ := ih ok
      obtain ⟨entries, added⟩ := d.addInterrupt_eq i
      rw [insertInterrupt_eq_ok inserted, added]
      exact ⟨entries ++ others, by simp only [List.append_assoc]⟩

theorem StoresFirst.insert (later : List Interrupt) (stores : d.StoresFirst given)
    (numbered : ∀ i ∈ later, i.IsNumbered) :
    ∃ e, later.foldlM insertInterrupt d = .ok e ∧ e.StoresFirst (given ++ later) := by
  induction later generalizing d given with
  | nil => exact ⟨d, rfl, by rwa [List.append_nil]⟩
  | cons i rest ih =>
    obtain ⟨first, others⟩ := List.forall_mem_cons.mp numbered
    obtain ⟨e, inserted, final⟩ := ih (stores.add first) others
    refine ⟨e, ?_, by rwa [List.append_assoc] at final⟩
    rw [List.foldlM_cons, insertInterrupt_of_numbered first]
    exact inserted

end Device

/-! ## Reading interrupts -/

namespace Document.Reader

variable {o : Settings} {r : Reader} {line : String}

theorem closed?_eq_some {i : Interrupt} (closes : r.closed? line = some i) :
    ∃ t, Tag.ofLine? line = some t ∧ r.place = .interrupt ∧ t.mark = .closing .interrupt ∧
      i = r.interrupt.getD {} := by
  unfold closed? at closes
  split at closes
  case h_2 => cases closes
  case h_1 t tagged =>
    split at closes
    case isFalse => cases closes
    case isTrue place =>
      cases closes
      exact ⟨t, tagged, place.1, place.2, rfl⟩

/-- A line adds the interrupt that it closes. -/
theorem interrupts_feed (o : Settings) (r : Reader) (line : String) :
    (r.feed o line).reader.device.interrupts =
      ((r.closed? line).toList.foldl Device.addInterrupt r.device).interrupts := by
  cases closes : r.closed? line with
  | some i =>
    obtain ⟨t, tagged, here, mark, rfl⟩ := closed?_eq_some closes
    rw [feed_of_tag tagged, read, here]
    simp only [inInterrupt, mark]
    rfl
  | none =>
    refine feed_cases
      (motive := fun step => step.reader.device.interrupts = r.device.interrupts)
      line (fun _ => rfl) ?_ (fun _ _ _ _ => rfl)
    intro t next notices tagged ok
    obtain same | ⟨i, here, mark, -⟩ := (effect_of_read ok).interrupts
    · exact same
    · rw [closed?, tagged] at closes
      have some := (if_pos ⟨here, mark⟩).symm.trans closes
      cases some

theorem InterruptsFit.closed_numbered (fits : r.InterruptsFit) {i : Interrupt}
    (closes : r.closed? line = some i) : i.IsNumbered := by
  obtain ⟨-, -, -, -, rfl⟩ := closed?_eq_some closes
  obtain null | ⟨n, -, number⟩ := fits.current.vector
  · exact .inl null
  · exact .inr ⟨n, number⟩

theorem storesFirst_feed {given : List Interrupt} (stores : r.device.StoresFirst given)
    (fits : r.InterruptsFit) (line : String) :
    (r.feed o line).reader.device.StoresFirst (given ++ (r.closed? line).toList) := by
  have interrupts := interrupts_feed o r line
  cases closes : r.closed? line with
  | none =>
    rw [closes] at interrupts
    rw [Option.toList_none, List.append_nil]
    exact stores.of_interrupts interrupts
  | some i =>
    rw [closes] at interrupts
    exact (stores.add (fits.closed_numbered closes)).of_interrupts interrupts

theorem storesFirst_fed {given : List Interrupt} (stores : r.device.StoresFirst given)
    (fits : r.InterruptsFit) (lines : List String) :
    (fed o r lines).device.StoresFirst (given ++ closedInterrupts o r lines) := by
  induction lines generalizing r given with
  | nil => rwa [closedInterrupts, List.append_nil]
  | cons line rest ih =>
    rw [closedInterrupts, ← List.append_assoc]
    exact ih (storesFirst_feed stores fits line) (interruptsFit_feed line fits)

end Document.Reader

/-! ## The table -/

/-- The table lists what is stored, each interrupt once, by ascending vector number. -/
theorem Interrupt.Listed.table {d : Device} (listed : Interrupt.Listed d.interrupts) :
    ∃ (table : List Interrupt) (numbers : List Int), d.interruptTable = .ok table ∧
      table.Perm (d.interrupts.map Prod.snd) ∧
      table.map Interrupt.vector = numbers.map Value.int ∧ numbers.Pairwise (· < ·) := by
  have perm := sortedInterrupts_perm d.interrupts
  have sorted : Interrupt.Listed (sortedInterrupts d.interrupts) := listed.of_perm perm.symm
  refine ⟨_, (sortedInterrupts d.interrupts).map number, interruptTable_eq listed,
    perm.map Prod.snd, ?_, ?_⟩
  · rw [List.map_map, List.map_map]
    refine List.map_congr_left fun entry member => ?_
    exact (sorted.own entry member).symm.trans (sorted.key_eq member)
  · rw [List.pairwise_map]
    have apart := List.pairwise_map.mp sorted.distinct
    refine ((sortedInterrupts_pairwise d.interrupts).and apart).imp_of_mem ?_
    rintro a b first second ⟨ordered, differ⟩
    refine lt_of_le_of_ne ordered fun same => differ ?_
    rw [sorted.key_eq first, sorted.key_eq second, same]

/-! ## Devices with interrupts -/

/-- Of the given interrupts the device has the first of each vector number, under this number. Its
table has each of them once, by ascending number, and whatever the device is rendered as, the lines
are those of declarations that list the table. -/
structure Device.KeepsFirst (d : Device) (given : List Interrupt) : Prop where
  own : ∀ entry ∈ d.interrupts, entry.1 = entry.2.vector
  first : ∀ n : Int, d.stored? n = Interrupt.first? given n
  table : ∃ (table : List Interrupt) (numbers : List Int), d.interruptTable = .ok table ∧
    table.Perm (d.interrupts.map Prod.snd) ∧
    table.map Interrupt.vector = numbers.map Value.int ∧ numbers.Pairwise (· < ·) ∧
    ∀ masks s lines, (Zig.renderKnowing masks d s).1.result = .ok lines →
      ∃ declarations after, (Zig.ofDevice d s).run.run masks = (.ok declarations, after) ∧
        lines = declarations.flatMap Zig.Declaration.lines ∧
        Zig.ListsInterrupts table declarations

theorem Device.StoresFirst.keepsFirst {d : Device} {given : List Interrupt}
    (stores : d.StoresFirst given) : d.KeepsFirst given := by
  obtain ⟨table, numbers, tabled, perm, vectors, ascending⟩ := stores.listed.table
  refine ⟨stores.listed.own, stores.first, table, numbers, tabled, perm, vectors, ascending, ?_⟩
  intro masks s lines rendered
  obtain ⟨-, declarations, after, made, rfl⟩ := Zig.rendered_iff.mp rendered
  have lists := Zig.yields_listsInterrupts tabled s masks declarations after made
  exact ⟨declarations, after, made, rfl, lists⟩

/-- Interrupts that are inserted do not keep a device from being rendered. -/
theorem rendered_of_inserted {d e : Device} {given later : List Interrupt} {masks : Masks}
    {s : Selection} (stores : d.StoresFirst given) (again : e.StoresFirst (given ++ later))
    (inserted : later.foldlM Device.insertInterrupt d = .ok e)
    (rendered : ∃ lines, (Zig.renderKnowing masks d s).1.result = .ok lines) :
    ∃ lines, (Zig.renderKnowing masks e s).1.result = .ok lines := by
  obtain ⟨_, _, before, -⟩ := stores.listed.table
  obtain ⟨_, _, after, -⟩ := again.listed.table
  obtain ⟨entries, rfl⟩ := Device.insertInterrupts_eq later inserted
  exact (Zig.rendered_iff_front after).mpr ((Zig.rendered_iff_front before).mp rendered)

open Document (Settings read)

open Document.Reader (fed closedInterrupts)

/-- The first interrupt of each vector number is kept, be it that interrupts are read or that they
are inserted one after the other, and later ones take nothing away. -/
theorem first_interrupt_is_kept :
    (∀ (o : Settings) (lines : List String),
      (fed o {} lines).device.KeepsFirst (closedInterrupts o {} lines) ∧
        (∀ later, (fed o {} lines).device.interrupts <+:
          (fed o {} (lines ++ later)).device.interrupts) ∧
        ∀ n, o.resetValue.whole? = some n → ∀ names masks,
          ∃ out, (Zig.renderKnowing masks (fed o {} lines).device (.ofTexts names)).1.result =
            .ok out) ∧
      ∀ (d : Device) (given : List Interrupt), d.interrupts = [] →
        (∀ i ∈ given, i.IsNumbered) →
        ∃ e, given.foldlM Device.insertInterrupt d = .ok e ∧ e.KeepsFirst given ∧
          (∀ (later : List Interrupt) f, later.foldlM Device.insertInterrupt e = .ok f →
            e.interrupts <+: f.interrupts) ∧
          ∀ masks s, (∃ out, (Zig.renderKnowing masks d s).1.result = .ok out) →
            ∃ out, (Zig.renderKnowing masks e s).1.result = .ok out := by
  constructor
  · intro o lines
    have stores := Document.Reader.storesFirst_fed (r := {}) (Device.storesFirst_nil rfl)
      ⟨Interrupt.stored_nil, nofun⟩ (o := o) lines
    rw [List.nil_append] at stores
    refine ⟨stores.keepsFirst, fun later => ?_, fun n whole names masks => ?_⟩
    · obtain ⟨entries, behind, -⟩ :=
        Document.Reader.stored_fed (o := o) (r := fed o {} lines) later
      rw [Document.Reader.fed_append, behind]
      exact List.prefix_append ..
    · exact Zig.rendered_of_whole whole (Document.Reader.fitsUnder_fed o lines) names masks
  · intro d given none numbered
    have start := Device.storesFirst_nil none
    obtain ⟨e, inserted, stores⟩ := start.insert given numbered
    refine ⟨e, inserted, stores.keepsFirst, fun later f more => ?_, fun masks s rendered => ?_⟩
    · obtain ⟨entries, rfl⟩ := Device.insertInterrupts_eq later more
      exact List.prefix_append ..
    · exact rendered_of_inserted start stores inserted rendered

/-- Two interrupts of one number, one without a number, and one that comes last and is listed first.
-/
def clashingInterrupts : List Interrupt :=
  [{ name := .ofString "TIM2", vector := .int 28 }, { name := .ofString "LOST" },
    { name := .ofString "TIM9", vector := .int 28 }, { name := .ofString "WWDG", vector := .int 0 }]

theorem first_interrupt_is_kept_clashing :
    (fed {} {} ["<name>A</name>"]).device.KeepsFirst [] ∧
      (∀ i ∈ clashingInterrupts, i.IsNumbered) ∧
      ∃ e, clashingInterrupts.foldlM Device.insertInterrupt {} = .ok e ∧
        e.KeepsFirst clashingInterrupts ∧
        e.stored? 28 = some { name := .ofString "TIM2", vector := .int 28 } ∧
        (∀ f, [Interrupt.mk (.text []) (.text []) (.int 28)].foldlM Device.insertInterrupt e =
          .ok f → e.interrupts <+: f.interrupts) ∧
        ∃ out, (Zig.renderKnowing [] e {}).1.result = .ok out := by
  obtain ⟨reads, inserts⟩ := first_interrupt_is_kept
  have numbered : ∀ i ∈ clashingInterrupts, i.IsNumbered := by
    intro i member
    simp only [clashingInterrupts, List.mem_cons, List.not_mem_nil, or_false] at member
    rcases member with rfl | rfl | rfl | rfl
    · exact .inr ⟨28, rfl⟩
    · exact .inl rfl
    · exact .inr ⟨28, rfl⟩
    · exact .inr ⟨0, rfl⟩
  obtain ⟨e, inserted, keeps, stays, renders⟩ := inserts {} clashingInterrupts rfl numbered
  refine ⟨(reads {} ["<name>A</name>"]).1, numbered, e, inserted, keeps, ?_, fun f => stays _ f,
    renders [] {} ⟨_, rfl⟩⟩
  rw [keeps.first]
  rfl

end RegisterMap
