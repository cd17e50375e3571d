import RegisterMap.Proofs.Rendering

/-!
Selecting commutes with output. What is rendered or outlined under a selection of peripherals by
names is what comes of the device without its other peripherals, when all of it is selected. So the
other peripherals do not show: changing, adding or removing them changes no output.
-/

set_option autoImplicit false

namespace RegisterMap

/-- The device without the peripherals of other names. -/
def Device.limitedTo (names : List Text) (d : Device) : Device :=
  { d with peripherals := d.peripherals.filter fun p => p.name ∈ names.map Value.text }

/-! ## Selections by texts -/

namespace Selection

theorem includes_all {names : Option (List Text)} (all : names.getD [] = []) (p : Peripheral) :
    (ofTexts names).includes p = true := by
  cases names with
  | none => rfl
  | some texts =>
    cases all
    rfl

theorem includes_texts {names : List Text} (given : names ≠ []) (p : Peripheral) :
    (ofTexts (some names)).includes p = decide (p.name ∈ names.map Value.text) := by
  obtain ⟨s, rest, rfl⟩ := List.exists_cons_of_ne_nil given
  change ((s :: rest).map Value.text).any (fun name => name.alike p.name) = _
  rw [Bool.eq_iff_iff, List.any_eq_true, decide_eq_true_iff]
  constructor
  · rintro ⟨name, listed, same⟩
    obtain ⟨t, -, rfl⟩ := List.mem_map.mp listed
    rwa [(Value.text_alike_iff t p.name).mp same]
  · intro listed
    obtain ⟨t, -, same⟩ := List.mem_map.mp listed
    exact ⟨p.name, listed, same ▸ (Value.text_alike_iff t (.text t)).mpr rfl⟩

theorem filter_all {names : Option (List Text)} (all : names.getD [] = []) (ps : List Peripheral) :
    ps.filter (ofTexts names).includes = ps :=
  List.filter_eq_self.mpr fun p _ => includes_all all p

theorem filter_texts {names : List Text} (given : names ≠ []) (d : Device) :
    d.peripherals.filter (ofTexts (some names)).includes = (d.limitedTo names).peripherals :=
  List.filter_congr fun p _ => includes_texts given p

end Selection

theorem Device.fit_limitedTo {d : Device} (fit : ∀ p ∈ d.peripherals, p.name.isName = true)
    (names : List Text) : ∀ p ∈ (d.limitedTo names).peripherals, p.name.isName = true :=
  fun p listed => fit p (List.mem_filter.mp listed).1

/-- Whether a name is unknown is decided among the peripherals of the names at hand. -/
theorem Device.unknownNames_limitedTo (names : List Text) (d : Device) :
    (d.limitedTo names).unknownNames names = d.unknownNames names := by
  refine List.filter_congr fun s asked => ?_
  rw [decide_eq_decide, not_iff_not]
  constructor
  · intro known
    obtain ⟨p, listed, same⟩ := List.mem_map.mp known
    exact List.mem_map.mpr ⟨p, (List.mem_filter.mp listed).1, same⟩
  · intro known
    obtain ⟨p, listed, same⟩ := List.mem_map.mp known
    have selected : p.name ∈ names.map Value.text := same ▸ List.mem_map_of_mem asked
    exact List.mem_map.mpr ⟨p, List.mem_filter.mpr ⟨listed, decide_eq_true selected⟩, same⟩

/-! ## Names that cannot be looked up -/

theorem mapM_asName_unfit {names : List Value} (unfit : ∃ v ∈ names, v.isName = false) :
    ∃ v ∈ names, v.isName = false ∧ names.mapM Value.asName = .error (.noName v) := by
  induction names with
  | nil =>
    obtain ⟨v, listed, -⟩ := unfit
    cases listed
  | cons v rest ih =>
    rw [List.mapM_cons]
    cases name : v.isName with
    | false => exact ⟨v, List.mem_cons_self, name, by rw [Value.asName, name]; rfl⟩
    | true =>
      have later : ∃ w ∈ rest, w.isName = false := by
        obtain ⟨w, listed, unnamed⟩ := unfit
        rcases List.mem_cons.mp listed with rfl | inside
        · rw [name] at unnamed
          cases unnamed
        · exact ⟨w, inside, unnamed⟩
      obtain ⟨w, listed, unnamed, failed⟩ := ih later
      refine ⟨w, List.mem_cons_of_mem v listed, unnamed, ?_⟩
      rw [Value.asName, name, failed]
      rfl

/-- A peripheral that is named by a list or an object stands against every selection by names, even
by none, and be it selected or not. -/
theorem Device.selection_needs_names {d : Device}
    (unfit : ∃ p ∈ d.peripherals, p.name.isName = false) (names : List Text) :
    ∃ p ∈ d.peripherals, p.name.isName = false ∧
      (∀ masks : Masks, (Zig.renderKnowing masks d (.ofTexts (some names))).1.result =
        .error (.noName p.name)) ∧
      (d.outline (.ofTexts (some names))).result = .error (.noName p.name) := by
  obtain ⟨p, listed, unnamed⟩ := unfit
  obtain ⟨v, inside, unfit, failed⟩ :=
    mapM_asName_unfit ⟨p.name, List.mem_map_of_mem listed, unnamed⟩
  obtain ⟨q, found, rfl⟩ := List.mem_map.mp inside
  have checked : ((Selection.ofTexts (some names)).check d).result = .error (.noName q.name) := by
    change (Selection.checkNames _ >>= _ : Report Unit).result = _
    rw [Report.result_bind, Selection.checkNames, failed]
    rfl
  refine ⟨q, found, unfit, fun masks => ?_, ?_⟩
  · simp only [Zig.renderKnowing, checked]
  · unfold Device.outline
    rw [Report.result_bind, checked]
    rfl

/-! ## Output comes of the selected peripherals -/

section

variable {d : Device} {others : List Peripheral} {s t : Selection}
  (selected : d.peripherals.filter s.includes = others.filter t.includes)

include selected

theorem Zig.ofDevice_eq_of_selected :
    ofDevice d s = ofDevice { d with peripherals := others } t := by
  unfold ofDevice
  rw [selected]
  rfl

theorem Device.outlined_eq_of_selected :
    d.outlined s = outlined { d with peripherals := others } t := by
  unfold outlined
  rw [← List.filter_filter, selected, List.filter_filter]

theorem Zig.renderKnowing_eq_of_selected (checked : (s.check d).result = .ok ())
    (also : (t.check { d with peripherals := others }).result = .ok ()) (masks : Masks) :
    (renderKnowing masks d s).1.result =
        (renderKnowing masks { d with peripherals := others } t).1.result ∧
      (renderKnowing masks d s).2 = (renderKnowing masks { d with peripherals := others } t).2 := by
  simp only [renderKnowing, checked, also, ofDevice_eq_of_selected selected]
  exact ⟨rfl, rfl⟩

theorem Device.outline_eq_of_selected (checked : (s.check d).result = .ok ())
    (also : (t.check { d with peripherals := others }).result = .ok ()) :
    (d.outline s).result = (outline { d with peripherals := others } t).result := by
  rw [outline_result checked, outline_result also, outlined_eq_of_selected selected]
  rfl

/-- If the checks notice the same, then so do the outputs. -/
theorem reports_eq_of_selected (checked : s.check d = t.check { d with peripherals := others }) :
    (∀ masks : Masks, Zig.renderKnowing masks d s =
        Zig.renderKnowing masks { d with peripherals := others } t) ∧
      d.outline s = Device.outline { d with peripherals := others } t := by
  constructor
  · intro masks
    simp only [Zig.renderKnowing, checked, Zig.ofDevice_eq_of_selected selected]
  · unfold Device.outline
    rw [checked, Device.outlined_eq_of_selected selected]
    rfl

end

/-! ## Differences outside a selection -/

/-- The name of the peripheral is none of these. -/
def Peripheral.Outside (names : List Text) (p : Peripheral) : Prop :=
  p.name ∉ names.map Value.text

instance (names : List Text) (p : Peripheral) : Decidable (p.Outside names) :=
  inferInstanceAs (Decidable (p.name ∉ names.map Value.text))

/-- Peripherals that differ only in such as are outside before and after: outside peripherals may
be changed, added and removed, and all others stay as they are and in order. -/
inductive SameWithin (names : List Text) : List Peripheral → List Peripheral → Prop
  | nil : SameWithin names [] []
  | kept (p : Peripheral) {ps qs : List Peripheral} (rest : SameWithin names ps qs) :
    SameWithin names (p :: ps) (p :: qs)
  | changed {p q : Peripheral} {ps qs : List Peripheral} (before : p.Outside names)
    (after : q.Outside names) (rest : SameWithin names ps qs) : SameWithin names (p :: ps) (q :: qs)
  | removed {p : Peripheral} {ps qs : List Peripheral} (before : p.Outside names)
    (rest : SameWithin names ps qs) : SameWithin names (p :: ps) qs
  | added {q : Peripheral} {ps qs : List Peripheral} (after : q.Outside names)
    (rest : SameWithin names ps qs) : SameWithin names ps (q :: qs)

theorem SameWithin.limited {names : List Text} {ps qs : List Peripheral}
    (same : SameWithin names ps qs) :
    (ps.filter fun p => p.name ∈ names.map Value.text) =
      qs.filter fun p => p.name ∈ names.map Value.text := by
  have dropped : ∀ {p : Peripheral} (rest : List Peripheral), p.Outside names →
      ((p :: rest).filter fun p => p.name ∈ names.map Value.text) =
        rest.filter fun p => p.name ∈ names.map Value.text :=
    fun rest outside => List.filter_cons_of_neg (by simpa [Peripheral.Outside] using outside)
  induction same with
  | nil => rfl
  | kept p _ ih => rw [List.filter_cons, List.filter_cons, ih]
  | changed before after _ ih => rw [dropped _ before, dropped _ after, ih]
  | removed before _ ih => rw [dropped _ before, ih]
  | added after _ ih => rw [dropped _ after, ih]

/-- Devices that are equal but for peripherals outside. -/
structure Device.SameWithin (names : List Text) (d e : Device) : Prop where
  own : e = { d with peripherals := e.peripherals }
  peripherals : RegisterMap.SameWithin names d.peripherals e.peripherals

namespace Device

theorem SameWithin.limitedTo {names : List Text} {d e : Device} (same : d.SameWithin names e) :
    e.limitedTo names = d.limitedTo names := by
  rw [same.own]
  unfold Device.limitedTo
  rw [same.peripherals.limited]

theorem SameWithin.check {names : List Text} {d e : Device} (same : d.SameWithin names e)
    (fit : ∀ p ∈ d.peripherals, p.name.isName = true)
    (also : ∀ p ∈ e.peripherals, p.name.isName = true) :
    (Selection.ofTexts (some names)).check d = (Selection.ofTexts (some names)).check e := by
  rw [Selection.check_texts fit, Selection.check_texts also, ← unknownNames_limitedTo names d,
    ← unknownNames_limitedTo names e, same.limitedTo]

/-- A selection by some names gives the declarations and the outline of the device that is limited
to them, or fails as that one does, whatever masks are known before and with the same masks known
afterwards. It gives the same reports for devices that differ only in peripherals of other names,
and no names select as much as none given. Names of peripherals may be repeated and empty; they are
of any kind but lists and objects, which no selection can look up. -/
theorem selection_commutes (d : Device) (fit : ∀ p ∈ d.peripherals, p.name.isName = true) :
    (∀ names : List Text, names ≠ [] →
      (∀ masks : Masks,
        (Zig.renderKnowing masks d (.ofTexts (some names))).1.result =
            (Zig.renderKnowing masks (d.limitedTo names) (.ofTexts none)).1.result ∧
          (Zig.renderKnowing masks d (.ofTexts (some names))).2 =
            (Zig.renderKnowing masks (d.limitedTo names) (.ofTexts none)).2) ∧
      (d.outline (.ofTexts (some names))).result =
        ((d.limitedTo names).outline (.ofTexts none)).result ∧
      ∀ e : Device, (∀ p ∈ e.peripherals, p.name.isName = true) → d.SameWithin names e →
        (∀ masks : Masks, Zig.renderKnowing masks d (.ofTexts (some names)) =
            Zig.renderKnowing masks e (.ofTexts (some names))) ∧
          d.outline (.ofTexts (some names)) = e.outline (.ofTexts (some names))) ∧
    (∀ p, (Selection.ofTexts none).includes p = true ∧
      (Selection.ofTexts (some [])).includes p = true) ∧
    (∀ masks : Masks, Zig.renderKnowing masks d (.ofTexts (some [])) =
      Zig.renderKnowing masks d (.ofTexts none)) ∧
    d.outline (.ofTexts (some [])) = d.outline (.ofTexts none) := by
  refine ⟨fun names given => ?_, fun p => ⟨Selection.includes_all rfl p,
    Selection.includes_all rfl p⟩, ?_⟩
  · have selected : d.peripherals.filter (Selection.ofTexts (some names)).includes =
        (d.limitedTo names).peripherals.filter (Selection.ofTexts none).includes := by
      rw [Selection.filter_texts given, Selection.filter_all rfl]
    have checked := Selection.check_result fit (some names)
    have limited := Selection.check_result (fit_limitedTo fit names) none
    refine ⟨Zig.renderKnowing_eq_of_selected selected checked limited,
      outline_eq_of_selected selected checked limited, fun e also same => ?_⟩
    have shared : d.peripherals.filter (Selection.ofTexts (some names)).includes =
        e.peripherals.filter (Selection.ofTexts (some names)).includes := by
      rw [Selection.filter_texts given, Selection.filter_texts given, same.limitedTo]
    have checks := same.check fit also
    rw [same.own] at checks ⊢
    exact reports_eq_of_selected shared checks
  · have all : d.peripherals.filter (Selection.ofTexts (some [])).includes =
        d.peripherals.filter (Selection.ofTexts none).includes := by
      rw [Selection.filter_all rfl, Selection.filter_all rfl]
    have checks : (Selection.ofTexts (some [])).check d = (Selection.ofTexts none).check d := by
      rw [Selection.check_texts fit]
      rfl
    exact reports_eq_of_selected all checks

/-- Two peripherals of one name, one without a name, and one in between. -/
def repeatedNames : Device where
  peripherals := [{ name := .text "A", baseAddress := .int 16 }, { baseAddress := .int 32 },
    { name := .text "B", baseAddress := .int 48 }, { name := .text "A", baseAddress := .int 64 }]
  interrupts := [(.int 3, { name := .text "I", vector := .int 3 })]

/-- The same device with another peripheral in place of the one in between, and without the one
that has no name. -/
def otherNames : Device :=
  { repeatedNames with
    peripherals := [{ name := .text "A", baseAddress := .int 16 },
      { name := .text "C" }, { name := .text "A", baseAddress := .int 64 }] }

theorem selection_commutes_repeatedNames :
    (∀ p ∈ repeatedNames.peripherals, p.name.isName = true) ∧
      (repeatedNames.limitedTo ["A", "Z"]).peripherals.map Peripheral.baseAddress =
        [.int 16, .int 64] ∧
      (Zig.renderKnowing [] repeatedNames (.ofTexts (some ["A", "Z"]))).1.result =
        (Zig.renderKnowing [] (repeatedNames.limitedTo ["A", "Z"]) (.ofTexts none)).1.result ∧
      (∀ p ∈ otherNames.peripherals, p.name.isName = true) ∧
      repeatedNames.SameWithin ["A", "Z"] otherNames ∧
      repeatedNames.outline (.ofTexts (some ["A", "Z"])) =
        otherNames.outline (.ofTexts (some ["A", "Z"])) := by
  have fit : ∀ p ∈ repeatedNames.peripherals, p.name.isName = true := by decide
  have also : ∀ p ∈ otherNames.peripherals, p.name.isName = true := by decide
  have same : repeatedNames.SameWithin ["A", "Z"] otherNames :=
    ⟨rfl, .kept _ (.removed (by decide) (.changed (by decide) (by decide) (.kept _ .nil)))⟩
  obtain ⟨renders, -, alike⟩ := (selection_commutes repeatedNames fit).1 ["A", "Z"] (by decide)
  exact ⟨fit, by decide, (renders []).1, also, same, (alike otherNames also same).2⟩

end Device

end RegisterMap
