import RegisterMap.Proofs.Derivation
import RegisterMap.Proofs.Fitting

/-!
What a segment of lines does to the model. Inside the element of a peripheral the device's own
attributes stay as they are, and interrupts are stored behind those that were there, each of them
one that the segment closes. Outside an interrupt none is pending, and outside a field no enumerated
values are being read, so that a segment leaves nothing half done.
-/

set_option autoImplicit false

namespace RegisterMap.Document.Reader

/-- No interrupt and no enumerated values are left open outside the element they stand in. -/
structure Tidy (r : Reader) : Prop where
  interrupt : r.place ≠ .interrupt → r.interrupt = none
  values : r.place ≠ .field → r.inEnumeratedValues = false

/-- The interrupt that the line closes. -/
def closed? (r : Reader) (line : String) : Option Interrupt :=
  match Tag.ofLine? line with
  | some t =>
    if r.place = .interrupt ∧ t.mark = .closing .interrupt then some (r.interrupt.getD {}) else none
  | none => none

/-- The interrupts that the lines close. -/
def closedInterrupts (o : Settings) : Reader → List String → List Interrupt
  | _, [] => []
  | r, line :: rest => (r.closed? line).toList ++ closedInterrupts o (r.feed o line).reader rest

section

variable {o : Settings} {r next : Reader} {t : Tag} {notices : List Notice}

theorem passage_source {p q : Place} {m : Mark} (passage : Passage p m q) :
    p ≠ .interrupt ∧ p ≠ .field := by
  cases passage <;> exact ⟨nofun, nofun⟩

theorem Effect.tidy (effect : Effect o r t next notices) (tidy : r.Tidy) : next.Tidy := by
  obtain ⟨interrupt, values⟩ := tidy
  cases effect with
  | passed passage =>
    obtain ⟨notInterrupt, notField⟩ := passage_source passage
    exact ⟨fun _ => interrupt notInterrupt, fun _ => values notField⟩
  | cpuOpened here | peripheralOpened here | blockOpened here | blockRepeated here
  | registerOpened here =>
    exact ⟨fun _ => interrupt (here ▸ nofun), fun _ => values (here ▸ nofun)⟩
  | fieldOpened here => exact ⟨fun _ => interrupt (here ▸ nofun), fun _ => values (here ▸ nofun)⟩
  | interruptOpened here => exact ⟨fun out => absurd rfl out, fun _ => values (here ▸ nofun)⟩
  | interruptClosed here => exact ⟨fun _ => rfl, fun _ => values (here ▸ nofun)⟩
  | interruptDescribed here => exact ⟨fun out => absurd here out, values⟩
  | fieldClosed here => exact ⟨fun _ => interrupt (here ▸ nofun), fun _ => rfl⟩
  | valuesOpened here => exact ⟨interrupt, fun out => absurd here out⟩
  | valuesClosed => exact ⟨interrupt, fun _ => rfl⟩
  | _ => exact ⟨interrupt, values⟩

theorem tidy_fed (o : Settings) (lines : List String) : (fed o {} lines).Tidy :=
  fed_induction o {}
    (fun _ line held => feed_keeps (fun _ held => ⟨held.interrupt, held.values⟩)
      (fun _ _ _ _ held ok => (effect_of_read ok).tidy held) line held)
    ⟨fun _ => rfl, fun _ => rfl⟩ lines

/-! ## The device's own attributes -/

/-- Only at the device and at its processor are the device's own attributes described. -/
theorem Effect.own (effect : Effect o r t next notices)
    (elsewhere : r.place ≠ .device ∧ r.place ≠ .cpu) :
    next.device = { r.device with
      peripherals := next.device.peripherals
      interrupts := next.device.interrupts } := by
  cases effect with
  | deviceDescribed here | cpuOpened here => exact absurd here elsewhere.1
  | cpuDescribed here => exact absurd here elsewhere.2
  | @interruptClosed i =>
    obtain ⟨entries, added⟩ := r.device.addInterrupt_eq i
    rw [added]
  | _ => rfl

theorem own_feed (elsewhere : r.place ≠ .device ∧ r.place ≠ .cpu) (line : String) :
    (r.feed o line).reader.device = { r.device with
      peripherals := (r.feed o line).reader.device.peripherals
      interrupts := (r.feed o line).reader.device.interrupts } :=
  feed_cases
    (motive := fun step => step.reader.device = { r.device with
      peripherals := step.reader.device.peripherals
      interrupts := step.reader.device.interrupts })
    line (fun _ => rfl) (fun _ _ _ _ ok => (effect_of_read ok).own elsewhere) fun _ _ _ _ => rfl

theorem own_fed {body : List String} (inside : Inside o r body) :
    (fed o r body).device = { r.device with
      peripherals := (fed o r body).device.peripherals
      interrupts := (fed o r body).device.interrupts } := by
  induction body generalizing r with
  | nil => rfl
  | cons line rest ih =>
    obtain ⟨here, inside⟩ := inside
    have elsewhere : r.place ≠ .device ∧ r.place ≠ .cpu := by
      constructor <;> intro same <;> rw [same] at here <;> exact absurd here nofun
    rw [fed_cons, ih inside, own_feed elsewhere line]

/-! ## Interrupts -/

/-- What is stored is among the closed interrupts, under its own vector. -/
def StoredFrom (closed : List Interrupt) (entries : List (Value × Interrupt)) : Prop :=
  ∀ entry ∈ entries, ∃ i ∈ closed, entry = (i.vector, i) ∧ i.vector ≠ .null

theorem storedFrom_nil (closed : List Interrupt) : StoredFrom closed [] := by simp [StoredFrom]

theorem stored_feed (line : String) :
    ∃ entries, (r.feed o line).reader.device.interrupts = r.device.interrupts ++ entries ∧
      StoredFrom (r.closed? line).toList entries := by
  refine feed_cases
    (motive := fun step => ∃ entries,
      step.reader.device.interrupts = r.device.interrupts ++ entries ∧
        StoredFrom (r.closed? line).toList entries)
    line (fun _ => ⟨[], (List.append_nil _).symm, storedFrom_nil _⟩) ?_
    (fun _ _ _ _ => ⟨[], (List.append_nil _).symm, storedFrom_nil _⟩)
  intro t next notices tagged ok
  obtain same | ⟨i, here, mark, pending, admitted, stored⟩ := (effect_of_read ok).interrupts
  · exact ⟨[], by rw [same, List.append_nil], storedFrom_nil _⟩
  · refine ⟨[(i.vector, i)], by rw [stored], ?_⟩
    rintro entry member
    refine ⟨i, ?_, List.mem_singleton.mp member, ?_⟩
    · have closes : r.closed? line = some i := by
        rw [closed?, tagged, pending]
        exact if_pos ⟨here, mark⟩
      rw [closes]
      exact List.mem_singleton.mpr rfl
    · intro null
      rw [Device.admits, null] at admitted
      cases admitted

/-- A run stores interrupts behind those that were there, each of them one that it closes. -/
theorem stored_fed (lines : List String) :
    ∃ entries, (fed o r lines).device.interrupts = r.device.interrupts ++ entries ∧
      StoredFrom (closedInterrupts o r lines) entries := by
  induction lines generalizing r with
  | nil => exact ⟨[], (List.append_nil _).symm, storedFrom_nil _⟩
  | cons line rest ih =>
    obtain ⟨first, step, fromLine⟩ := stored_feed (o := o) (r := r) line
    obtain ⟨later, run, fromRest⟩ := @ih (r.feed o line).reader
    refine ⟨first ++ later, by rw [fed_cons, run, step, List.append_assoc], ?_⟩
    intro entry member
    rcases List.mem_append.mp member with early | late
    · obtain ⟨i, closed, same⟩ := fromLine entry early
      exact ⟨i, List.mem_append_left _ closed, same⟩
    · obtain ⟨i, closed, same⟩ := fromRest entry late
      exact ⟨i, List.mem_append_right _ closed, same⟩

theorem mem_closedInterrupts {before : List String} {line : String} (after : List String)
    (here : (fed o r before).place = .interrupt) (tagged : Tag.ofLine? line = some t)
    (mark : t.mark = .closing .interrupt) :
    (fed o r before).interrupt.getD {} ∈ closedInterrupts o r (before ++ line :: after) := by
  induction before generalizing r with
  | nil =>
    have closes : r.closed? line = some (r.interrupt.getD {}) := by
      rw [closed?, tagged]
      exact if_pos ⟨here, mark⟩
    rw [List.nil_append, closedInterrupts, closes]
    exact List.mem_append_left _ (List.mem_singleton.mpr rfl)
  | cons first rest ih => exact List.mem_append_right _ (ih here)

theorem fits_closedInterrupts {lines : List String} (fits : r.InterruptsFit) :
    ∀ i ∈ closedInterrupts o r lines, i.Fits := by
  induction lines generalizing r with
  | nil => exact nofun
  | cons line rest ih =>
    intro i member
    rcases List.mem_append.mp member with closed | later
    · have closes := Option.mem_toList.mp closed
      unfold closed? at closes
      split at closes
      case h_2 => cases closes
      split at closes
      case isFalse => cases closes
      cases closes
      exact fits.current
    · exact ih (interruptsFit_feed line fits) i later

end

end RegisterMap.Document.Reader
