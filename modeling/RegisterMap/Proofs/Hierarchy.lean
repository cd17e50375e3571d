import RegisterMap.Proofs.Frozen
import RegisterMap.Proofs.Reader.Segment

/-!
The way of the reader through the hierarchy. Every place but the first and the last is a part of
another one, and a line leads at most from a place to one of its parts, or back, or out of the
whole device. Each such move is noticed, so that the notices of a run tell its way; and since
peripherals and registers are begun by moves only, they tell how many of them there are.
-/

set_option autoImplicit false

namespace RegisterMap

namespace Document

namespace Place

/-- The place that this one is a part of. -/
def whole? : Place → Option Place
  | .cpu | .peripherals => some .device
  | .peripheral => some .peripherals
  | .addressBlock | .interrupt | .registers => some .peripheral
  | .register => some .registers
  | .fields => some .register
  | .field => some .fields
  | .device | .finished => none

/-- A single move leads to a part, back to the whole, or out of the device for good. -/
def LeadsTo (source target : Place) : Prop :=
  target.whole? = some source ∨ source.whole? = some target ∨
    (source = .device ∧ target = .finished)

instance (source target : Place) : Decidable (source.LeadsTo target) :=
  inferInstanceAs (Decidable (_ ∨ _ ∨ _))

/-- From one place to another by moves that follow each other. -/
inductive Walk : Place → List (Place × Place) → Place → Prop
  | stay (p : Place) : Walk p [] p
  | move {source next target : Place} {rest : List (Place × Place)}
      (leads : source.LeadsTo next) (walk : Walk next rest target) :
      Walk source ((source, next) :: rest) target

/-- Nothing leads away from the end. -/
theorem not_finished_leadsTo (target : Place) : ¬ Place.finished.LeadsTo target := by
  cases target <;> decide

theorem Walk.of_finished {target : Place} {moves : List (Place × Place)}
    (walk : Walk .finished moves target) : target = .finished := by
  cases walk with
  | stay => rfl
  | move leads => exact absurd leads (not_finished_leadsTo _)

theorem Walk.append {p q s : Place} {first second : List (Place × Place)}
    (walk : Walk p first q) (further : Walk q second s) : Walk p (first ++ second) s := by
  induction walk with
  | stay => exact further
  | move leads _ ih => exact .move leads (ih further)

end Place

/-- The moves that begin a peripheral and a register. -/
def peripheralBegun : Place × Place := (.peripherals, .peripheral)

def registerBegun : Place × Place := (.registers, .register)

end Document

open Document

/-- The move that a notice tells of. -/
def Notice.move? : Notice → Option (Place × Place)
  | .moved _ source target => some (source, target)
  | _ => none

def Notice.moves (notices : List Notice) : List (Place × Place) := notices.filterMap Notice.move?

theorem Notice.moves_filter (notices : List Notice) :
    moves (notices.filter Notice.isMove) = moves notices := by
  rw [moves, List.filterMap_filter, moves]
  congr 1
  funext notice
  cases notice <;> rfl

namespace Document

namespace Reader

/-- The moves that are noticed in a run. -/
def moves (o : Settings) (r : Reader) (lines : List String) : List (Place × Place) :=
  (trace o r lines).flatMap fun told => Notice.moves told.2.1

section

variable {o : Settings} {r next : Reader} {t : Tag} {notices : List Notice}

@[simp] theorem moves_nil : moves o r [] = [] := rfl

@[simp] theorem moves_cons (line : String) (rest : List String) :
    moves o r (line :: rest) =
      Notice.moves (r.feed o line).notices ++ moves o (r.feed o line).reader rest := rfl

theorem moves_append (first second : List String) :
    moves o r (first ++ second) = moves o r first ++ moves o (fed o r first) second := by
  induction first generalizing r with
  | nil => rfl
  | cons line rest ih => simp [ih]

/-! ## Single lines -/

theorem passage_leadsTo {source target : Place} {m : Mark} (passage : Passage source m target) :
    source.LeadsTo target := by
  cases passage <;> decide

/-- A passage begins neither a peripheral nor a register. -/
theorem passage_begins {source target : Place} {m : Mark} (passage : Passage source m target) :
    (source, target) ≠ peripheralBegun ∧ (source, target) ≠ registerBegun := by
  cases passage <;> decide

theorem Effect.leadsTo (effect : Effect o r t next notices) :
    next.place = r.place ∨ r.place.LeadsTo next.place := by
  cases effect with
  | passed passage => exact .inr (passage_leadsTo passage)
  | cpuOpened here | peripheralOpened here | blockOpened here | blockRepeated here
  | interruptOpened here | registerOpened here | fieldOpened here =>
    rw [here]
    exact .inr (.inl rfl)
  | interruptClosed here | fieldClosed here =>
    rw [here]
    exact .inr (.inr (.inl rfl))
  | _ => exact .inl rfl

theorem feed_leadsTo (line : String) :
    (r.feed o line).reader.place = r.place ∨ r.place.LeadsTo (r.feed o line).reader.place :=
  feed_cases
    (motive := fun step => step.reader.place = r.place ∨ r.place.LeadsTo step.reader.place)
    line (fun _ => .inl rfl) (fun _ _ _ _ ok => (effect_of_read ok).leadsTo) fun _ _ _ _ => .inl rfl

/-- A line is noticed to move just if it does. -/
theorem moves_feed (line : String) :
    Notice.moves (r.feed o line).notices =
      if (r.feed o line).reader.place = r.place then []
      else [(r.place, (r.feed o line).reader.place)] := by
  rw [← Notice.moves_filter, feed_moves]
  split <;> rfl

/-- What a line makes of the peripherals shows in its moves: it begins one, or it changes the last
one and adds a register to it for each move that begins one. -/
inductive Tally (r : Reader) (t : Tag) (moves : List (Place × Place)) : List Peripheral → Prop
  | begun {p : Peripheral} (here : r.place = .peripherals) (mark : t.mark = .opening .peripheral)
      (origin : r.Origin t p) (only : moves = [peripheralBegun]) :
      Tally r t moves (r.device.peripherals ++ [p])
  | changed {f : Peripheral → Peripheral}
      (counts : ∀ p, (f p).registers.length = p.registers.length + moves.count registerBegun)
      (none : moves.count peripheralBegun = 0) : Tally r t moves (changeLast f r.device.peripherals)

/-- What is said of the last peripheral is not said if it stays as it is. -/
theorem Tally.unchanged {moves : List (Place × Place)}
    (noPeripheral : moves.count peripheralBegun = 0)
    (noRegister : moves.count registerBegun = 0) : Tally r t moves r.device.peripherals := by
  have tally : Tally r t moves (changeLast id r.device.peripherals) :=
    .changed (fun p => by rw [noRegister]; rfl) noPeripheral
  rwa [changeLast_id] at tally

theorem Effect.tally (effect : Effect o r t next notices) :
    Tally r t (Notice.moves notices) next.device.peripherals := by
  cases effect with
  | passed passage =>
    obtain ⟨noPeripheral, noRegister⟩ := passage_begins passage
    refine .unchanged ?_ ?_
    · exact List.count_singleton.trans (if_neg (by simpa using noPeripheral))
    · exact List.count_singleton.trans (if_neg (by simpa using noRegister))
  | @peripheralOpened p here mark origin => exact .begun here mark origin rfl
  | registerOpened =>
    refine .changed (fun p => ?_) rfl
    exact List.length_append
  | @deviceDescribed _ _ change here _ known =>
    have same : (change r.device).peripherals = r.device.peripherals :=
      (deviceAttribute_keeps known r.device).1
    change Tally r t _ (change r.device).peripherals
    rw [same]
    exact .unchanged rfl rfl
  | @peripheralDescribed _ _ change here _ known =>
    refine .changed (fun p => ?_) rfl
    obtain ⟨-, rfl⟩ | kept := peripheralAttribute_cases known
    · exact List.length_map ..
    · rw [(kept p).2.1]
      rfl
  | blockOpened | blockDescribed => exact .changed (fun p => rfl) rfl
  | registerDescribed | fieldOpened | fieldDescribed =>
    exact .changed (fun p => length_changeLast ..) rfl
  | @interruptClosed i =>
    change Tally r t _ (r.device.addInterrupt i).peripherals
    rw [r.device.addInterrupt_peripherals]
    cases r.device.admits i
    · exact .unchanged rfl rfl
    · exact .unchanged rfl rfl
  | _ => exact .unchanged rfl rfl

theorem Tally.of_counted {n : Nat} {moves : List (Place × Place)} {after : List Peripheral}
    (tally : Tally { r with line := n } t moves after) : Tally r t moves after := by
  cases tally with
  | begun here mark origin only =>
    refine .begun here mark ?_ only
    cases origin with
    | plain underived => exact .plain underived
    | derived derived found => exact .derived derived found
  | changed counts none => exact .changed counts none

/-- The line begins a peripheral, as what `base` is. -/
structure Begins (r : Reader) (line : String) (step : Step) (base : Peripheral) : Prop where
  here : r.place = .peripherals
  origin : ∃ t, Tag.ofLine? line = some t ∧ t.mark = .opening .peripheral ∧ r.Origin t base
  moves : Notice.moves step.notices = [peripheralBegun]
  added : step.reader.device.peripherals = r.device.peripherals ++ [base]

/-- The line changes the last peripheral by `f`, which adds a register to it for each move that
begins one. -/
structure Changes (r : Reader) (step : Step) (f : Peripheral → Peripheral) : Prop where
  none : (Notice.moves step.notices).count peripheralBegun = 0
  counts : ∀ p, (f p).registers.length =
    p.registers.length + (Notice.moves step.notices).count registerBegun
  changed : step.reader.device.peripherals = changeLast f r.device.peripherals

/-- A line that holds no tag, or cannot be read, changes nothing and is not noticed to move. -/
theorem changes_of_idle {step : Step} (still : Notice.moves step.notices = [])
    (same : step.reader.device.peripherals = r.device.peripherals) : Changes r step id where
  none := by rw [still]; rfl
  counts p := by rw [still]; rfl
  changed := same.trans (changeLast_id _).symm

theorem begins_or_changes (o : Settings) (r : Reader) (line : String) :
    (∃ base, Begins r line (r.feed o line) base) ∨ ∃ f, Changes r (r.feed o line) f := by
  refine feed_cases
    (motive := fun step => (∃ base, Begins r line step base) ∨ ∃ f, Changes r step f)
    line (fun _ => .inr ⟨id, changes_of_idle rfl rfl⟩) ?_ ?_
  · intro t next notices tagged ok
    generalize is : next.device.peripherals = after
    have tally := (effect_of_read ok).tally.of_counted
    rw [is] at tally
    cases tally with
    | @begun p here mark origin only => exact .inl ⟨p, here, ⟨t, tagged, mark, origin⟩, only, is⟩
    | @changed f counts none => exact .inr ⟨f, none, counts, is⟩
  · intro t fault _ _
    refine .inr ⟨id, changes_of_idle ?_ rfl⟩
    cases fault <;> rfl

theorem length_feed (line : String) :
    (r.feed o line).reader.device.peripherals.length =
      r.device.peripherals.length +
        (Notice.moves (r.feed o line).notices).count peripheralBegun := by
  obtain ⟨base, begins⟩ | ⟨f, changes⟩ := begins_or_changes o r line
  · rw [begins.added, List.length_append, begins.moves]
    rfl
  · rw [changes.changed, length_changeLast, changes.none, Nat.add_zero]

/-! ## Runs -/

/-- The noticed moves are a walk from the place of the start to that of the end. -/
theorem walk_fed (lines : List String) :
    Place.Walk r.place (moves o r lines) (fed o r lines).place := by
  induction lines generalizing r with
  | nil => exact .stay r.place
  | cons line rest ih =>
    rw [moves_cons, moves_feed, fed_cons]
    refine Place.Walk.append ?_ ih
    split
    case isTrue stays =>
      rw [stays]
      exact .stay r.place
    case isFalse moves => exact .move ((feed_leadsTo line).resolve_left moves) (.stay _)

theorem length_fed (lines : List String) :
    (fed o r lines).device.peripherals.length =
      r.device.peripherals.length + (moves o r lines).count peripheralBegun := by
  induction lines generalizing r with
  | nil => rfl
  | cons line rest ih =>
    rw [fed_cons, ih, length_feed, moves_cons, List.count_append, Nat.add_assoc]

/-- Each peripheral that a run adds was begun by one of its lines. -/
theorem begun_fed {lines : List String} {i : Nat} (new : r.device.peripherals.length ≤ i)
    (listed : i < (fed o r lines).device.peripherals.length) :
    ∃ before line after base, lines = before ++ line :: after ∧
      Begins (fed o r before) line ((fed o r before).feed o line) base ∧
      (fed o r before).device.peripherals.length = i := by
  induction lines generalizing r with
  | nil =>
    rw [fed_nil] at listed
    omega
  | cons line rest ih =>
    by_cases later : (r.feed o line).reader.device.peripherals.length ≤ i
    · obtain ⟨before, opening, after, base, rfl, begins, position⟩ := ih later listed
      exact ⟨line :: before, opening, after, base, rfl, begins, position⟩
    · obtain ⟨base, begins⟩ | ⟨f, changes⟩ := begins_or_changes o r line
      · rw [begins.added, List.length_append, List.length_singleton] at later
        exact ⟨[], line, rest, base, rfl, begins, by rw [fed_nil]; omega⟩
      · rw [changes.changed, length_changeLast] at later
        omega

/-- While a peripheral is the last one, it gets a register for each move that begins one; when the
next one is begun, nothing is added to it any more. -/
theorem registers_fed (lines : List String) {i : Nat} {p : Peripheral}
    (last : i + 1 = r.device.peripherals.length) (has : r.device.peripherals[i]? = some p) :
    ∃ q, (fed o r lines).device.peripherals[i]? = some q ∧
      q.registers.length = p.registers.length +
        ((moves o r lines).takeWhile (· ≠ peripheralBegun)).count registerBegun := by
  induction lines generalizing r p with
  | nil => exact ⟨p, has, rfl⟩
  | cons line rest ih =>
    rw [moves_cons, fed_cons]
    obtain ⟨base, begins⟩ | ⟨f, changes⟩ := begins_or_changes o r line
    · have behind : Behind r.device.peripherals (r.feed o line).reader :=
        ⟨[base], begins.added, fun _ => List.cons_ne_nil base []⟩
      obtain ⟨others, kept, -⟩ := behind_fed o behind rest
      refine ⟨p, ?_, ?_⟩
      · rw [kept, List.getElem?_append_left (by omega), has]
      · rw [begins.moves]
        rfl
    · have length : (r.feed o line).reader.device.peripherals.length =
          r.device.peripherals.length := by
        rw [changes.changed, length_changeLast]
      have changed : (r.feed o line).reader.device.peripherals[i]? = some (f p) := by
        rw [changes.changed, getElem?_changeLast, if_pos last, has]
        rfl
      obtain ⟨q, known, counts⟩ := ih (by omega) changed
      have others : ∀ move ∈ Notice.moves (r.feed o line).notices,
          decide (move ≠ peripheralBegun) = true := by
        intro move member
        have absent := List.count_eq_zero.mp changes.none
        exact decide_eq_true fun same => absent (same ▸ member)
      refine ⟨q, known, ?_⟩
      rw [counts, changes.counts, List.takeWhile_append_of_pos others, List.count_append,
        Nat.add_assoc]

end

end Reader

/-! ## Readings -/

theorem moves_readLines {o : Settings} {s : Reading} (going : s.fault = none)
    (lines : List String) :
    ∃ taken, taken <+: lines ∧ (Reading.readLines o s lines).reader = s.reader.fed o taken ∧
      Notice.moves (Reading.readLines o s lines).notices.toList =
        Notice.moves s.notices.toList ++ Reader.moves o s.reader taken := by
  induction lines generalizing s with
  | nil => exact ⟨[], List.prefix_rfl, rfl, (List.append_nil _).symm⟩
  | cons line rest ih =>
    obtain ⟨reader, fault⟩ := Reading.readLine_of_none (o := o) going line
    have noticed : (Reading.readLine o s line).notices.toList =
        s.notices.toList ++ (s.reader.feed o line).notices := by
      rw [Reading.readLine, Reading.proceed, going]
      exact Array.toList_appendList
    have first : Notice.moves (Reading.readLine o s line).notices.toList =
        Notice.moves s.notices.toList ++ Reader.moves o s.reader [line] := by
      rw [noticed, Notice.moves, List.filterMap_append, Reader.moves_cons, Reader.moves_nil,
        List.append_nil]
      rfl
    cases found : (s.reader.feed o line).fault with
    | some fatal =>
      rw [Reading.readLines_cons_of_fault going found rest]
      exact ⟨[line], ⟨rest, rfl⟩, reader, first⟩
    | none =>
      obtain ⟨taken, front, read, moved⟩ := ih (fault.trans found)
      refine ⟨line :: taken, List.cons_prefix_cons.mpr ⟨rfl, front⟩, ?_, ?_⟩
      · rw [Reader.fed_cons, ← reader]
        exact read
      · have before : Reader.moves o s.reader (line :: taken) =
            Reader.moves o s.reader [line] ++
              Reader.moves o (Reading.readLine o s line).reader taken := by
          rw [reader]
          exact Reader.moves_append [line] taken
        rw [before, ← List.append_assoc, ← first]
        exact moved

/-- A reading notices the moves of the lines that it takes, and no others. -/
theorem moves_read (o : Settings) (lines : List String) :
    ∃ taken, taken <+: lines ∧ (read o lines).reader = Reader.fed o {} taken ∧
      Notice.moves (read o lines).notices.toList = Reader.moves o {} taken := by
  obtain ⟨taken, front, reader, moved⟩ := moves_readLines (o := o) (s := {}) rfl lines
  refine ⟨taken, front, ?_⟩
  unfold read Reading.proceed
  split
  · exact ⟨reader, moved⟩
  · refine ⟨Reader.finish_reader.trans reader, ?_⟩
    have last : Notice.moves (Reading.readLines o {} lines).reader.finish.notices = [] := by
      unfold Reader.finish
      split <;> rfl
    rw [Array.toList_appendList, Notice.moves, List.filterMap_append]
    change Notice.moves _ ++ Notice.moves _ = _
    rw [last, List.append_nil]
    exact moved

/-- The places of the reader are a walk on the hierarchy, whose moves are just those that are
noticed, one at most for a line; it never goes on behind the device, and enumerated values are only
read in a field. The moves tell how many peripherals there are, and how many registers each of them
has besides those that it began with. -/
theorem places_follow_hierarchy (o : Settings) (lines : List String) :
    let r := Reader.fed o {} lines
    let moves := Reader.moves o {} lines
    Place.Walk .device moves r.place ∧
      (∀ line : String,
        let step := r.feed o line
        (step.reader.place = r.place ∨ r.place.LeadsTo step.reader.place) ∧
        step.notices.filter Notice.isMove =
          if step.reader.place = r.place then []
          else [.moved (r.line + 1) r.place step.reader.place]) ∧
      (r.place = .finished → ∀ later : List String, (r.fed o later).place = .finished) ∧
      (r.inEnumeratedValues = true → r.place = .field) ∧
      r.device.peripherals.length = moves.count peripheralBegun ∧
      (∀ (i : Nat) (p : Peripheral), r.device.peripherals[i]? = some p →
        ∃ before line after base, lines = before ++ line :: after ∧
          (Reader.moves o {} before).count peripheralBegun = i ∧
          Reader.Begins (Reader.fed o {} before) line ((Reader.fed o {} before).feed o line) base ∧
          p.registers.length = base.registers.length +
            ((Reader.moves o (Reader.fed o {} (before ++ [line])) after).takeWhile
              (· ≠ peripheralBegun)).count registerBegun) ∧
      ∃ taken, taken <+: lines ∧ (read o lines).reader = Reader.fed o {} taken ∧
        Notice.moves (read o lines).notices.toList = Reader.moves o {} taken := by
  intro r moves
  have walk : Place.Walk .device moves r.place := Reader.walk_fed (r := {}) lines
  have counted (front : List String) : (Reader.fed o {} front).device.peripherals.length =
      (Reader.moves o {} front).count peripheralBegun :=
    (Reader.length_fed front).trans (Nat.zero_add _)
  refine ⟨walk, fun line => ⟨Reader.feed_leadsTo line, Reader.feed_moves o r line⟩, ?_, ?_,
    counted lines, ?_, moves_read o lines⟩
  · intro behind later
    have further := Reader.walk_fed (o := o) (r := r) later
    rw [behind] at further
    exact further.of_finished
  · intro inside
    by_contra outside
    have closed := (Reader.tidy_fed o lines).values outside
    exact absurd (inside.symm.trans closed) nofun
  · intro i p has
    obtain ⟨before, line, after, base, split, begins, position⟩ :=
      Reader.begun_fed (r := {}) (Nat.zero_le i) (List.getElem?_eq_some_iff.mp has).1
    refine ⟨before, line, after, base, split, by rw [← counted, position], begins, ?_⟩
    have last : i + 1 = (Reader.fed o {} (before ++ [line])).device.peripherals.length := by
      rw [Reader.fed_append, Reader.fed_cons, Reader.fed_nil, begins.added, List.length_append,
        position]
      rfl
    have start : (Reader.fed o {} (before ++ [line])).device.peripherals[i]? = some base := by
      rw [Reader.fed_append, Reader.fed_cons, Reader.fed_nil, begins.added, ← position]
      exact List.getElem?_concat_length
    obtain ⟨q, known, counts⟩ := Reader.registers_fed (o := o) after last start
    have same : Reader.fed o {} lines =
        Reader.fed o (Reader.fed o {} (before ++ [line])) after := by
      rw [← Reader.fed_append, List.append_assoc, split]
      rfl
    rw [← same] at known
    obtain rfl : p = q := Option.some.inj (has.symm.trans known)
    exact counts

end Document

end RegisterMap
