import RegisterMap.Proofs.Commuting
import RegisterMap.Proofs.Reader.Saying
import RegisterMap.Proofs.Reader.Vocabulary

/-!
Of the address blocks of a peripheral the first one counts, and it counts as a whole. Until one is
opened the peripheral has what it began with; the first one that is opened takes the place of this,
and is what its own lines say. Lines of later address blocks change nothing but the place of the
reader and the mark that they are skipped, so that they can be left out.
-/

set_option autoImplicit false

namespace RegisterMap

namespace Document

/-- The number that is written as a hexadecimal literal. -/
def wordSaid? (data : String) : Option Value :=
  (Numeral.hexadecimal? data.toList).map fun n => .int n

/-- Every content stands for a text. -/
def textSaid? (data : String) : Option Value := some (.ofString data)

end Document

namespace AddressBlock

open Document

/-- The address block that the lines describe: each attribute is what the last line says that says
a value of it, and is not set without such a line. -/
def told (lines : List String) : AddressBlock where
  offset := (lastSaid? .offset wordSaid? lines).getD .null
  size := (lastSaid? .size wordSaid? lines).getD .null
  usage := (lastSaid? .usage textSaid? lines).getD (.text [])

/-- What becomes of the address block by one more line. -/
def hear (line : String) (b : AddressBlock) : AddressBlock where
  offset := (said? .offset wordSaid? line).getD b.offset
  size := (said? .size wordSaid? line).getD b.size
  usage := (said? .usage textSaid? line).getD b.usage

theorem told_concat (lines : List String) (line : String) :
    told (lines ++ [line]) = (told lines).hear line := by
  simp only [told, hear, lastSaid?_concat, Option.getD_or]

section

variable {line : String} {t : Tag}

/-- A line that says nothing of an address block leaves it as it is. -/
theorem hear_eq_id (silent : ∀ e ∈ [Element.offset, .size, .usage], ∀ (β : Type)
    (meaning : String → Option β), said? e meaning line = none) : hear line = id := by
  funext b
  simp only [hear, silent .offset (by decide), silent .size (by decide),
    silent .usage (by decide)]
  rfl

theorem hear_of_untagged (none : Tag.ofLine? line = none) : hear line = id := by
  apply hear_eq_id
  intro e _ β meaning
  rw [said?, none]
  rfl

theorem hear_of_untold (tagged : Tag.ofLine? line = some t) (untold : ∀ e data, ¬ t.Tells e data) :
    hear line = id :=
  hear_eq_id fun e _ _ _ => said?_eq_none tagged (untold e)

/-- The attribute that a line tells of an address block is what the block hears of it. -/
theorem addressBlockAttribute_eq {e : Element} {data : String}
    (tagged : Tag.ofLine? line = some t) (tells : t.Tells e data) :
    addressBlockAttribute e data = .ok (hear line) := by
  have others : ∀ d, d ≠ e → ∀ (β : Type) (meaning : String → Option β),
      said? d meaning line = none := by
    intro d differs β meaning
    refine said?_eq_none tagged fun data' tells' => differs ?_
    exact Mark.opening.inj (tells'.1.symm.trans tells.1)
  cases e with
  | offset =>
    refine congrArg Except.ok (funext fun b => ?_)
    simp only [hear, said?_of_tells tagged tells, others .size nofun, others .usage nofun,
      wordSaid?]
    cases Numeral.hexadecimal? data.toList <;> rfl
  | size =>
    refine congrArg Except.ok (funext fun b => ?_)
    simp only [hear, said?_of_tells tagged tells, others .offset nofun, others .usage nofun,
      wordSaid?]
    cases Numeral.hexadecimal? data.toList <;> rfl
  | usage =>
    refine congrArg Except.ok (funext fun b => ?_)
    simp only [hear, said?_of_tells tagged tells, others .offset nofun, others .size nofun]
    rfl
  | _ =>
    refine congrArg Except.ok (hear_eq_id fun d member β meaning => others d ?_ β meaning).symm
    rintro rfl
    exact absurd member (by decide)

end

end AddressBlock

namespace Document.Reader

/-- The line opens an address block. -/
def OpensBlock (r : Reader) (line : String) : Prop :=
  r.place = .peripheral ∧ HasMark (.opening .addressBlock) line

/-- The line stands in an address block, or opens one. -/
def OfBlock (r : Reader) (line : String) : Prop := r.place = .addressBlock ∨ r.OpensBlock line

/-- The lines are those of a whole address block, which the first of them opens and the last one
closes. -/
def IsBlock (r : Reader) (lines : List String) : Prop :=
  ∃ opening inner closing, lines = opening :: (inner ++ [closing]) ∧ r.OpensBlock opening ∧
    (∀ line ∈ inner, ¬ HasMark (.closing .addressBlock) line) ∧
    HasMark (.closing .addressBlock) closing

/-- The lines up to the first address block, the one that opens it, those of the visit to it, and
those that follow, from the one that closes it on. -/
structure FirstVisit (o : Settings) (r : Reader) (before : List String) (opening : String)
    (visit after : List String) : Prop where
  none : Throughout o (fun s line => ¬ s.OpensBlock line) r before
  opens : (fed o r before).OpensBlock opening
  stays : Throughout o
    (fun s line => s.place = .addressBlock ∧ ¬ HasMark (.closing .addressBlock) line)
    (fed o r (before ++ [opening])) visit
  closes : ∀ line ∈ after.head?, HasMark (.closing .addressBlock) line

/-- No address block of the peripheral has been opened, and it has this one from its beginning. -/
structure Unopened (r : Reader) (b : Option AddressBlock) : Prop where
  seen : r.blockSeen = false
  outside : r.place ≠ .addressBlock
  block : r.peripheral?.map Peripheral.addressBlock = some b

/-- The first address block is being described, and these are its lines so far. -/
structure Describing (r : Reader) (visit : List String) : Prop where
  here : r.place = .addressBlock
  counts : r.blockSkipped = false
  seen : r.blockSeen = true
  block : r.peripheral?.map Peripheral.addressBlock = some (some (AddressBlock.told visit))

/-- The first address block has been closed, as this one; any other is skipped. -/
structure Settled (r : Reader) (b : AddressBlock) : Prop where
  seen : r.blockSeen = true
  skipped : r.place = .addressBlock → r.blockSkipped = true
  block : r.peripheral?.map Peripheral.addressBlock = some (some b)

section

variable {o : Settings} {r next : Reader} {t : Tag} {notices : List Notice} {line : String}

/-! ## Single lines -/

theorem feed_begun {p : Peripheral} (here : r.place = .peripherals)
    (tagged : Tag.ofLine? line = some t) (mark : t.mark = .opening .peripheral)
    (origin : r.Origin t p) :
    (r.feed o line).reader = { r with
      device := { r.device with peripherals := r.device.peripherals ++ [p] }
      place := .peripheral
      line := r.line + 1
      blockSeen := false } := by
  rw [feed_of_tag tagged, read, here]
  cases origin with
  | plain underived =>
    simp only [inPeripherals, mark, underived]
    rfl
  | derived derived found =>
    simp only [inPeripherals, mark, derived, found]
    rfl

theorem feed_inAddressBlock (here : r.place = .addressBlock)
    (tagged : Tag.ofLine? line = some t) :
    r.feed o line = Step.ofProgress { r with line := r.line + 1 }
      (inAddressBlock { r with line := r.line + 1 } t) := by
  have place : ({ r with line := r.line + 1 } : Reader).place = .addressBlock := here
  rw [feed_of_tag tagged]
  generalize ({ r with line := r.line + 1 } : Reader) = counted at place ⊢
  unfold read
  rw [place]

/-- A further address block is entered as one that is skipped. -/
theorem feed_opens_again (opens : r.OpensBlock line) (seen : r.blockSeen = true) :
    (r.feed o line).reader =
      { r with place := .addressBlock, line := r.line + 1, blockSkipped := true } := by
  obtain ⟨here, has⟩ := opens
  obtain ⟨t, tagged, mark⟩ := hasMark_iff.mp has
  rw [feed_of_tag tagged, read, here]
  simp only [inPeripheral, mark, openAddressBlock, seen]
  rfl

theorem feed_closes_block (here : r.place = .addressBlock)
    (closes : HasMark (.closing .addressBlock) line) :
    (r.feed o line).reader = { r with place := .peripheral, line := r.line + 1 } := by
  obtain ⟨t, tagged, mark⟩ := hasMark_iff.mp closes
  rw [feed_of_tag tagged, read, here]
  simp only [inAddressBlock, mark]
  rfl

/-- In an address block that is skipped a line is only counted, unless it closes the block. -/
theorem feed_skipped (here : r.place = .addressBlock) (skipped : r.blockSkipped = true)
    (stays : ¬ HasMark (.closing .addressBlock) line) :
    (r.feed o line).reader = { r with line := r.line + 1 } := by
  cases tagged : Tag.ofLine? line with
  | none =>
    unfold feed
    rw [tagged]
  | some t =>
    rw [feed_inAddressBlock here tagged]
    unfold inAddressBlock
    split
    · rename_i mark
      exact absurd (hasMark_iff.mpr ⟨t, tagged, mark⟩) stays
    · rw [if_pos skipped]
      rfl

/-- In an address block that counts a line is heard, unless it closes the block. -/
theorem feed_hears (here : r.place = .addressBlock) (counts : r.blockSkipped = false)
    (stays : ¬ HasMark (.closing .addressBlock) line) :
    (r.feed o line).reader =
      { r.changeAddressBlock (AddressBlock.hear line) with line := r.line + 1 } := by
  cases tagged : Tag.ofLine? line with
  | none =>
    unfold feed
    rw [tagged, AddressBlock.hear_of_untagged tagged, changeAddressBlock_id]
  | some t =>
    have notSkipped : ¬ r.blockSkipped = true := by
      rw [counts]
      exact Bool.false_ne_true
    rw [feed_inAddressBlock here tagged]
    unfold inAddressBlock
    split
    · rename_i mark
      exact absurd (hasMark_iff.mpr ⟨t, tagged, mark⟩) stays
    · rw [if_neg notSkipped]
      unfold describe
      split
      · rename_i e data mark content
        rw [AddressBlock.addressBlockAttribute_eq tagged ⟨mark, content⟩]
        rfl
      · rename_i untold
        have idle : AddressBlock.hear line = id :=
          AddressBlock.hear_of_untold tagged fun e data tells => untold e data tells.1 tells.2
        rw [idle, changeAddressBlock_id]
        rfl

/-- Where no address block counts or is opened, nothing happens to address blocks. -/
theorem Effect.block_kept (effect : Effect o r t next notices) (inside : r.place.isInside = true)
    (other : r.place = .peripheral → t.mark ≠ .opening .addressBlock)
    (idle : r.place = .addressBlock → r.blockSkipped = true) :
    next.blockSeen = r.blockSeen ∧ next.blockSkipped = r.blockSkipped ∧
      (next.place = .addressBlock → r.place = .addressBlock) ∧
      next.peripheral?.map Peripheral.addressBlock =
        r.peripheral?.map Peripheral.addressBlock := by
  have changed : ∀ f : Peripheral → Peripheral, (∀ p, (f p).addressBlock = p.addressBlock) →
      (r.changePeripheral f).peripheral?.map Peripheral.addressBlock =
        r.peripheral?.map Peripheral.addressBlock := by
    intro f keeps
    rw [peripheral?_changePeripheral, Option.map_map]
    exact congrArg (Option.map · r.peripheral?) (funext keeps)
  cases effect with
  | ignored | valuesOpened | valuesClosed => exact ⟨rfl, rfl, id, rfl⟩
  | passed passage =>
    refine ⟨rfl, rfl, fun enters => ?_, rfl⟩
    generalize r.place = source at passage ⊢
    generalize t.mark = m at passage
    cases passage <;> first | rfl | cases enters
  | cpuOpened here | deviceDescribed here | cpuDescribed here | peripheralOpened here
  | peripheralSkipped here =>
    rw [here] at inside
    cases inside
  | blockOpened here mark | blockRepeated here mark => exact absurd mark (other here)
  | blockDescribed here counts =>
    have skipped := idle here
    rw [counts] at skipped
    cases skipped
  | interruptOpened | fieldClosed => exact ⟨rfl, rfl, nofun, rfl⟩
  | interruptDescribed => exact ⟨rfl, rfl, id, rfl⟩
  | peripheralDescribed _ _ known =>
    exact ⟨rfl, rfl, id, changed _ (peripheralAttribute_addressBlock known)⟩
  | registerOpened | fieldOpened => exact ⟨rfl, rfl, nofun, changed _ fun _ => rfl⟩
  | registerDescribed | fieldDescribed => exact ⟨rfl, rfl, id, changed _ fun _ => rfl⟩
  | @interruptClosed i =>
    exact ⟨rfl, rfl, nofun, congrArg (Option.map _) (peripheral?_addInterrupt i)⟩

theorem block_kept_feed (inside : r.place.isInside = true) (other : ¬ r.OpensBlock line)
    (idle : r.place = .addressBlock → r.blockSkipped = true) :
    (r.feed o line).reader.blockSeen = r.blockSeen ∧
      (r.feed o line).reader.blockSkipped = r.blockSkipped ∧
      ((r.feed o line).reader.place = .addressBlock → r.place = .addressBlock) ∧
      (r.feed o line).reader.peripheral?.map Peripheral.addressBlock =
        r.peripheral?.map Peripheral.addressBlock := by
  refine feed_cases
    (motive := fun step => step.reader.blockSeen = r.blockSeen ∧
      step.reader.blockSkipped = r.blockSkipped ∧
      (step.reader.place = .addressBlock → r.place = .addressBlock) ∧
      step.reader.peripheral?.map Peripheral.addressBlock =
        r.peripheral?.map Peripheral.addressBlock)
    line (fun _ => ⟨rfl, rfl, id, rfl⟩) ?_ (fun _ _ _ _ => ⟨rfl, rfl, id, rfl⟩)
  intro t next notices tagged ok
  exact (effect_of_read ok).block_kept inside
    (fun here mark => other ⟨here, hasMark_iff.mpr ⟨t, tagged, mark⟩⟩) idle

/-! ## The three stages -/

theorem unopened_of_begun {p : Peripheral} (here : r.place = .peripherals)
    (tagged : Tag.ofLine? line = some t) (mark : t.mark = .opening .peripheral)
    (origin : r.Origin t p) : (r.feed o line).reader.Unopened p.addressBlock := by
  rw [feed_begun here tagged mark origin]
  exact ⟨rfl, nofun, by simp [peripheral?]⟩

theorem Unopened.feed {b : Option AddressBlock} (unopened : r.Unopened b)
    (inside : r.place.isInside = true) (other : ¬ r.OpensBlock line) :
    (r.feed o line).reader.Unopened b := by
  obtain ⟨seen, outside, block⟩ := unopened
  obtain ⟨sameSeen, -, place, same⟩ :=
    block_kept_feed (o := o) inside other fun here => absurd here outside
  exact ⟨sameSeen.trans seen, fun enters => outside (place enters), same.trans block⟩

/-- The block that is opened takes the place of the one that the peripheral had. -/
theorem Unopened.opens {b : Option AddressBlock} (unopened : r.Unopened b)
    (opens : r.OpensBlock line) : (r.feed o line).reader.Describing [] := by
  obtain ⟨seen, -, block⟩ := unopened
  obtain ⟨here, has⟩ := opens
  obtain ⟨t, tagged, mark⟩ := hasMark_iff.mp has
  obtain ⟨p, current, -⟩ := Option.map_eq_some_iff.mp block
  have opened : (r.feed o line).reader =
      { r.changePeripheral (fun p => { p with addressBlock := some {} }) with
        place := .addressBlock
        line := r.line + 1
        blockSkipped := false
        blockSeen := true } := by
    rw [feed_of_tag tagged, read, here]
    simp only [inPeripheral, mark, openAddressBlock, seen]
    rfl
  rw [opened]
  refine ⟨rfl, rfl, rfl, ?_⟩
  change (r.changePeripheral _).peripheral?.map _ = _
  rw [peripheral?_changePeripheral, current]
  rfl

theorem Describing.feed {visit : List String} (describing : r.Describing visit)
    (stays : ¬ HasMark (.closing .addressBlock) line) :
    (r.feed o line).reader.Describing (visit ++ [line]) := by
  obtain ⟨here, counts, seen, block⟩ := describing
  obtain ⟨p, current, has⟩ := Option.map_eq_some_iff.mp block
  rw [feed_hears here counts stays]
  refine ⟨here, counts, seen, ?_⟩
  change (r.changePeripheral _).peripheral?.map _ = _
  rw [peripheral?_changePeripheral, current, AddressBlock.told_concat]
  simp only [Option.map_some, has]

theorem Describing.closes {visit : List String} (describing : r.Describing visit)
    (closes : HasMark (.closing .addressBlock) line) :
    (r.feed o line).reader.Settled (.told visit) := by
  rw [feed_closes_block describing.here closes]
  exact ⟨describing.seen, nofun, describing.block⟩

theorem Settled.feed {b : AddressBlock} (settled : r.Settled b)
    (inside : r.place.isInside = true) : (r.feed o line).reader.Settled b := by
  obtain ⟨seen, skipped, block⟩ := settled
  by_cases opens : r.OpensBlock line
  · rw [feed_opens_again opens seen]
    exact ⟨seen, fun _ => rfl, block⟩
  · obtain ⟨sameSeen, sameSkipped, place, same⟩ := block_kept_feed (o := o) inside opens skipped
    exact ⟨sameSeen.trans seen, fun enters => sameSkipped.trans (skipped (place enters)),
      same.trans block⟩

/-- Nothing changes but the place and the mark that the address block is skipped. -/
def OnlyMoves (r next : Reader) : Prop :=
  next = { r with
    place := next.place
    line := next.line
    blockSkipped := next.blockSkipped }

theorem Settled.onlyMoves {b : AddressBlock} (settled : r.Settled b) (ofBlock : r.OfBlock line) :
    r.OnlyMoves (r.feed o line).reader := by
  unfold OnlyMoves
  obtain here | opens := ofBlock
  · by_cases closes : HasMark (.closing .addressBlock) line
    · rw [feed_closes_block here closes]
    · rw [feed_skipped here (settled.skipped here) closes]
  · rw [feed_opens_again opens settled.seen]

/-! ## Runs -/

theorem Unopened.fed {b : Option AddressBlock} {lines : List String} (unopened : r.Unopened b)
    (inside : Inside o r lines)
    (none : Throughout o (fun s next => ¬ s.OpensBlock next) r lines) :
    (r.fed o lines).Unopened b := by
  induction lines generalizing r with
  | nil => exact unopened
  | cons line rest ih => exact ih (unopened.feed inside.1 none.1) inside.2 none.2

theorem Describing.fed {visit lines : List String} (describing : r.Describing visit)
    (stays : ∀ next ∈ lines, ¬ HasMark (.closing .addressBlock) next) :
    (r.fed o lines).Describing (visit ++ lines) ∧
      Throughout o
        (fun s next => s.place = .addressBlock ∧ ¬ HasMark (.closing .addressBlock) next)
        r lines := by
  induction lines generalizing r visit with
  | nil =>
    rw [List.append_nil]
    exact ⟨describing, trivial⟩
  | cons line rest ih =>
    obtain ⟨first, others⟩ := List.forall_mem_cons.mp stays
    obtain ⟨last, stayed⟩ := ih (describing.feed first) others
    rw [List.append_cons]
    exact ⟨last, ⟨describing.here, first⟩, stayed⟩

theorem Settled.fed {b : AddressBlock} {lines : List String} (settled : r.Settled b)
    (inside : Inside o r lines) :
    (r.fed o lines).Settled b ∧
      Throughout o (fun s next => s.OfBlock next → s.OnlyMoves (s.feed o next).reader) r lines := by
  induction lines generalizing r with
  | nil => exact ⟨settled, trivial⟩
  | cons line rest ih =>
    obtain ⟨last, others⟩ := ih (settled.feed inside.1) inside.2
    exact ⟨last, settled.onlyMoves, others⟩

theorem fed_skipped {lines : List String} (here : r.place = .addressBlock)
    (skipped : r.blockSkipped = true)
    (stays : ∀ next ∈ lines, ¬ HasMark (.closing .addressBlock) next) :
    r.fed o lines = { r with line := r.line + lines.length } := by
  induction lines generalizing r with
  | nil => rfl
  | cons line rest ih =>
    obtain ⟨first, others⟩ := List.forall_mem_cons.mp stays
    have later := ih (r := { r with line := r.line + 1 }) here skipped others
    rw [fed_cons, feed_skipped here skipped first, later, List.length_cons, Nat.add_assoc,
      Nat.add_comm 1]

/-- A whole address block that is skipped leaves nothing behind but its mark. -/
theorem fed_block {block : List String} (seen : r.blockSeen = true) (whole : r.IsBlock block) :
    r.fed o block = { r with line := r.line + block.length, blockSkipped := true } := by
  obtain ⟨opening, inner, closing, rfl, opens, stays, closes⟩ := whole
  have place := opens.1
  rw [fed_cons, feed_opens_again opens seen, fed_append, fed_skipped rfl rfl stays, fed_cons,
    fed_nil, feed_closes_block rfl closes, ← place]
  simp only [List.length_cons, List.length_append, List.length_nil]
  congr 1
  omega

/-- Outside an address block nothing is told by the mark that the last one was skipped. -/
theorem device_fed_marked (outside : r.place ≠ .addressBlock)
    (described : r.place.isInside = true → r.device.peripherals ≠ []) (skipped : Bool) (m : Nat)
    (lines : List String) :
    (fed o { r with line := m, blockSkipped := skipped } lines).device =
      (r.fed o lines).device := by
  have held : r.Counterpart (.exact [] [] [] []) { r with blockSkipped := skipped } :=
    .intro (c := .exact [] [] [] []) rfl (List.forall₂_same.mpr fun p _ => .refl p) described rfl
      (fun _ => rfl) fun here => absurd here outside
  have after : (r.fed o lines).Counterpart (.exact [] [] [] [])
      (fed o { r with blockSkipped := skipped } lines) :=
    (run_alongside held fun _ _ _ _ _ _ held =>
      ⟨fun _ _ => .inr rfl, fun _ _ => admits_of_stored held rfl _,
        fun _ _ _ _ _ => ⟨rfl, rfl⟩⟩).1
  obtain ⟨later, entries, peripherals, interrupts, same⟩ := after.device_exact
  have marked : (fed o { r with blockSkipped := skipped } lines).device =
      (r.fed o lines).device := by
    rw [same]
    simp only [List.nil_append] at peripherals interrupts ⊢
    rw [← peripherals, ← interrupts]
  have moved := congrArg Reader.device
    (fed_renumber (o := o) (r := { r with blockSkipped := skipped }) lines m).1
  exact moved.trans marked

/-- Whether or not the first address block is closed, it stays what its visit has made it. -/
theorem Describing.behind {visit after : List String} (describing : r.Describing visit)
    (inside : Inside o r after)
    (closes : ∀ next ∈ after.head?, HasMark (.closing .addressBlock) next) :
    (r.fed o after).peripheral?.map Peripheral.addressBlock = some (some (.told visit)) ∧
      Throughout o (fun s next => s.OfBlock next → s.OnlyMoves (s.feed o next).reader) r after := by
  cases after with
  | nil => exact ⟨describing.block, trivial⟩
  | cons closing rest =>
    have closed : HasMark (.closing .addressBlock) closing := closes closing rfl
    obtain ⟨last, moves⟩ := (describing.closes (o := o) closed).fed inside.2
    refine ⟨last.block, fun _ => ?_, moves⟩
    rw [feed_closes_block describing.here closed]
    rfl

/-- Behind the visit to the first address block any other one can be left out. -/
theorem Describing.without_block {visit mid block : List String} (describing : r.Describing visit)
    (inside : Inside o r mid)
    (closes : ∀ next ∈ (mid ++ block).head?, HasMark (.closing .addressBlock) next)
    (whole : (r.fed o mid).IsBlock block) (rest : List String) :
    (r.fed o (mid ++ rest)).device = (r.fed o (mid ++ (block ++ rest))).device := by
  obtain ⟨opening, inner, closing, shape, opens, -⟩ := id whole
  cases mid with
  | nil =>
    have elsewhere := opens.1
    rw [fed_nil, describing.here] at elsewhere
    cases elsewhere
  | cons closing mid =>
    have settled := ((describing.closes (o := o) (closes closing rfl)).fed inside.2).1
    rw [← fed_cons] at settled
    generalize closing :: mid = front at settled whole opens
    have outside : (r.fed o front).place ≠ .addressBlock := by
      rw [opens.1]
      nofun
    have described : (r.fed o front).place.isInside = true →
        (r.fed o front).device.peripherals ≠ [] := by
      intro _ empty
      have block := settled.block
      rw [peripheral?, empty] at block
      cases block
    rw [fed_append, fed_append, fed_append, fed_block settled.seen whole]
    exact (device_fed_marked outside described true _ rest).symm

/-- The first address block that is opened is described up to the line that closes it. -/
theorem Unopened.firstVisit {b : Option AddressBlock} {before tail : List String}
    {opening : String} (unopened : r.Unopened b) (inside : Inside o r (before ++ opening :: tail))
    (none : Throughout o (fun s next => ¬ s.OpensBlock next) r before)
    (opens : (r.fed o before).OpensBlock opening) :
    ∃ visit after, tail = visit ++ after ∧ FirstVisit o r before opening visit after ∧
      (r.fed o (before ++ opening :: visit)).Describing visit ∧
      Inside o (r.fed o (before ++ opening :: visit)) after := by
  obtain ⟨visit, after, rfl, free, closes⟩ := exists_append_mark (.closing .addressBlock) tail
  obtain ⟨within, -, behind⟩ := (inside_append before _).mp inside
  obtain ⟨-, behind⟩ := (inside_append visit after).mp behind
  obtain ⟨described, stays⟩ := ((unopened.fed within none).opens (o := o) opens).fed free
  refine ⟨visit, after, rfl, ⟨none, opens, ?_, closes⟩, ?_, ?_⟩
  · rw [fed_append]
    exact stays
  · rw [fed_append, fed_cons]
    exact described
  · rw [fed_append, fed_cons]
    exact behind

/-- The first address block of a peripheral counts as a whole. Without one the peripheral keeps
what it began with; otherwise it has what the lines of the first visit tell, and no line of a later
address block does more than move the reader, so that those blocks can be left out. -/
theorem first_address_block_counts {p : Peripheral} {body : List String}
    (here : r.place = .peripherals) (tagged : Tag.ofLine? line = some t)
    (mark : t.mark = .opening .peripheral) (origin : r.Origin t p)
    (inside : Inside o (r.feed o line).reader body) :
    let first := (r.feed o line).reader
    first.device.peripherals = r.device.peripherals ++ [p] ∧
      ∃ q, (first.fed o body).device.peripherals = r.device.peripherals ++ [q] ∧
        (Throughout o (fun s next => ¬ s.OpensBlock next) first body ∧
            q.addressBlock = p.addressBlock ∨
          ∃ before opening visit after, body = before ++ opening :: (visit ++ after) ∧
            FirstVisit o first before opening visit after ∧
            q.addressBlock = some (.told visit) ∧
            Throughout o (fun s next => s.OfBlock next → s.OnlyMoves (s.feed o next).reader)
              (first.fed o (before ++ opening :: visit)) after ∧
            ∀ mid block rest more, after = mid ++ block ++ rest →
              (first.fed o (before ++ opening :: (visit ++ mid))).IsBlock block →
              (first.fed o (before ++ opening :: (visit ++ (mid ++ (rest ++ more))))).device =
                (first.fed o (body ++ more)).device) := by
  have begun : (r.feed o line).reader.device.peripherals = r.device.peripherals ++ [p] := by
    rw [feed_begun here tagged mark origin]
  have unopened := unopened_of_begun (o := o) here tagged mark origin
  obtain ⟨q, last⟩ := earlier_fed inside begun
  have current : ((r.feed o line).reader.fed o body).peripheral? = some q := by
    rw [peripheral?, last, List.getLast?_concat]
  refine ⟨begun, q, last, ?_⟩
  generalize (r.feed o line).reader = first at *
  obtain never | ⟨before, opening, tail, rfl, none, opens⟩ :=
    throughout_not_or_first o OpensBlock first body
  · have block := (unopened.fed inside never).block
    rw [current] at block
    exact .inl ⟨never, Option.some.inj block⟩
  · obtain ⟨visit, after, rfl, visited, described, behind⟩ :=
      unopened.firstVisit inside none opens
    obtain ⟨settled, moves⟩ := described.behind behind visited.closes
    have split : ∀ lines, first.fed o (before ++ opening :: (visit ++ lines)) =
        (first.fed o (before ++ opening :: visit)).fed o lines := by
      intro lines
      rw [← List.cons_append, ← List.append_assoc, fed_append]
    refine .inr ⟨before, opening, visit, after, rfl, visited, ?_, moves, ?_⟩
    · rw [← split, current] at settled
      exact Option.some.inj settled
    · rintro mid block rest more rfl whole
      rw [split] at whole
      obtain ⟨front, -⟩ := (inside_append (mid ++ block) rest).mp behind
      obtain ⟨front, -⟩ := (inside_append mid block).mp front
      have closed : ∀ next ∈ (mid ++ block).head?, HasMark (.closing .addressBlock) next :=
        fun next found =>
          visited.closes next (by rw [List.head?_append, Option.mem_def.mp found]; rfl)
      have left := described.without_block front closed whole (rest ++ more)
      have joined : before ++ opening :: (visit ++ (mid ++ block ++ rest)) ++ more =
          before ++ opening :: (visit ++ (mid ++ (block ++ (rest ++ more)))) := by
        simp only [List.append_assoc, List.cons_append]
      rw [joined, split, split]
      exact left

end

/-- The reader behind the element of a timer with an address block. -/
def behindBlock : Reader :=
  fed {} {} ["<peripherals>", "<peripheral>", "<name>TIM2</name>", "<addressBlock>",
    "<offset>0x0</offset>", "<size>0x400</size>", "</addressBlock>", "</peripheral>"]

/-- A derived timer with two address blocks of its own. The first one has no offset, and the last
one of its sizes is no number. -/
def twoBlocks : List String :=
  ["<addressBlock>", "<size>0x20</size>", "<size>0x10</size>", "<size>none</size>",
    "</addressBlock>", "<name>TIM5</name>", "<addressBlock>", "<offset>0x8</offset>",
    "</addressBlock>", "</peripheral>"]

theorem first_block_of_derived_timer :
    let first := (behindBlock.feed {} "<peripheral derivedFrom=\"TIM2\">").reader
    ∃ before opening visit after, twoBlocks = before ++ opening :: (visit ++ after) ∧
      AddressBlock.told visit = { size := .int 0x10 } ∧
      (fed {} first twoBlocks).peripheral?.map Peripheral.addressBlock =
        some (some (.told visit)) := by
  have tagged : Tag.ofLine? "<peripheral derivedFrom=\"TIM2\">" =
      some { name := "peripheral", derivedFrom := some "TIM2" } := by decide +kernel
  have found : behindBlock.device.findPeripheral? (.ofString "TIM2") =
      some { name := .ofString "TIM2"
             addressBlock := some { offset := .int 0, size := .int 0x400 } } := by decide +kernel
  have inside : Inside {} (behindBlock.feed {} "<peripheral derivedFrom=\"TIM2\">").reader
      twoBlocks := by decide +kernel
  have result : (fed {} (behindBlock.feed {} "<peripheral derivedFrom=\"TIM2\">").reader
      twoBlocks).peripheral?.map Peripheral.addressBlock =
        some (some { size := .int 0x10 }) := by decide +kernel
  obtain ⟨-, q, last, kept | first⟩ :=
    first_address_block_counts (by decide +kernel) tagged (by decide +kernel)
      (.derived rfl found) inside
  · rw [peripheral?, last, List.getLast?_concat, Option.map_some, kept.2] at result
    cases result
  · obtain ⟨before, opening, visit, after, split, -, block, -⟩ := first
    have told : some (some (AddressBlock.told visit)) = some (some { size := .int 0x10 }) := by
      rw [← result, peripheral?, last, List.getLast?_concat, Option.map_some, block]
    exact ⟨before, opening, visit, after, split, Option.some.inj (Option.some.inj told),
      result.trans told.symm⟩

end Document.Reader

end RegisterMap
