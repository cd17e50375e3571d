import Mathlib.Data.List.TakeWhile
import RegisterMap.Command.Run
import RegisterMap.Proofs.AnySettings
import RegisterMap.Proofs.Zig.Characters

/-!
Texts without lone halves of surrogate pairs. Only the values of settings can hold such a half,
since lines are strings. Where the settings hold none, nor does any value of the model, nor the text
that a command makes of it: source and outlines are made of those values, of fixed text and of
numerals. A writer of TOML has to keep to that.
-/

set_option autoImplicit false

namespace RegisterMap

def CodePoint.Plain (p : CodePoint) : Prop := p.isHalf = false

abbrev Text.Plain (t : Text) : Prop := t.All CodePoint.Plain

/-! ## Texts -/

theorem plain_char (c : Char) : CodePoint.Plain (.char c) := rfl

theorem plain_ascii : AllowsAscii CodePoint.Plain := fun c _ => plain_char c

namespace Text

theorem plain_ofString (s : String) : Plain (ofString s) :=
  all_ofString_iff.mpr fun c _ => plain_char c

theorem firstHalves?_of_plain {t : Text} (plain : t.Plain) : t.firstHalves? = none := by
  have none : t.dropWhile (fun p => !p.isHalf) = [] := by
    refine List.dropWhile_eq_nil_iff.mpr fun p member => ?_
    rw [show p.isHalf = false from plain p member]
    rfl
  unfold firstHalves?
  dsimp only
  rw [none]

theorem eq_ofString_of_plain {t : Text} (plain : t.Plain) : ∃ s, t = ofString s := by
  suffices chars : ∃ cs : List Char, t = ofChars cs by
    obtain ⟨cs, rfl⟩ := chars
    exact ⟨String.ofList cs, by rw [ofString, String.toList_ofList]⟩
  induction t with
  | nil => exact ⟨[], rfl⟩
  | cons p rest ih =>
    obtain ⟨first, others⟩ := List.forall_mem_cons.mp plain
    obtain ⟨cs, rfl⟩ := ih others
    cases p with
    | char c => exact ⟨c :: cs, rfl⟩
    | half code => cases first

theorem plain_join {parts : List Text} (each : ∀ part ∈ parts, Plain part) :
    Plain (join parts) := by
  intro p member
  obtain ⟨part, listed, inside⟩ := List.mem_flatten.mp member
  exact each part listed p inside

end Text

/-! ## Values -/

namespace Value

mutual

/-- No text in the value holds a lone half. -/
def Plain : Value → Prop
  | .null | .bool _ | .int _ | .float _ => True
  | .text s => s.Plain
  | .list items => PlainItems items
  | .object members => PlainMembers members

def PlainItems : List Value → Prop
  | [] => True
  | v :: rest => v.Plain ∧ PlainItems rest

def PlainMembers : List (Text × Value) → Prop
  | [] => True
  | (name, v) :: rest => (name.Plain ∧ v.Plain) ∧ PlainMembers rest

end

theorem plainItems_iff {items : List Value} : PlainItems items ↔ ∀ v ∈ items, v.Plain := by
  induction items with
  | nil => simp [PlainItems]
  | cons v rest ih => rw [PlainItems, ih, List.forall_mem_cons]

theorem plainMembers_iff {members : List (Text × Value)} :
    PlainMembers members ↔ ∀ m ∈ members, m.1.Plain ∧ m.2.Plain := by
  induction members with
  | nil => simp [PlainMembers]
  | cons m rest ih => rw [PlainMembers, ih, List.forall_mem_cons]

theorem plain_ofString (s : String) : (ofString s).Plain := Text.plain_ofString s

theorem Plain.display {v : Value} (plain : v.Plain) : v.display.Plain := by
  cases v with
  | text s => exact plain
  | _ => exact Text.plain_ofString _

end Value

namespace Toml

/-- Whatever text the writer makes of a plain value is plain. A document in TOML is in UTF-8, which
has no form for lone halves. -/
def KeepsPlain (toml : Value → Option Text) : Prop :=
  ∀ v text, v.Plain → toml v = some text → text.Plain

open Text (all_append plain_ofString)

open Value (PlainItems PlainMembers plainItems_iff plainMembers_iff)

theorem plain_stringText {s : Text} (plain : s.Plain) : (stringText s).Plain := by
  refine all_append.mpr ⟨all_append.mpr ⟨plain_ofString _, fun p member => ?_⟩, plain_ofString _⟩
  obtain ⟨q, inside, escaped⟩ := List.mem_flatMap.mp member
  cases q with
  | char c => exact plain_ofString (stringChar c) p escaped
  | half code => cases plain _ inside

theorem plain_keyText {name : Text} (plain : name.Plain) : (keyText name).Plain := by
  unfold keyText
  split
  · exact plain
  · exact plain_stringText plain

theorem plain_bracketed {opening separator closing : String} {parts : List Text}
    (each : ∀ part ∈ parts, part.Plain) : (bracketed opening separator closing parts).Plain := by
  exact all_append.mpr ⟨all_append.mpr ⟨plain_ofString _,
    Text.all_intercalate (plain_ofString _) each⟩, plain_ofString _⟩

mutual

theorem plain_inlineText (separator : String) :
    ∀ {v : Value}, v.Plain → (inlineText separator v).Plain
  | .null, _ => Text.all_nil
  | .bool true, _ => plain_ofString _
  | .bool false, _ => plain_ofString _
  | .int _, _ => plain_ofString _
  | .float _, _ => plain_ofString _
  | .text _, plain => plain_stringText plain
  | .list _, plain => plain_bracketed (plain_inlineItems plain)
  | .object _, plain => plain_bracketed (plain_inlineMembers plain)

theorem plain_inlineItems :
    ∀ {items : List Value}, PlainItems items → ∀ part ∈ inlineItems items, part.Plain
  | [], _ => nofun
  | _ :: _, plain =>
    List.forall_mem_cons.mpr ⟨plain_inlineText ", " plain.1, plain_inlineItems plain.2⟩

theorem plain_inlineMembers :
    ∀ {members : List (Text × Value)}, PlainMembers members →
      ∀ part ∈ inlineMembers members, part.Plain
  | [], _ => nofun
  | _ :: _, plain => by
    refine List.forall_mem_cons.mpr ⟨?_, plain_inlineMembers plain.2⟩
    exact all_append.mpr ⟨all_append.mpr ⟨plain_keyText plain.1.1, plain_ofString _⟩,
      plain_inlineText "," plain.1.2⟩

end

theorem plain_valueLines {members : List (Text × Value)} (plain : PlainMembers members) :
    (valueLines members).Plain := by
  refine Text.plain_join (List.forall_mem_map.mpr fun part member => ?_)
  refine all_append.mpr ⟨plain_inlineMembers ?_ part member, plain_ofString _⟩
  exact plainMembers_iff.mpr fun m kept => plainMembers_iff.mp plain m (List.mem_filter.mp kept).1

theorem plain_pathText {path : List Text} (plain : ∀ name ∈ path, name.Plain) :
    (pathText path).Plain :=
  Text.all_intercalate (plain_ofString _)
    (List.forall_mem_map.mpr fun name member => plain_keyText (plain name member))

theorem plain_header {path : List Text} (plain : ∀ name ∈ path, name.Plain)
    (members : List (Text × Value)) : (header path members).Plain := by
  unfold header
  split
  · exact Text.all_nil
  · exact all_append.mpr ⟨all_append.mpr ⟨plain_ofString _, plain_pathText plain⟩,
      plain_ofString _⟩

theorem plain_itemHeader {path : List Text} (plain : ∀ name ∈ path, name.Plain) :
    (itemHeader path).Plain := by
  exact all_append.mpr ⟨all_append.mpr ⟨plain_ofString _, plain_pathText plain⟩, plain_ofString _⟩

theorem plain_blankUnless (close : Bool) : (blankUnless close).Plain := by
  cases close
  · exact plain_ofString _
  · exact Text.all_nil

mutual

theorem plain_innerText {path : List Text} (way : ∀ name ∈ path, name.Plain) (bare first : Bool) :
    ∀ {members : List (Text × Value)}, PlainMembers members →
      (innerText path bare first members).Plain
  | [], _ => Text.all_nil
  | (name, _) :: _, plain => by
    have further : ∀ part ∈ path ++ [name], part.Plain :=
      List.forall_mem_append.mpr ⟨way, List.forall_mem_singleton.mpr plain.1.1⟩
    exact all_append.mpr ⟨plain_entryText further bare first plain.1.2,
      plain_innerText way bare false plain.2⟩

theorem plain_entryText {path : List Text} (way : ∀ name ∈ path, name.Plain) (bare first : Bool) :
    ∀ {v : Value}, v.Plain → (entryText path bare first v).Plain
  | .object members, plain => by
    have members : PlainMembers members := plain
    simp only [entryText, all_append]
    exact ⟨⟨⟨plain_blankUnless _, plain_header way _⟩, plain_valueLines members⟩,
      plain_innerText way _ _ members⟩
  | .list items, plain => by
    unfold entryText
    split
    · exact plain_itemsText way first plain
    · exact Text.all_nil
  | .null, _ | .bool _, _ | .int _, _ | .float _, _ | .text _, _ => Text.all_nil

theorem plain_itemsText {path : List Text} (way : ∀ name ∈ path, name.Plain) (close : Bool) :
    ∀ {items : List Value}, PlainItems items → (itemsText path close items).Plain
  | [], _ => Text.all_nil
  | _ :: _, plain => by
    simp only [itemsText, all_append]
    exact ⟨⟨⟨plain_blankUnless _, plain_itemHeader way⟩, plain_itemText way plain.1⟩,
      plain_itemsText way _ plain.2⟩

theorem plain_itemText {path : List Text} (way : ∀ name ∈ path, name.Plain) :
    ∀ {v : Value}, v.Plain → (itemText path v).Plain
  | .object _, plain =>
    all_append.mpr ⟨plain_valueLines plain, plain_innerText way _ _ plain⟩
  | .null, _ | .bool _, _ | .int _, _ | .float _, _ | .text _, _ | .list _, _ => Text.all_nil

end

theorem plain_objectsLast {v : Value} (plain : v.Plain) : (objectsLast v).Plain := by
  cases v with
  | object members =>
    have each := plainMembers_iff.mp plain
    refine plainMembers_iff.mpr (List.forall_mem_append.mpr ⟨fun m kept => ?_, fun m kept => ?_⟩)
    · exact each m (List.mem_filter.mp kept).1
    · exact each m (List.mem_filter.mp kept).1
  | _ => exact plain

mutual

theorem plain_arranged : ∀ {v : Value}, v.Plain → (arranged v).Plain
  | .object _, plain => plain_arrangedMembers plain
  | .list items, plain => by
    change PlainItems (if isTableList items then arrangedItems items else items)
    split
    · exact plain_arrangedItems plain
    · exact plain
  | .null, plain | .bool _, plain | .int _, plain | .float _, plain | .text _, plain => plain

theorem plain_arrangedMembers :
    ∀ {members : List (Text × Value)}, PlainMembers members → PlainMembers (arrangedMembers members)
  | [], _ => trivial
  | _ :: _, plain => ⟨⟨plain.1.1, plain_arranged plain.1.2⟩, plain_arrangedMembers plain.2⟩

theorem plain_arrangedItems :
    ∀ {items : List Value}, PlainItems items → PlainItems (arrangedItems items)
  | [], _ => trivial
  | _ :: _, plain => ⟨plain_objectsLast (plain_arranged plain.1), plain_arrangedItems plain.2⟩

end

theorem keepsPlain_text? : KeepsPlain text? := by
  intro v text plain ok
  unfold text? at ok
  split at ok
  · cases ok
  · cases ok
    exact plain_itemText (fun _ member => absurd member List.not_mem_nil) (plain_arranged plain)

end Toml

/-! ## Outlines -/

namespace Members

variable {κ α : Type} {same : κ → κ → Bool} {named : κ → Prop} {valued : α → Prop}

theorem forall_put {k : κ} {v : α} (first : named k) (second : valued v) {known : List (κ × α)}
    (before : ∀ m ∈ known, named m.1 ∧ valued m.2) :
    ∀ m ∈ put same k v known, named m.1 ∧ valued m.2 := by
  induction known with
  | nil => exact List.forall_mem_singleton.mpr ⟨first, second⟩
  | cons old rest ih =>
    obtain ⟨old, others⟩ := List.forall_mem_cons.mp before
    unfold put
    split
    · exact List.forall_mem_cons.mpr ⟨⟨old.1, second⟩, others⟩
    · exact List.forall_mem_cons.mpr ⟨old, ih others⟩

/-- Telling members apart makes no new names and no new values. -/
theorem forall_ofList {members : List (κ × α)} (each : ∀ m ∈ members, named m.1 ∧ valued m.2) :
    ∀ m ∈ ofList same members, named m.1 ∧ valued m.2 := by
  suffices grown : ∀ known : List (κ × α), (∀ m ∈ known, named m.1 ∧ valued m.2) →
      ∀ m ∈ members.foldl (fun known m => put same m.1 m.2 known) known,
        named m.1 ∧ valued m.2 from
    grown [] fun _ member => absurd member List.not_mem_nil
  induction members with
  | nil => exact fun known before => before
  | cons m rest ih =>
    obtain ⟨first, others⟩ := List.forall_mem_cons.mp each
    exact fun known before => ih others _ (forall_put first.1 first.2 before)

end Members

namespace Outline

open Value (PlainMembers plainMembers_iff)

theorem plain_nameText {v : Value} (plain : v.Plain) : (Json.nameText v).Plain := by
  cases v with
  | text s => exact plain
  | _ => exact Text.plain_ofString _

theorem plain_byName {members : List (Value × Value)}
    (each : ∀ m ∈ members, m.1.Plain ∧ m.2.Plain) : (byName members).Plain := by
  refine plainMembers_iff.mpr (Members.forall_ofList (List.forall_mem_map.mpr fun m member => ?_))
  obtain ⟨name, value⟩ := Members.forall_ofList each m member
  exact ⟨plain_nameText name, value⟩

theorem plain_given {members : List (String × Value)} (each : ∀ m ∈ members, m.2.Plain) :
    PlainMembers (given members) :=
  plainMembers_iff.mpr (List.forall_mem_map.mpr fun m kept =>
    ⟨Text.plain_ofString m.1, each m (List.mem_filter.mp kept).1⟩)

theorem plain_append {first second : List (Text × Value)} (front : PlainMembers first)
    (back : PlainMembers second) : PlainMembers (first ++ second) :=
  plainMembers_iff.mpr
    (List.forall_mem_append.mpr ⟨plainMembers_iff.mp front, plainMembers_iff.mp back⟩)

theorem plain_always (name : String) {v : Value} (plain : v.Plain) :
    PlainMembers (always name v) := ⟨⟨Text.plain_ofString name, plain⟩, trivial⟩

theorem plain_named {α : Type} {name : α → Value} {body : α → Except Misfit Value}
    {entities : List α} (names : ∀ e ∈ entities, (name e).Plain)
    (bodies : ∀ e ∈ entities, ∀ v, body e = .ok v → v.Plain) {v : Value}
    (ok : named name body entities = .ok v) : v.Plain := by
  obtain ⟨members, made, rfl⟩ := map_eq_ok.mp ok
  refine plain_byName fun m member => ?_
  obtain ⟨e, kept, made⟩ := mem_of_mapM_eq_ok made member
  have listed := (List.mem_filter.mp kept).1
  obtain ⟨value, valued, made⟩ := bind_eq_ok.mp made
  obtain ⟨key, keyed, made⟩ := bind_eq_ok.mp made
  cases made
  unfold Value.asName at keyed
  split at keyed
  · cases keyed
    exact ⟨names e listed, bodies e listed value valued⟩
  · cases keyed

theorem plain_ofField {f : Field} (all : f.All Value.Plain) : (ofField f).Plain := by
  refine plain_given ?_
  simp only [List.forall_mem_cons]
  exact ⟨all.description, all.bitOffset, all.bitWidth, Value.plain_ofString _, nofun⟩

theorem plain_ofRegister {x : Register} (all : x.All Value.Plain) {v : Value}
    (ok : ofRegister x = .ok v) : v.Plain := by
  obtain ⟨fields, made, ok⟩ := bind_eq_ok.mp ok
  cases ok
  have inner : fields.Plain :=
    plain_named (fun f member => (all.fields f member).name) (fun f member v same =>
      Except.ok.inj same ▸ plain_ofField (all.fields f member)) made
  refine plain_append (plain_given ?_) (plain_always _ inner)
  simp only [List.forall_mem_cons]
  exact ⟨all.displayName, all.description, all.addressOffset, all.size, all.resetValue,
    Value.plain_ofString _, nofun⟩

theorem plain_ofAddressBlock {b : AddressBlock} (all : b.All Value.Plain) :
    (ofAddressBlock b).Plain := by
  refine plain_given ?_
  simp only [List.forall_mem_cons]
  exact ⟨all.offset, all.size, all.usage, nofun⟩

theorem plain_ofPeripheral {p : Peripheral} (all : p.All Value.Plain) {v : Value}
    (ok : ofPeripheral p = .ok v) : v.Plain := by
  obtain ⟨registers, made, ok⟩ := bind_eq_ok.mp ok
  cases ok
  have inner : registers.Plain :=
    plain_named (fun x member => (all.registers x member).name)
      (fun x member _ ok => plain_ofRegister (all.registers x member) ok) made
  refine plain_append (plain_append (plain_given ?_) ?_) (plain_always _ inner)
  · simp only [List.forall_mem_cons]
    exact ⟨all.groupName, all.description, all.baseAddress, nofun⟩
  · cases present : p.addressBlock with
    | none => trivial
    | some b => exact plain_always _ (plain_ofAddressBlock (all.addressBlock b present))

theorem plain_ofCpu {c : Cpu} (all : c.All Value.Plain) : (ofCpu c).Plain := by
  refine plain_given ?_
  simp only [List.forall_mem_cons]
  exact ⟨all.name, all.revision, all.endian, all.mpuPresent, all.fpuPresent, all.nvicPrioBits,
    all.vendorSystickConfig, nofun⟩

theorem plain_ownMembers {d : Device} (all : d.OwnAll Value.Plain) :
    PlainMembers (ownMembers d) := by
  refine plain_append (plain_given ?_) ?_
  · simp only [List.forall_mem_cons]
    exact ⟨all.name, all.version, all.description, all.addressUnitBits, all.maxBitWidth,
      all.defaultSize, all.defaultResetValue, all.defaultResetMask, nofun⟩
  · cases present : d.cpu with
    | none => trivial
    | some c => exact plain_always _ (plain_ofCpu (all.cpu c present))

theorem plain_ofInterrupts {d : Device} (all : d.All Value.Plain)
    (listed : Interrupt.Listed d.interrupts) {v : Value} (ok : ofInterrupts d = .ok v) :
    v.Plain := by
  rw [ofInterrupts_eq listed] at ok
  have stored : ∀ i ∈ (sortedInterrupts d.interrupts).map Prod.snd, i.All Value.Plain :=
    List.forall_mem_map.mpr fun entry member =>
      all.interrupts entry ((sortedInterrupts_perm d.interrupts).mem_iff.mp member)
  exact plain_named (fun i member => (stored i member).name)
    (fun i member v same => Except.ok.inj same ▸ (stored i member).vector) ok

end Outline

theorem Device.plain_outline {d : Device} (all : d.All Value.Plain)
    (listed : Interrupt.Listed d.interrupts) {s : Selection} {v : Value}
    (ok : (d.outline s).result = .ok v) : v.Plain := by
  obtain ⟨_, checked, -⟩ := Report.bind_eq_ok.mp ok
  rw [outline_result checked] at ok
  obtain ⟨peripherals, made, ok⟩ := bind_eq_ok.mp ok
  obtain ⟨interrupts, shown, ok⟩ := bind_eq_ok.mp ok
  cases ok
  have outlined : ∀ p ∈ d.outlined s, p.All Value.Plain :=
    fun p member => all.peripherals p (List.mem_filter.mp member).1
  have inner : peripherals.Plain :=
    Outline.plain_named (fun p member => (outlined p member).name)
      (fun p member _ ok => Outline.plain_ofPeripheral (outlined p member) ok) made
  exact Outline.plain_append (Outline.plain_append (Outline.plain_ownMembers all.own)
    (Outline.plain_always _ inner))
    (Outline.plain_always _ (Outline.plain_ofInterrupts all listed shown))

/-! ## Settings -/

namespace Document

structure Settings.Plain (o : Settings) : Prop where
  registerSize : o.registerSize.Plain
  resetValue : o.resetValue.Plain

theorem Settings.plain_default : ({} : Settings).Plain := ⟨trivial, trivial⟩

theorem Settings.Plain.set {o after : Settings} (before : o.Plain) {member : Text × Value}
    (plain : member.2.Plain) (ok : o.set member = .ok after) : after.Plain := by
  unfold Settings.set at ok
  split at ok
  · cases ok
    exact { before with registerSize := plain }
  · split at ok
    · cases ok
      exact { before with resetValue := plain }
    · split at ok <;> cases ok

theorem Settings.Plain.setAll {o after : Settings} (before : o.Plain)
    {members : List (Text × Value)} (plain : Value.PlainMembers members)
    (ok : members.foldlM Settings.set o = .ok after) : after.Plain := by
  induction members generalizing o with
  | nil =>
    cases ok
    exact before
  | cons member rest ih =>
    rw [List.foldlM_cons] at ok
    obtain ⟨between, first, ok⟩ := bind_eq_ok.mp ok
    exact ih (before.set plain.1.2 first) plain.2 ok

theorem Settings.plain_ofValue {v : Value} (plain : v.Plain) {o : Settings}
    (ok : Settings.ofValue v = .ok o) : o.Plain := by
  unfold Settings.ofValue at ok
  split at ok
  · cases ok
    exact plain_default
  · split at ok
    · exact Settings.plain_default.setAll plain ok
    · cases ok

theorem Told.plain {o : Settings} (plain : o.Plain) {lines : List String} {v : Value}
    (told : Told o lines v) : v.Plain := by
  cases told with
  | unset => trivial
  | empty => exact Text.all_nil
  | size => exact plain.registerSize
  | reset => exact plain.resetValue
  | content member tagged said means =>
    cases means with
    | text => exact Value.plain_ofString _
    | word | truth => trivial

end Document

/-! ## Commands -/

namespace Command

theorem plain_settingsOf {request : Request}
    (plain : ∀ v, request.parseOptions = some (.value v) → v.Plain) {o : Document.Settings}
    (ok : settingsOf request = .ok o) : o.Plain := by
  unfold settingsOf at ok
  split at ok
  · rename_i v given
    exact Document.Settings.plain_ofValue (plain v given) (mapError_eq_ok.mp ok)
  · cases ok
    exact Document.Settings.plain_default
  · cases ok
    exact Document.Settings.plain_default

theorem plain_sourceText {lines : List Text} (each : ∀ line ∈ lines, line.Plain) :
    (Zig.sourceText lines).Plain :=
  Text.all_append.mpr
    ⟨Text.all_intercalate (Text.plain_ofString _) each, Text.plain_ofString _⟩

/-- With plain settings, the text that a command makes of a description is plain. -/
theorem plain_textFor {toml : Value → Option Text} (keeps : Toml.KeepsPlain toml)
    {o : Document.Settings} (plain : o.Plain) {lines : List String} {request : Request}
    {text : Text} (ok : (textFor toml request (Document.read o lines).device).1 = .ok text) :
    text.Plain := by
  have fits := Document.fitsUnder_read o lines
  have listed := fits.interrupts.listed
  unfold textFor at ok
  dsimp only at ok
  split at ok
  · obtain ⟨out, rendered, ok⟩ := Report.bind_eq_ok.mp (mapError_eq_ok.mp ok)
    cases ok
    have shown : ∀ v, Document.Told o lines v → Zig.Shown CodePoint.Plain v :=
      fun _ told => (told.plain plain).display
    exact plain_sourceText
      (Zig.all_of_rendered plain_ascii (Document.all_read shown) fits.own listed rendered)
  · obtain ⟨outline, made, ok⟩ := bind_eq_ok.mp ok
    have all : (Document.read o lines).device.All Value.Plain :=
      Document.all_read fun _ told => told.plain plain
    have plain := Device.plain_outline all listed (mapError_eq_ok.mp made)
    unfold outlineText at ok
    split at ok
    · cases ok
    · cases ok
      exact Text.all_append.mpr ⟨Text.plain_ofString _, Text.plain_ofString _⟩
    · split at ok
      · cases ok
        exact keeps outline text plain ‹_›
      · cases ok

end Command

end RegisterMap
