import RegisterMap.Proofs.InterruptTable
import RegisterMap.Proofs.Reader.Provenance
import RegisterMap.Proofs.Results
import RegisterMap.Proofs.Zig.Sections

/-!
The characters of a rendered device. A predicate on code points that allows all printable ASCII
characters, and those of all values of the device, allows every code point of its lines: all else in
them is fixed text and digits.
-/

set_option autoImplicit false

namespace RegisterMap

/-! ## Texts -/

/-- Every code point of the text is allowed. -/
def Text.All (allowed : CodePoint → Prop) (t : Text) : Prop := ∀ p ∈ t, allowed p

def isPrintableAscii (c : Char) : Bool := 0x20 ≤ c.toNat && c.toNat < 0x7F

/-- Every printable ASCII character is allowed. -/
def AllowsAscii (allowed : CodePoint → Prop) : Prop :=
  ∀ c : Char, isPrintableAscii c = true → allowed (.char c)

namespace Text

variable {allowed : CodePoint → Prop}

@[simp] theorem all_nil : All allowed [] := nofun

@[simp] theorem all_append {s t : Text} : All allowed (s ++ t) ↔ All allowed s ∧ All allowed t :=
  List.forall_mem_append

@[simp] theorem ofString_append (s t : String) : ofString (s ++ t) = ofString s ++ ofString t := by
  simp [ofString, ofChars]

theorem all_ofString_iff {s : String} :
    All allowed (ofString s) ↔ ∀ c ∈ s.toList, allowed (.char c) :=
  List.forall_mem_map

theorem all_ofString (ascii : AllowsAscii allowed) {s : String}
    (printable : s.toList.all isPrintableAscii = true) : All allowed (ofString s) :=
  all_ofString_iff.mpr fun c member => ascii c (List.all_eq_true.mp printable c member)

theorem all_intercalate {separator : Text} {parts : List Text} (between : All allowed separator)
    (each : ∀ part ∈ parts, All allowed part) : All allowed (intercalate separator parts) := by
  unfold intercalate
  induction parts with
  | nil => exact all_nil
  | cons part rest ih =>
    obtain ⟨first, others⟩ := List.forall_mem_cons.mp each
    cases rest with
    | nil => simpa [List.intercalate] using first
    | cons next rest =>
      rw [List.intercalate_cons_cons, all_append, all_append]
      exact ⟨⟨first, between⟩, ih others⟩

/-! ## Numerals -/

theorem printable_of_digit {base : Nat} {c : Char} (digit : Numeral.digit? base c ≠ none) :
    isPrintableAscii c = true := by
  simp only [isPrintableAscii, Bool.and_eq_true, decide_eq_true_eq]
  unfold Numeral.digit? at digit
  by_contra outside
  apply digit
  grind

theorem all_text (ascii : AllowsAscii allowed) {base : Nat} (base_ge : 2 ≤ base)
    (base_le : base ≤ 16) (n : Nat) : All allowed (ofString (Numeral.text base n)) :=
  all_ofString_iff.mpr fun c member =>
    ascii c (printable_of_digit (Numeral.digit?_ne_none_of_mem_text base_ge base_le member))

theorem all_signedText (ascii : AllowsAscii allowed) {base : Nat} (base_ge : 2 ≤ base)
    (base_le : base ≤ 16) (n : Int) : All allowed (ofString (Numeral.signedText base n)) := by
  cases n with
  | ofNat n => exact all_text ascii base_ge base_le n
  | negSucc n =>
    unfold Numeral.signedText
    rw [ofString_append, all_append]
    exact ⟨all_ofString ascii (by decide), all_text ascii base_ge base_le (n + 1)⟩

theorem all_decimalText (ascii : AllowsAscii allowed) (n : Int) :
    All allowed (ofString (Numeral.decimalText n)) :=
  all_signedText ascii (by decide) (by decide) n

theorem all_paddedHex (ascii : AllowsAscii allowed) (width n : Nat) :
    All allowed (ofString (Numeral.paddedHex width n)) := by
  unfold Numeral.paddedHex
  rw [ofString_append, all_append]
  refine ⟨all_ofString ascii ?_, all_text ascii (by decide) (by decide) n⟩
  rw [String.toList_ofList, List.all_eq_true]
  intro c member
  rw [List.eq_of_mem_replicate member]
  decide

end Text

namespace Zig

open Text (All all_ofString all_append)

variable {allowed : CodePoint → Prop}

theorem all_hexLiteral (ascii : AllowsAscii allowed) (n : Int) :
    All allowed (Text.ofString (hexLiteral n)) := by
  unfold hexLiteral
  rw [Text.ofString_append, all_append]
  exact ⟨all_ofString ascii (by decide), Text.all_signedText ascii (by decide) (by decide) n⟩

theorem all_literalChar (ascii : AllowsAscii allowed) {c : Char} (held : allowed (.char c)) :
    All allowed (Text.ofString (literalChar c)) := by
  unfold literalChar
  split
  case h_6 =>
    split
    · rw [Text.ofString_append, all_append]
      exact ⟨all_ofString ascii (by decide), Text.all_paddedHex ascii 2 _⟩
    · exact Text.all_ofString_iff.mpr (by simpa using held)
  all_goals exact all_ofString ascii (by decide)

theorem all_literal (ascii : AllowsAscii allowed) {s : Text} (all : All allowed s) :
    All allowed (literal s) := by
  have quote : All allowed (Text.ofString "\"") := all_ofString ascii (by decide)
  unfold literal
  rw [all_append, all_append]
  refine ⟨⟨quote, fun p member => ?_⟩, quote⟩
  obtain ⟨q, inside, escaped⟩ := List.mem_flatMap.mp member
  cases q with
  | char c => exact all_literalChar ascii (all _ inside) p escaped
  | half code =>
    rw [List.mem_singleton.mp escaped]
    exact all _ inside

/-! ## Declarations -/

/-- All texts in the member, and the forms of all values in it, are allowed. -/
def Member.Of (allowed : CodePoint → Prop) : Member → Prop
  | .doc comment => All allowed comment
  | .string name value => All allowed name ∧ All allowed value
  | .flag name _ => All allowed name
  | .plain name value => All allowed name ∧ All allowed value.display

def Declaration.Of (allowed : CodePoint → Prop) : Declaration → Prop
  | .blank => True
  | .remark comment => All allowed comment
  | .doc comment => All allowed comment
  | .string name value => All allowed name ∧ All allowed value
  | .plain name value => All allowed name ∧ All allowed value.display
  | .struct name members => All allowed name ∧ ∀ m ∈ members, m.Of allowed
  | .baseAddress peripheral _ => All allowed peripheral
  | .address register _ _ => All allowed register
  | .resetValue register wordType _ => All allowed register ∧ All allowed wordType
  | .writer register wordType _ => All allowed register ∧ All allowed wordType
  | .reader register wordType => All allowed register ∧ All allowed wordType
  | .fieldOffset field offset => All allowed field ∧ All allowed offset.display
  | .fieldMask field _ => All allowed field
  | .fieldSetter field _ offset => All allowed field ∧ All allowed offset.display

theorem all_constant (ascii : AllowsAscii allowed) {name value : Text} (named : All allowed name)
    (valued : All allowed value) : All allowed (constant name value) := by
  unfold constant
  simp only [all_append]
  refine ⟨⟨⟨⟨?_, named⟩, ?_⟩, valued⟩, ?_⟩ <;> exact all_ofString ascii (by decide)

theorem all_docLine (ascii : AllowsAscii allowed) {comment : Text} (all : All allowed comment) :
    All allowed (docLine comment) := by
  unfold docLine
  rw [all_append]
  exact ⟨all_ofString ascii (by decide), all⟩

theorem all_indented (ascii : AllowsAscii allowed) {line : Text} (all : All allowed line) :
    All allowed (indented line) := by
  unfold indented
  rw [all_append]
  exact ⟨all_ofString ascii (by decide), all⟩

theorem Member.Of.line (ascii : AllowsAscii allowed) {m : Member} (of : m.Of allowed) :
    All allowed m.line := by
  cases m with
  | doc comment => exact all_docLine ascii of
  | string name value => exact all_constant ascii of.1 (all_literal ascii of.2)
  | flag name value =>
    refine all_constant ascii of ?_
    cases value <;> exact all_ofString ascii (by decide)
  | plain name value => exact all_constant ascii of.1 of.2

theorem all_functionOpening (ascii : AllowsAscii allowed) {signature : Text}
    (all : All allowed signature) : All allowed (functionOpening signature) := by
  unfold functionOpening
  rw [all_append, all_append]
  exact ⟨⟨all_ofString ascii (by decide), all⟩, all_ofString ascii (by decide)⟩

theorem all_pointerLine (ascii : AllowsAscii allowed) {register wordType : Text}
    (named : All allowed register) (typed : All allowed wordType) :
    All allowed (pointerLine register wordType) := by
  unfold pointerLine
  simp only [all_append]
  refine ⟨⟨⟨⟨?_, typed⟩, ?_⟩, named⟩, ?_⟩ <;> exact all_ofString ascii (by decide)

theorem all_closing (ascii : AllowsAscii allowed) : All allowed closing :=
  all_ofString ascii (by decide)

theorem all_suffixed (ascii : AllowsAscii allowed) {name : Text} (all : All allowed name)
    {suffix : String} (printable : suffix.toList.all isPrintableAscii = true) :
    All allowed (name ++ suffix) :=
  all_append.mpr ⟨all, all_ofString ascii printable⟩

theorem Declaration.Of.lines (ascii : AllowsAscii allowed) {x : Declaration} (of : x.Of allowed) :
    ∀ line ∈ x.lines, All allowed line := by
  have fixed (s : String) (printable : s.toList.all isPrintableAscii = true) :
      All allowed (Text.ofString s) := all_ofString ascii printable
  have hex := all_hexLiteral ascii
  have closed := all_closing ascii
  have one {line : Text} (all : All allowed line) : ∀ l ∈ [line], All allowed l :=
    List.forall_mem_singleton.mpr all
  cases x with
  | blank => exact one Text.all_nil
  | remark comment => exact one (all_append.mpr ⟨fixed "// " (by decide), of⟩)
  | doc comment => exact one (all_docLine ascii of)
  | string name value => exact one (all_constant ascii of.1 (all_literal ascii of.2))
  | plain name value => exact one (all_constant ascii of.1 of.2)
  | struct name members =>
    have inner : ∀ m ∈ members, All allowed (indented m.line) :=
      fun m member => all_indented ascii (Member.Of.line ascii (of.2 m member))
    have opening : All allowed (structOpening name) := by
      simp (disch := decide) only [structOpening, all_append, of.1, fixed, and_self]
    have ending : All allowed (closing ++ ";") := all_suffixed ascii closed (by decide)
    refine List.forall_mem_append.mpr ⟨?_, one ending⟩
    exact List.forall_mem_cons.mpr ⟨opening, List.forall_mem_map.mpr inner⟩
  | baseAddress peripheral base =>
    exact one (all_constant ascii (all_suffixed ascii of (by decide)) (hex base))
  | address register base offset =>
    refine one (all_constant ascii (all_suffixed ascii of (by decide)) ?_)
    simp (disch := decide) only [all_append, fixed, hex, and_self]
  | resetValue register wordType value =>
    refine one (all_constant ascii (all_append.mpr ⟨?_, of.2⟩) (hex value))
    exact all_suffixed ascii of.1 (by decide)
  | writer register wordType mask =>
    have signature : All allowed (register ++ "_Write(setting: " ++ wordType ++ ") void") := by
      simp (disch := decide) only [all_append, fixed, of.1, of.2, and_self]
    have writing : All allowed
        (Text.ofString "const write_mask = " ++ hexLiteral mask ++ ";") := by
      simp (disch := decide) only [all_append, fixed, hex, and_self]
    simp only [Declaration.lines, List.forall_mem_cons]
    exact ⟨all_functionOpening ascii signature, all_indented ascii writing,
      all_indented ascii (all_pointerLine ascii of.1 of.2),
      all_indented ascii (fixed _ (by decide)), closed, nofun⟩
  | reader register wordType =>
    have signature : All allowed (register ++ "_Read() " ++ wordType) := by
      simp (disch := decide) only [all_append, fixed, of.1, of.2, and_self]
    simp only [Declaration.lines, List.forall_mem_cons]
    exact ⟨all_functionOpening ascii signature,
      all_indented ascii (all_pointerLine ascii of.1 of.2),
      all_indented ascii (fixed _ (by decide)), closed, nofun⟩
  | fieldOffset field offset =>
    exact one (all_constant ascii (all_suffixed ascii of.1 (by decide)) of.2)
  | fieldMask field mask =>
    exact one (all_constant ascii (all_suffixed ascii of (by decide)) (hex mask))
  | fieldSetter field mask offset =>
    have shifting : All allowed
        ("return (setting & " ++ hexLiteral mask ++ ") << " ++ offset.display ++ ";") := by
      simp (disch := decide) only [all_append, fixed, hex, of.2, and_self]
    have signature : All allowed (field ++ "(setting: u32) u32") :=
      all_suffixed ascii of.1 (by decide)
    simp only [Declaration.lines, List.forall_mem_cons]
    exact ⟨all_functionOpening ascii signature, all_indented ascii shifting, closed, nofun⟩

/-! ## Sections -/

/-- Declarations of which all texts are allowed. -/
def AllOf (allowed : CodePoint → Prop) (declarations : List Declaration) : Prop :=
  ∀ x ∈ declarations, x.Of allowed

theorem allOf_append {xs ys : List Declaration} (first : AllOf allowed xs)
    (second : AllOf allowed ys) : AllOf allowed (xs ++ ys) :=
  List.forall_mem_append.mpr ⟨first, second⟩

theorem allOf_sections {sections : List (List Declaration)}
    (each : ∀ part ∈ sections, AllOf allowed part) :
    AllOf allowed (sections.flatMap (.blank :: ·)) :=
  forall_mem_sections trivial each

theorem allOf_remark (ascii : AllowsAscii allowed) {comment : String}
    (printable : comment.toList.all isPrintableAscii = true) :
    AllOf allowed [.remark comment] :=
  List.forall_mem_singleton.mpr (all_ofString ascii printable)

/-- Only allowed characters stand in the form of the value. -/
def Shown (allowed : CodePoint → Prop) (v : Value) : Prop := All allowed v.display

theorem all_described (ascii : AllowsAscii allowed) {description : Value}
    (held : Shown allowed description) : (described description).Of allowed := by
  change All allowed (description.orElse _).display
  unfold Value.orElse
  split
  · exact all_ofString ascii (by decide)
  · exact held

theorem all_joined (ascii : AllowsAscii allowed) {names : List Value}
    (held : ∀ v ∈ names, Shown allowed v) : All allowed (joined names) := by
  refine Text.all_intercalate (all_ofString ascii (by decide)) fun part member => ?_
  obtain ⟨v, listed, rfl⟩ := List.mem_map.mp member
  exact held v listed

theorem allOf_plainIfSet {name : Text} {v : Value} (named : All allowed name)
    (held : Shown allowed v) : AllOf allowed (plainIfSet name v) := by
  unfold plainIfSet
  split
  · exact nofun
  · exact List.forall_mem_singleton.mpr ⟨named, held⟩

theorem yields_all_ofField (ascii : AllowsAscii allowed) {f : Field} (all : f.All (Shown allowed)) :
    Yields (AllOf allowed) (ofField f) := by
  unfold ofField
  split
  · exact yields_pure (allOf_remark ascii (by decide))
  split
  · have name : All allowed (joined [f.peripheralName, f.registerName, f.name]) := by
      apply all_joined ascii
      simp [all.peripheralName, all.registerName, all.name]
    have offset := all.bitOffset
    refine (yields_any _).bind fun mask _ => (yields_any _).bind fun valueMask _ => ?_
    refine yields_pure ?_
    simp only [AllOf, List.forall_mem_cons]
    exact ⟨all_described ascii all.description, ⟨name, offset⟩, name, ⟨name, offset⟩, nofun⟩
  · exact yields_pure (allOf_remark ascii (by decide))

theorem allOf_accessors {name wordType : Text} {access : Access} {mask : Nat}
    (named : All allowed name) (typed : All allowed wordType) :
    AllOf allowed (accessors name wordType access mask) := by
  unfold accessors
  refine allOf_append ?_ ?_
  · split
    · exact List.forall_mem_singleton.mpr ⟨named, typed⟩
    · exact nofun
  · split
    · exact List.forall_mem_singleton.mpr ⟨named, typed⟩
    · exact nofun

theorem yields_all_ofRegister (ascii : AllowsAscii allowed) (base : Int) {x : Register}
    (all : x.All (Shown allowed)) : Yields (AllOf allowed) (ofRegister base x) := by
  unfold ofRegister
  split
  · have name : All allowed (joined [x.peripheralName, x.name]) := by
      apply all_joined ascii
      simp [all.peripheralName, all.name]
    have wordType : All allowed ("u" ++ x.size.display) :=
      all_append.mpr ⟨all_ofString ascii (by decide), all.size⟩
    refine (yields_any _).bind fun mask _ => (yields_any _).bind fun access _ => ?_
    refine (yields_any _).bind fun offset _ => (yields_any _).bind fun reset _ => ?_
    refine (yields_forall_mapM fun f member => yields_all_ofField ascii
      (all.fields f member)).bind fun fields each => yields_pure ?_
    refine allOf_append (allOf_append ?_ (allOf_accessors name wordType)) (allOf_sections each)
    simp only [AllOf, List.forall_mem_cons]
    exact ⟨all_described ascii all.description, name, ⟨name, wordType⟩, nofun⟩
  · exact yields_pure (allOf_remark ascii (by decide))

theorem yields_all_ofPeripheral (ascii : AllowsAscii allowed) {p : Peripheral}
    (all : p.All (Shown allowed)) : Yields (AllOf allowed) (ofPeripheral p) := by
  unfold ofPeripheral
  split
  · refine (yields_any _).bind fun base _ => ?_
    refine (yields_forall_mapM fun x member => yields_all_ofRegister ascii base
      (all.registers x member)).bind fun registers each => yields_pure ?_
    refine allOf_append ?_ (allOf_sections each)
    simp only [AllOf, List.forall_mem_cons]
    exact ⟨all_described ascii all.description, all.name, nofun⟩
  · exact yields_pure (allOf_remark ascii (by decide))

theorem all_spelled (ascii : AllowsAscii allowed) {v : Value} {t : Text}
    (held : Shown allowed v) (text : v.IsText) (ok : spelled v = .ok t) : All allowed t := by
  obtain ⟨s, rfl⟩ := text
  unfold spelled at ok
  split at ok
  · cases ok
    exact all_ofString ascii (by decide)
  · cases ok
    exact held

theorem allOf_ofCpu (ascii : AllowsAscii allowed) {c : Cpu} (all : c.All (Shown allowed))
    (fits : c.Fits) {declarations : List Declaration} (ok : ofCpu c = .ok declarations) :
    AllOf allowed declarations := by
  have fixed (s : String) (printable : s.toList.all isPrintableAscii = true) :
      All allowed (Text.ofString s) := all_ofString ascii printable
  unfold ofCpu at ok
  obtain ⟨name, named, ok⟩ := bind_eq_ok.mp ok
  obtain ⟨revision, revised, ok⟩ := bind_eq_ok.mp ok
  obtain ⟨endian, ordered, ok⟩ := bind_eq_ok.mp ok
  cases ok
  refine List.forall_mem_singleton.mpr ⟨fixed _ (by decide), ?_⟩
  refine List.forall_mem_append.mpr ⟨?_, ?_⟩
  · simp only [List.forall_mem_cons]
    exact ⟨⟨fixed _ (by decide), all_spelled ascii all.name fits.name named⟩,
      ⟨fixed _ (by decide), all_spelled ascii all.revision fits.revision revised⟩,
      ⟨fixed _ (by decide), all_spelled ascii all.endian fits.endian ordered⟩,
      fixed _ (by decide), fixed _ (by decide), fixed _ (by decide), nofun⟩
  · split
    · exact nofun
    · exact List.forall_mem_singleton.mpr ⟨fixed _ (by decide), all.nvicPrioBits⟩

theorem allOf_dataSections (ascii : AllowsAscii allowed) {d : Device}
    (all : d.OwnAll (Shown allowed)) (fits : d.OwnFits) {declarations : List Declaration}
    (ok : dataSections d = .ok declarations) : AllOf allowed declarations := by
  have fixed (s : String) (printable : s.toList.all isPrintableAscii = true) :
      All allowed (Text.ofString s) := all_ofString ascii printable
  unfold dataSections at ok
  obtain ⟨own, made, ok⟩ := bind_eq_ok.mp ok
  obtain ⟨cpu, processed, ok⟩ := bind_eq_ok.mp ok
  cases ok
  refine allOf_append ?_ (allOf_sections ?_)
  · unfold deviceSection at made
    obtain ⟨name, named, made⟩ := bind_eq_ok.mp made
    obtain ⟨version, versioned, made⟩ := bind_eq_ok.mp made
    obtain ⟨description, descriptive, made⟩ := bind_eq_ok.mp made
    cases made
    refine allOf_append (allOf_append ?_ ?_) ?_
    · simp only [AllOf, List.forall_mem_cons]
      exact ⟨⟨fixed _ (by decide), all_spelled ascii all.name fits.name named⟩,
        ⟨fixed _ (by decide), all_spelled ascii all.version fits.version versioned⟩,
        ⟨fixed _ (by decide),
          all_spelled ascii all.description fits.description descriptive⟩, nofun⟩
    · exact allOf_plainIfSet (fixed _ (by decide)) all.addressUnitBits
    · exact allOf_plainIfSet (fixed _ (by decide)) all.maxBitWidth
  · cases present : d.cpu with
    | none =>
      rw [present] at processed
      cases processed
      exact nofun
    | some c =>
      rw [present, Option.toList_some, List.mapM_cons] at processed
      obtain ⟨part, rendered, processed⟩ := bind_eq_ok.mp processed
      cases processed
      refine List.forall_mem_singleton.mpr ?_
      exact allOf_ofCpu ascii (all.cpu c present) (fits.cpu c present) rendered

theorem of_ofInterrupt {i : Interrupt} (all : i.All (Shown allowed)) :
    ∀ m ∈ ofInterrupt i, m.Of allowed := by
  unfold ofInterrupt
  split
  · exact nofun
  · refine List.forall_mem_append.mpr ⟨?_, ?_⟩
    · split
      · exact nofun
      · exact List.forall_mem_singleton.mpr all.description
    · exact List.forall_mem_singleton.mpr ⟨all.name, all.vector⟩

theorem yields_all_ofDevice (ascii : AllowsAscii allowed) {d : Device} (all : d.All (Shown allowed))
    (own : d.OwnFits) (listed : Interrupt.Listed d.interrupts) (s : Selection) :
    Yields (AllOf allowed) (ofDevice d s) := by
  unfold ofDevice
  refine (yields_lift fun _ ok => allOf_dataSections ascii all.own own ok).bind
    fun data first => ?_
  refine (yields_forall_mapM fun p member => yields_all_ofPeripheral ascii
    (all.peripherals p (List.mem_filter.mp member).1)).bind fun peripherals each => ?_
  refine (yields_lift fun _ ok => ok).bind fun interrupts table => yields_pure ?_
  refine allOf_append (allOf_append first (allOf_sections each)) ?_
  simp only [AllOf, List.forall_mem_cons]
  refine ⟨trivial, ⟨all_ofString ascii (by decide), fun m member => ?_⟩, nofun⟩
  obtain ⟨i, entry, inside⟩ := List.mem_flatMap.mp member
  rw [interruptTable_eq listed] at table
  cases table
  obtain ⟨stored, sorted, rfl⟩ := List.mem_map.mp entry
  have known := (sortedInterrupts_perm d.interrupts).mem_iff.mp sorted
  exact of_ofInterrupt (all.interrupts stored known) m inside

/-- Only allowed characters stand in the lines that a device is rendered as. -/
theorem all_of_rendered (ascii : AllowsAscii allowed) {d : Device} (all : d.All (Shown allowed))
    (own : d.OwnFits) (listed : Interrupt.Listed d.interrupts) {s : Selection} {masks : Masks}
    {lines : List Text} (rendered : (renderKnowing masks d s).1.result = .ok lines) :
    ∀ line ∈ lines, All allowed line := by
  obtain ⟨declarations, of, rfl⟩ := declarations_of_rendered rendered
    (yields_all_ofDevice ascii all own listed s)
  intro line member
  obtain ⟨x, declared, inside⟩ := List.mem_flatMap.mp member
  exact (of x declared).lines ascii line inside

end Zig

end RegisterMap
