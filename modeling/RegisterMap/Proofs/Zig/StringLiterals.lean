import RegisterMap.Proofs.Numeral.Grammar
import RegisterMap.Proofs.Zig.Characters

/-!
Reading string literals of Zig. The reader knows the grammar of literals only, not how they are
written here. It takes every text back from its literal, stops where the literal ends whatever
comes after it, and meets no control character.
-/

set_option autoImplicit false

namespace RegisterMap.Zig

open Numeral (digit? digitChar paddedHex)

/-! ## The grammar of string literals -/

/-- A character that may stand in a literal only as an escape by its code. -/
def IsControl (c : Char) : Prop := c.toNat < 0x20 ∨ c.toNat = 0x7F

instance (c : Char) : Decidable (IsControl c) := inferInstanceAs (Decidable (_ ∨ _))

/-- The character that a backslash and a letter stand for. -/
def escapeLetter? : Char → Option Char
  | '\\' => some '\\'
  | '"' => some '"'
  | 'n' => some '\n'
  | 'r' => some '\r'
  | 't' => some '\t'
  | _ => none

/-- The character whose code has these two digits. -/
def escapeCode? (high low : Char) : Option Char := do
  let high ← digit? 16 high
  let low ← digit? 16 low
  return .ofNat (high * 16 + low)

/-- A point in front of what is read after it. -/
def precededBy (p : CodePoint) (read : Option (Text × Text)) : Option (Text × Text) :=
  read.map fun (contents, rest) => (p :: contents, rest)

/-- The contents of a literal and the text after its closing quote. -/
def contents? : Text → Option (Text × Text)
  | [] => none
  | .char '"' :: rest => some ([], rest)
  | .char '\\' :: .char 'x' :: .char high :: .char low :: rest => do
    let c ← escapeCode? high low
    precededBy (.char c) (contents? rest)
  | .char '\\' :: .char letter :: rest => do
    let c ← escapeLetter? letter
    precededBy (.char c) (contents? rest)
  | .char c :: rest =>
    if c = '\\' ∨ IsControl c then none else precededBy (.char c) (contents? rest)
  | .half code :: rest => precededBy (.half code) (contents? rest)

/-- What the literal in front of a text stands for, and the text after it. -/
def readLiteral? : Text → Option (Text × Text)
  | .char '"' :: rest => contents? rest
  | _ => none

/-! ## Characters in literals -/

/-- How a character is written in a literal. -/
inductive WrittenAs (c : Char) : List Char → Prop
  | plain (quoted : c ≠ '"') (escaping : c ≠ '\\') (visible : ¬IsControl c) : WrittenAs c [c]
  | letter {letter : Char} (named : escapeLetter? letter = some c) : WrittenAs c ['\\', letter]
  | code {high low : Char} (coded : escapeCode? high low = some c) :
    WrittenAs c ['\\', 'x', high, low]

/-- The code of a control character has two digits. -/
theorem paddedHex_control {c : Char} (control : IsControl c) :
    (paddedHex 2 c.toNat).toList = [digitChar (c.toNat / 16), digitChar (c.toNat % 16)] := by
  have below : c.toNat < 0x80 := by
    unfold IsControl at control
    omega
  exact Numeral.of_code_lt
    (fun c => (paddedHex 2 c.toNat).toList = [digitChar (c.toNat / 16), digitChar (c.toNat % 16)])
    (by decide +kernel) below

theorem escapeCode?_digits {c : Char} (small : c.toNat < 0x100) :
    escapeCode? (digitChar (c.toNat / 16)) (digitChar (c.toNat % 16)) = some c := by
  have high := Numeral.digit?_digitChar (show c.toNat / 16 < 16 by omega) le_rfl
  have low := Numeral.digit?_digitChar (show c.toNat % 16 < 16 by omega) le_rfl
  rw [escapeCode?, high, low]
  change some (Char.ofNat (c.toNat / 16 * 16 + c.toNat % 16)) = some c
  rw [Nat.div_add_mod', Char.ofNat_toNat]

theorem writtenAs_literalChar (c : Char) : WrittenAs c (literalChar c).toList := by
  unfold literalChar
  split
  case h_1 | h_2 | h_3 | h_4 | h_5 => exact .letter rfl
  case h_6 escaping quoted _ _ _ =>
    split
    case isTrue control =>
      have short : IsControl c := by simpa [IsControl] using control
      rw [String.toList_append, paddedHex_control short]
      refine .code (escapeCode?_digits ?_)
      unfold IsControl at short
      omega
    case isFalse visible =>
      rw [String.toList_singleton]
      exact .plain quoted escaping (by simpa [IsControl] using visible)

/-! ## Texts in literals -/

/-- A code point that is no control character. -/
def IsVisible : CodePoint → Prop
  | .char c => ¬IsControl c
  | .half _ => True

theorem not_isControl_of_digit {a : Char} {d : Nat} (read : digit? 16 a = some d) :
    ¬IsControl a := by
  have printable := Text.printable_of_digit (show digit? 16 a ≠ none by rw [read]; nofun)
  simp only [isPrintableAscii, Bool.and_eq_true, decide_eq_true_eq] at printable
  unfold IsControl
  omega

theorem WrittenAs.not_isControl {c : Char} {written : List Char} (form : WrittenAs c written) :
    ∀ a ∈ written, ¬IsControl a := by
  cases form with
  | plain _ _ visible => simpa using visible
  | @letter letter named =>
    have visible : ¬IsControl letter := by
      unfold escapeLetter? at named
      split at named <;> first | decide | cases named
    simpa using ⟨by decide, visible⟩
  | @code high low coded =>
    obtain ⟨_, first, coded⟩ := Option.bind_eq_some_iff.mp coded
    obtain ⟨_, second, _⟩ := Option.bind_eq_some_iff.mp coded
    simpa using ⟨by decide, by decide, not_isControl_of_digit first, not_isControl_of_digit second⟩

/-- A character is taken back from the way it is written, whatever comes after it. -/
theorem contents?_writtenAs {c : Char} {written : List Char} (form : WrittenAs c written)
    (rest : Text) :
    contents? (.ofChars written ++ rest) = precededBy (.char c) (contents? rest) := by
  cases form with
  | plain quoted escaping visible => simp [Text.ofChars, contents?, escaping, visible]
  | letter named =>
    unfold escapeLetter? at named
    split at named <;> cases named <;> simp [Text.ofChars, contents?, escapeLetter?]
  | code coded => simp [Text.ofChars, contents?, coded]

theorem contents?_literalPoint (p : CodePoint) (rest : Text) :
    contents? (literalPoint p ++ rest) = precededBy p (contents? rest) := by
  cases p with
  | char c => exact contents?_writtenAs (writtenAs_literalChar c) rest
  | half code => rfl

/-- What is written for a text is taken back up to the quote that closes it. -/
theorem contents?_flatMap (t rest : Text) :
    contents? (t.flatMap literalPoint ++ (.char '"' :: rest)) = some (t, rest) := by
  induction t with
  | nil => rfl
  | cons p t ih =>
    rw [List.flatMap_cons, List.append_assoc, contents?_literalPoint, ih]
    rfl

theorem readLiteral?_literal (t rest : Text) :
    readLiteral? (literal t ++ rest) = some (t, rest) := by
  have opened : literal t ++ rest =
      .char '"' :: (t.flatMap literalPoint ++ (.char '"' :: rest)) := by
    simp [literal, Text.ofString, Text.ofChars]
  rw [opened]
  exact contents?_flatMap t rest

theorem literal_injective : Function.Injective literal := by
  intro t u same
  have read := readLiteral?_literal t []
  rw [same, readLiteral?_literal u []] at read
  cases read
  rfl

theorem all_isVisible_literal (t : Text) : Text.All IsVisible (literal t) := by
  have quote : Text.All IsVisible (Text.ofString "\"") := by
    rw [Text.all_ofString_iff]
    simp [IsVisible, IsControl]
  rw [literal, Text.all_append, Text.all_append]
  refine ⟨⟨quote, fun q written => ?_⟩, quote⟩
  obtain ⟨p, -, written⟩ := List.mem_flatMap.mp written
  cases p with
  | char c =>
    obtain ⟨a, character, rfl⟩ := List.mem_map.mp written
    exact (writtenAs_literalChar c).not_isControl a character
  | half code =>
    rw [List.mem_singleton.mp written]
    trivial

/-! ## Literals of values -/

/-- The text that stands for a text in a declaration. -/
def orUnknown (t : Text) : Text := if t = [] then "unknown" else t

theorem spelled_text (t : Text) : spelled (.text t) = .ok (orUnknown t) := by
  cases t <;> rfl

theorem orUnknown_of_ne_nil {t : Text} (written : t ≠ []) : orUnknown t = t := if_neg written

/-- The literal of every text is read back to its last character, whatever follows it, as the text
itself or as the word for nothing if the text is empty. No control character stands in it, and
different texts that are not empty have different literals. -/
theorem texts_are_read_back :
    (∀ t : Text, ∃ written, (spelled (.text t)).map literal = .ok written ∧
      (∀ rest, readLiteral? (written ++ rest) = some (orUnknown t, rest)) ∧
      ∀ c, .char c ∈ written → 0x20 ≤ c.toNat ∧ c.toNat ≠ 0x7F) ∧
    ∀ t u : Text, t ≠ [] → u ≠ [] → t ≠ u →
      (spelled (.text t)).map literal ≠ (spelled (.text u)).map literal := by
  constructor
  · intro t
    refine ⟨literal (orUnknown t), ?_, readLiteral?_literal (orUnknown t), fun c written => ?_⟩
    · rw [spelled_text]
      rfl
    · have visible : ¬IsControl c := all_isVisible_literal (orUnknown t) _ written
      unfold IsControl at visible
      omega
  · intro t u first second different same
    rw [spelled_text, spelled_text, orUnknown_of_ne_nil first, orUnknown_of_ne_nil second] at same
    exact different (literal_injective (Except.ok.inj same))

/-- A line break with a control character and a digit after it, and the escape for a line break. -/
def lineBreak : Text := "\n\x017"

def lineBreakEscape : Text := "\\n\x017"

def lineBreakLiteral : Text := "\"\\n\\x017\""

theorem texts_are_read_back_lineBreak :
    lineBreak ≠ [] ∧ lineBreakEscape ≠ [] ∧ lineBreak ≠ lineBreakEscape ∧
      (spelled (.text lineBreak)).map literal = .ok lineBreakLiteral ∧
      readLiteral? (lineBreakLiteral ++ Text.ofString ";") = some (lineBreak, Text.ofString ";") ∧
      (spelled (.text lineBreak)).map literal ≠ (spelled (.text lineBreakEscape)).map literal := by
  have literal_lineBreak : (spelled (.text lineBreak)).map literal = .ok lineBreakLiteral := by
    decide +kernel
  refine ⟨by decide, by decide, by decide, literal_lineBreak, ?_, ?_⟩
  · obtain ⟨written, known, read, -⟩ := texts_are_read_back.1 lineBreak
    rw [literal_lineBreak] at known
    cases known
    exact read ";"
  · exact texts_are_read_back.2 lineBreak lineBreakEscape (by decide) (by decide) (by decide)

end RegisterMap.Zig
