import RegisterMap.Proofs.Numeral.Grammar
import RegisterMap.Proofs.Rendering
import RegisterMap.Proofs.Zig.Sections

/-!
Hexadecimal numbers in both directions. A text is a hexadecimal numeral just if behind two
characters of any kind it has digits of a word, in either case and with zeros in front or without.
So the numbers that a rendered device writes in hexadecimal are the numbers that are read from its
lines.
-/

set_option autoImplicit false

namespace RegisterMap

open Numeral (IsNumeral hexText hexadecimal? maxWord number worth)

namespace Numeral

/-- What a number is written as is read as this number, with any zeros behind the prefix. -/
theorem hexadecimal?_zeros_hexText {n : Nat} (small : n ≤ maxWord) (zeros : Nat) :
    hexadecimal? ('0' :: 'x' :: (List.replicate zeros '0' ++ (hexText n).toList)) = some n := by
  obtain ⟨numeral, same⟩ := isNumeral_text (show 2 ≤ 16 by decide) le_rfl n
  refine hexadecimal?_eq_some_iff.mpr ⟨'0', 'x', _, rfl, ?_, ?_, small⟩
  · exact isNumeral_zeros_append (by decide) zeros numeral
  · rw [number_zeros_append]
    exact same

theorem isAlphanum_of_worth {c : Char} (digit : worth c < 16) : c.isAlphanum = true := by
  have ascii : c.toNat < 0x80 := by
    rw [worth_eq, worthOfCode] at digit
    split_ifs at digit <;> omega
  revert digit
  exact of_code_lt (fun c => worth c < 16 → c.isAlphanum = true) (by decide +kernel) ascii

end Numeral

namespace Zig

open Text (ofString)

/-! ## The numbers in a line -/

/-- Whether names and numbers may hold the code point. -/
def isWordPoint : CodePoint → Bool
  | .char c => c.isAlphanum || c == '_'
  | .half _ => false

/-- The number that a word is a hexadecimal literal of. -/
def hexNumber? (word : Text) : Option Nat :=
  match word with
  | .char '0' :: .char 'x' :: digits =>
    (digits.mapM CodePoint.char?).bind fun digits => hexadecimal? ('0' :: 'x' :: digits)
  | _ => none

/-- The numbers of which there are hexadecimal literals among the words of a line. -/
def hexNumbers (line : Text) : List Nat :=
  (line.splitOnP fun p => !isWordPoint p).filterMap hexNumber?

theorem hexNumbers_append_cons (s t : Text) {p : CodePoint} (between : isWordPoint p = false) :
    hexNumbers (s ++ p :: t) = hexNumbers s ++ hexNumbers t := by
  unfold hexNumbers
  rw [List.splitOnP_append_cons s t (by simp [between]), List.filterMap_append]

theorem hexNumbers_of_word {word : Text} (whole : ∀ p ∈ word, isWordPoint p = true) :
    hexNumbers word = (hexNumber? word).toList := by
  unfold hexNumbers
  rw [List.splitOnP_eq_singleton fun p member => by simp [whole p member]]
  cases read : hexNumber? word <;> simp [read]

theorem hexNumbers_concat (s : Text) {p : CodePoint} (between : isWordPoint p = false) :
    hexNumbers (s ++ [p]) = hexNumbers s := by
  have nothing : hexNumbers [] = [] := rfl
  rw [hexNumbers_append_cons s [] between, nothing, List.append_nil]

theorem isWordPoint_of_digit {base : Nat} (base_ge : 2 ≤ base) (base_le : base ≤ 16) (n : Nat) :
    ∀ p ∈ ofString (Numeral.text base n), isWordPoint p = true := by
  refine List.forall_mem_map.mpr fun c member => ?_
  have digit := (Numeral.isNumeral_text base_ge base_le n).1.digits c member
  have letter := Numeral.isAlphanum_of_worth (Nat.lt_of_lt_of_le digit base_le)
  simp [isWordPoint, letter]

theorem hexNumbers_hexLiteral {n : Nat} (small : n ≤ maxWord) :
    hexNumbers (ofString (hexLiteral n)) = [n] := by
  have chars : ofString (hexLiteral n) =
      .char '0' :: .char 'x' :: Text.ofChars (hexText n).toList := by
    simp [hexLiteral, ofString, Text.ofChars]
  have word : ∀ p ∈ ofString (hexLiteral n), isWordPoint p = true := by
    rw [chars, List.forall_mem_cons, List.forall_mem_cons]
    exact ⟨by decide, by decide, isWordPoint_of_digit (by decide) le_rfl n⟩
  have read : hexadecimal? ('0' :: 'x' :: (hexText n).toList) = some n :=
    Numeral.hexadecimal?_zeros_hexText small 0
  rw [hexNumbers_of_word word, chars, hexNumber?, Text.mapM_char?_ofChars, Option.bind_some, read]
  rfl

/-- A decimal number is no hexadecimal literal. -/
theorem hexNumbers_decimalText (n : Nat) : hexNumbers (ofString (Numeral.decimalText n)) = [] := by
  have digits := (Numeral.isNumeral_text (show 2 ≤ 10 by decide) (by decide) n).1.digits
  have none : hexNumber? (ofString (Numeral.decimalText n)) = none := by
    unfold hexNumber?
    split
    · rename_i rest same
      have second : CodePoint.char 'x' ∈ ofString (Numeral.text 10 n) := by
        have listed : CodePoint.char 'x' ∈ CodePoint.char '0' :: CodePoint.char 'x' :: rest := by
          simp
        rwa [← same] at listed
      obtain ⟨c, member, named⟩ := List.mem_map.mp second
      cases named
      exact absurd (digits 'x' member) (by decide)
    · rfl
  have word : hexNumbers (ofString (Numeral.text 10 n)) = _ :=
    hexNumbers_of_word (isWordPoint_of_digit (by decide) (by decide) n)
  exact word.trans (congrArg Option.toList none)

/-! ## The lines of declarations -/

/-- The numbers that the lines of a declaration write in hexadecimal, line by line. -/
def Declaration.hexadecimals : Declaration → List (List Nat)
  | .baseAddress _ base => [[base.toNat]]
  | .address _ base offset => [[base.toNat, offset.toNat]]
  | .resetValue _ _ value => [[value.toNat]]
  | .writer _ _ mask => [[], [mask], [], [], []]
  | .fieldMask _ mask => [[mask]]
  | .fieldSetter _ mask _ => [[], [mask], []]
  | x => x.lines.map fun _ => []

/-- The literals at the end of the line are those of the numbers. Other words of it, as those that
names consist of, may be literals as well. -/
def EndsIn (numbers : List Nat) (line : Text) : Prop := numbers <:+ hexNumbers line

theorem hexNumbers_hexLiteral_of_isWord {n : Int} (word : (Value.int n).IsWord) :
    hexNumbers (ofString (hexLiteral n)) = [n.toNat] := by
  obtain ⟨m, small, same⟩ := word
  cases same
  exact hexNumbers_hexLiteral small

theorem endsIn_nil (line : Text) : EndsIn [] line := List.nil_suffix

/-- A number between two characters of which neither belongs to a word, with no other one behind. -/
theorem endsIn_between (before : Text) {p q : CodePoint} {value rest : Text} {numbers : List Nat}
    (start : isWordPoint p = false) (stop : isWordPoint q = false)
    (read : hexNumbers value = numbers) (none : hexNumbers rest = []) :
    EndsIn numbers (before ++ p :: (value ++ q :: rest)) := by
  rw [EndsIn, hexNumbers_append_cons before _ start, hexNumbers_append_cons value rest stop, read,
    none, List.append_nil]
  exact List.suffix_append _ _

theorem endsIn_constant (name : Text) {value : Text} {numbers : List Nat}
    (read : hexNumbers value = numbers) : EndsIn numbers (constant name value) := by
  have layout : constant name value =
      (ofString "pub const " ++ name ++ ofString " =") ++
        .char ' ' :: (value ++ .char ';' :: []) := by
    simp [constant, ofString, Text.ofChars]
  rw [layout]
  exact endsIn_between _ (by decide) (by decide) read rfl

theorem hexNumbers_sum {base offset : Int} (based : (Value.int base).IsWord)
    (placed : (Value.int offset).IsWord) :
    hexNumbers (hexLiteral base ++ " + " ++ hexLiteral offset) = [base.toNat, offset.toNat] := by
  have layout : (hexLiteral base ++ " + " ++ hexLiteral offset : Text) =
      ofString (hexLiteral base) ++ .char ' ' :: (ofString "+" ++
        .char ' ' :: ofString (hexLiteral offset)) := by
    simp [ofString, Text.ofChars]
  have sign : hexNumbers (ofString "+") = [] := by decide
  rw [layout, hexNumbers_append_cons _ _ (by decide), hexNumbers_append_cons _ _ (by decide),
    hexNumbers_hexLiteral_of_isWord based, hexNumbers_hexLiteral_of_isWord placed, sign]
  rfl

theorem endsIn_nothing (lines : List Text) :
    List.Forall₂ EndsIn (lines.map fun _ => []) lines := by
  rw [List.forall₂_map_left_iff, List.forall₂_same]
  exact fun line _ => endsIn_nil line

theorem endsIn_writeMask {mask : Nat} (small : mask ≤ maxWord) :
    EndsIn [mask] (indented ("const write_mask = " ++ hexLiteral mask ++ ";")) := by
  have layout : indented ("const write_mask = " ++ hexLiteral mask ++ ";") =
      ofString "    const write_mask =" ++
        .char ' ' :: (ofString (hexLiteral mask) ++ .char ';' :: []) := by
    simp [indented, ofString, Text.ofChars]
  rw [layout]
  exact endsIn_between _ (by decide) (by decide) (hexNumbers_hexLiteral small) rfl

/-- The offset of a setter is written as a decimal number. -/
theorem endsIn_setting {mask : Nat} (small : mask ≤ maxWord) {offset : Value}
    (word : offset.IsWord) :
    EndsIn [mask]
      (indented ("return (setting & " ++ hexLiteral mask ++ ") << " ++ offset.display ++ ";")) := by
  obtain ⟨shift, -, rfl⟩ := word
  have shown : Value.display (.int shift) = ofString (Numeral.decimalText shift) := rfl
  have layout : indented ("return (setting & " ++ hexLiteral mask ++ ") << " ++
        Value.display (.int shift) ++ ";") =
      ofString "    return (setting &" ++ .char ' ' :: (ofString (hexLiteral mask) ++
        .char ')' :: (ofString " <<" ++ .char ' ' ::
          (ofString (Numeral.decimalText shift) ++ [.char ';']))) := by
    rw [shown]
    simp [indented, ofString, Text.ofChars]
  have behind : hexNumbers (ofString " <<" ++ .char ' ' ::
      (ofString (Numeral.decimalText shift) ++ [.char ';'])) = [] := by
    have sign : hexNumbers (ofString " <<") = [] := by decide
    rw [hexNumbers_append_cons _ _ (by decide), hexNumbers_concat _ (by decide), sign,
      hexNumbers_decimalText]
    rfl
  rw [layout]
  exact endsIn_between _ (by decide) (by decide) (hexNumbers_hexLiteral small) behind

/-- The numbers that a declaration writes in hexadecimal are read from its lines. -/
theorem endsIn_lines {x : Declaration} (fits : x.Fits) :
    List.Forall₂ EndsIn x.hexadecimals x.lines := by
  have ends := endsIn_nil
  cases x with
  | baseAddress peripheral base =>
    exact .cons (endsIn_constant _ (hexNumbers_hexLiteral_of_isWord fits)) .nil
  | address register base offset =>
    exact .cons (endsIn_constant _ (hexNumbers_sum fits.1 fits.2)) .nil
  | resetValue register wordType value =>
    exact .cons (endsIn_constant _ (hexNumbers_hexLiteral_of_isWord fits)) .nil
  | writer register wordType mask =>
    refine .cons (ends _) (.cons (endsIn_writeMask fits) ?_)
    exact .cons (ends _) (.cons (ends _) (.cons (ends _) .nil))
  | fieldMask field mask => exact .cons (endsIn_constant _ (hexNumbers_hexLiteral fits)) .nil
  | fieldSetter field mask offset =>
    exact .cons (ends _) (.cons (endsIn_setting fits.1 fits.2) (.cons (ends _) .nil))
  | _ => exact endsIn_nothing _

/-- A text is the hexadecimal numeral of a word just if it has two characters of any kind in front
of digits of this word; all other texts are none. The digits that a word is written with are read as
this word, whatever zeros stand before them. So whatever a device is rendered as, the base
addresses, offsets, reset values and masks in its declarations are read from the lines of these, if
they are words. -/
theorem hexadecimals_are_read_back :
    (∀ (s : List Char) (n : Nat), hexadecimal? s = some n ↔
        ∃ a b rest, s = a :: b :: rest ∧ IsNumeral 16 rest ∧ number 16 rest = n ∧ n ≤ maxWord) ∧
      (∀ n ≤ maxWord, ∀ zeros,
        hexadecimal? ('0' :: 'x' :: (List.replicate zeros '0' ++ (hexText n).toList)) = some n) ∧
      ∀ (d : Device) (s : Selection) (masks : Masks) (lines : List Text),
        (renderKnowing masks d s).1.result = .ok lines →
          ∃ declarations after, (ofDevice d s).run.run masks = (.ok declarations, after) ∧
            ShowsDevice d s declarations ∧ lines = declarations.flatMap Declaration.lines ∧
            ∀ x ∈ declarations, x.Fits → List.Forall₂ EndsIn x.hexadecimals x.lines := by
  refine ⟨fun s n => Numeral.hexadecimal?_eq_some_iff,
    fun n small zeros => Numeral.hexadecimal?_zeros_hexText small zeros,
    fun d s masks lines rendered => ?_⟩
  obtain ⟨-, declarations, after, made, same⟩ := rendered_iff.mp rendered
  have shows : ShowsDevice d s declarations := yields_ofDevice d s masks declarations after made
  exact ⟨declarations, after, made, shows, same, fun x _ fits => endsIn_lines fits⟩

/-- A register at the last offset, in a peripheral whose name looks like a number. -/
def lastOffset : Device where
  peripherals := [{
    name := .ofString "0x1"
    baseAddress := .int 0x40010000
    registers := [{
      peripheralName := .ofString "0x1"
      name := .ofString "R"
      addressOffset := .int 0xFFFFFFFF }] }]

theorem hexadecimals_are_read_back_lastOffset :
    hexadecimal? "?!00FfFfFfFf".toList = some maxWord ∧ hexadecimal? "0x000ff".toList = some 255 ∧
      ∃ lines, (renderKnowing [] lastOffset (.ofTexts none)).1.result = .ok lines ∧
        ("pub const 0x1_R_Address = 0x40010000 + 0xffffffff;" : Text) ∈ lines ∧
        EndsIn [0x40010000, maxWord] "pub const 0x1_R_Address = 0x40010000 + 0xffffffff;" := by
  obtain ⟨grammar, inverse, renders⟩ := hexadecimals_are_read_back
  refine ⟨(grammar _ _).mpr ⟨'?', '!', _, rfl, by decide +kernel, by decide +kernel, le_rfl⟩,
    inverse 255 (by decide) 3, ?_⟩
  have shown : (renderKnowing [] lastOffset (.ofTexts none)).1.result.toOption.isSome = true := by
    decide +kernel
  cases rendered : (renderKnowing [] lastOffset (.ofTexts none)).1.result with
  | error misfit =>
    rw [rendered] at shown
    cases shown
  | ok lines =>
    obtain ⟨declarations, after, made, -, same, reads⟩ := renders _ _ _ _ rendered
    have declared : (((ofDevice lastOffset (.ofTexts none)).run.run []).1.toOption.getD []).contains
        (.address "0x1_R" 0x40010000 maxWord) = true := by
      decide +kernel
    rw [made] at declared
    have address := List.contains_iff_mem.mp declared
    have line : (Declaration.address "0x1_R" 0x40010000 maxWord).lines =
        [("pub const 0x1_R_Address = 0x40010000 + 0xffffffff;" : Text)] := by
      decide +kernel
    refine ⟨lines, rfl, ?_, ?_⟩
    · rw [same]
      exact List.mem_flatMap.mpr ⟨_, address, by rw [line]; exact List.mem_singleton_self _⟩
    · have read := reads _ address ⟨⟨0x40010000, by decide, rfl⟩, ⟨maxWord, le_rfl, rfl⟩⟩
      rw [line] at read
      cases read with
      | cons ends _ => exact ends

end Zig

end RegisterMap
