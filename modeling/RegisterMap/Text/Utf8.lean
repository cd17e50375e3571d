/-!
Reading UTF-8 with replacement: every longest part of the input that begins a character and cannot
be completed, and every byte that begins none, is read as one U+FFFD.
-/

set_option autoImplicit false

namespace RegisterMap.Text

def replacement : Char := '\uFFFD'

/-- A character whose last `awaited` bytes are still to come: the bits read so far, and the range of
the next byte. Behind some first bytes the range is narrower, which keeps out overlong forms,
surrogates and numbers beyond the last code point. -/
structure Unfinished where
  awaited : Nat
  bits : Nat
  low : Nat
  high : Nat
deriving DecidableEq, Repr

/-- What the first byte of a character of several bytes announces. -/
def announced? (b : Nat) : Option Unfinished :=
  if 0xC2 ≤ b ∧ b ≤ 0xDF then some ⟨1, b - 0xC0, 0x80, 0xBF⟩
  else if b = 0xE0 then some ⟨2, 0, 0xA0, 0xBF⟩
  else if b = 0xED then some ⟨2, 0xD, 0x80, 0x9F⟩
  else if 0xE1 ≤ b ∧ b ≤ 0xEF then some ⟨2, b - 0xE0, 0x80, 0xBF⟩
  else if b = 0xF0 then some ⟨3, 0, 0x90, 0xBF⟩
  else if 0xF1 ≤ b ∧ b ≤ 0xF3 then some ⟨3, b - 0xF0, 0x80, 0xBF⟩
  else if b = 0xF4 then some ⟨3, 4, 0x80, 0x8F⟩
  else none

/-- The state between two bytes: the text so far, last character first, and the open character. -/
structure Decoder where
  text : List Char := []
  unfinished : Option Unfinished := none
deriving DecidableEq, Repr

/-- Reads a byte with no character open before it. -/
def Decoder.begin (text : List Char) (b : Nat) : Decoder :=
  match announced? b with
  | some held => ⟨text, some held⟩
  | none => ⟨(if b < 0x80 then Char.ofNat b else replacement) :: text, none⟩

/-- A byte that the open character does not admit ends it, and is read anew. -/
def Decoder.read (d : Decoder) (byte : UInt8) : Decoder :=
  let b := byte.toNat
  match d.unfinished with
  | none => begin d.text b
  | some held =>
    if held.low ≤ b ∧ b ≤ held.high then
      let bits := held.bits * 0x40 + (b - 0x80)
      if held.awaited = 1 then ⟨Char.ofNat bits :: d.text, none⟩
      else ⟨d.text, some ⟨held.awaited - 1, bits, 0x80, 0xBF⟩⟩
    else begin (replacement :: d.text) b

def Decoder.finish (d : Decoder) : List Char :=
  match d.unfinished with
  | none => d.text.reverse
  | some _ => (replacement :: d.text).reverse

def decodeUtf8 (bytes : List UInt8) : List Char := (bytes.foldl Decoder.read {}).finish

end RegisterMap.Text
