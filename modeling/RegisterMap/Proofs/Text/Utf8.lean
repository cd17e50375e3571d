import Mathlib.Algebra.Group.Nat.Defs
import RegisterMap.Text.Utf8

/-!
Reading UTF-8 undoes writing it. The first byte of a character announces how many follow, and each
of these carries six bits of the character's number; the ranges that the reader narrows behind some
first bytes leave out no number of a character.
-/

set_option autoImplicit false

namespace RegisterMap.Text

/-! ## Bytes of six bits -/

/-- The byte of the six bits of a number that stand in front of its last `k` groups of six. -/
def groupByte (n k : Nat) : UInt8 := UInt8.ofNat (n / 64 ^ k % 64 + 0x80)

/-- The bytes of the last `k` groups. -/
def groupBytes (n : Nat) : Nat → List UInt8
  | 0 => []
  | k + 1 => groupByte n k :: groupBytes n k

/-- The byte announces a number of which it has read all but the last `k + 1` groups, and admits the
first of these. -/
def Announces (b n k : Nat) : Prop :=
  ∃ low high, announced? b = some ⟨k + 1, n / 64 ^ (k + 1), low, high⟩ ∧
    low ≤ n / 64 ^ k % 64 + 0x80 ∧ n / 64 ^ k % 64 + 0x80 ≤ high

section

variable {n k low high : Nat}

theorem toNat_groupByte : (groupByte n k).toNat = n / 64 ^ k % 64 + 0x80 := by
  have small : n / 64 ^ k % 64 < 64 := Nat.mod_lt _ (by decide)
  have fits : n / 64 ^ k % 64 + 0x80 < 256 := by omega
  exact UInt8.toNat_ofNat_of_lt' fits

/-- The next group is put behind the bits that are read. -/
theorem bits_group : n / 64 ^ (k + 1) * 0x40 + n / 64 ^ k % 64 = n / 64 ^ k := by
  rw [Nat.pow_succ, ← Nat.div_div_eq_div_mul]
  omega

theorem read_group (text : List Char) (above : low ≤ n / 64 ^ k % 64 + 0x80)
    (below : n / 64 ^ k % 64 + 0x80 ≤ high) :
    Decoder.read ⟨text, some ⟨k + 1, n / 64 ^ (k + 1), low, high⟩⟩ (groupByte n k) =
      if k = 0 then ⟨Char.ofNat n :: text, none⟩ else ⟨text, some ⟨k, n / 64 ^ k, 0x80, 0xBF⟩⟩ := by
  simp only [Decoder.read, toNat_groupByte, if_pos (And.intro above below), Nat.add_sub_cancel,
    bits_group]
  by_cases last : k = 0
  · subst last
    rw [if_pos rfl, if_pos rfl, Nat.pow_zero, Nat.div_one]
  · rw [if_neg (by omega), if_neg last]

theorem foldl_groupBytes (text : List Char) (above : low ≤ n / 64 ^ k % 64 + 0x80)
    (below : n / 64 ^ k % 64 + 0x80 ≤ high) :
    (groupBytes n (k + 1)).foldl Decoder.read
        ⟨text, some ⟨k + 1, n / 64 ^ (k + 1), low, high⟩⟩ = ⟨Char.ofNat n :: text, none⟩ := by
  induction k generalizing low high with
  | zero =>
    rw [groupBytes, List.foldl_cons, read_group text above below, if_pos rfl]
    rfl
  | succ k ih =>
    have small : n / 64 ^ k % 64 < 64 := Nat.mod_lt _ (by decide)
    rw [groupBytes, List.foldl_cons, read_group text above below, if_neg (Nat.succ_ne_zero k)]
    exact ih (by omega) (by omega)

/-! ## Characters -/

theorem foldl_of_announces {first : Nat} (text : List Char) (byte : first < 256)
    (announces : Announces first n k) :
    (UInt8.ofNat first :: groupBytes n (k + 1)).foldl Decoder.read ⟨text, none⟩ =
      ⟨Char.ofNat n :: text, none⟩ := by
  obtain ⟨low, high, announced, above, below⟩ := announces
  have begun : Decoder.read ⟨text, none⟩ (UInt8.ofNat first) =
      ⟨text, some ⟨k + 1, n / 64 ^ (k + 1), low, high⟩⟩ := by
    simp only [Decoder.read, Decoder.begin, UInt8.toNat_ofNat_of_lt' byte, announced]
  rw [List.foldl_cons, begun]
  exact foldl_groupBytes text above below

theorem read_ascii (text : List Char) (small : n < 0x80) :
    Decoder.read ⟨text, none⟩ (UInt8.ofNat n) = ⟨Char.ofNat n :: text, none⟩ := by
  have byte : n < 256 := by omega
  have silent : announced? n = none := by
    unfold announced?
    repeat rw [if_neg (by omega)]
  simp only [Decoder.read, Decoder.begin, UInt8.toNat_ofNat_of_lt' byte, silent, if_pos small]

theorem announces_two (least : 0x80 ≤ n) (most : n ≤ 0x7FF) : Announces (n / 64 + 0xC0) n 0 := by
  refine ⟨0x80, 0xBF, ?_, by omega, by omega⟩
  rw [announced?, if_pos (by omega)]
  simp

/-- Behind 0xE0 and 0xED the range is narrower. -/
theorem announces_three (least : 0x800 ≤ n) (most : n ≤ 0xFFFF)
    (whole : n < 0xD800 ∨ 0xDFFF < n) : Announces (n / 4096 + 0xE0) n 1 := by
  unfold Announces announced?
  rw [if_neg (by omega)]
  by_cases first : n / 4096 = 0
  · exact ⟨0xA0, 0xBF, by rw [if_pos (by omega)]; simp [first], by omega, by omega⟩
  · rw [if_neg (by omega)]
    by_cases surrogate : n / 4096 = 0xD
    · exact ⟨0x80, 0x9F, by rw [if_pos (by omega)]; simp [surrogate], by omega, by omega⟩
    · exact ⟨0x80, 0xBF, by rw [if_neg (by omega), if_pos (by omega)]; simp, by omega, by omega⟩

/-- Behind 0xF0 and 0xF4 the range is narrower. -/
theorem announces_four (least : 0x10000 ≤ n) (most : n < 0x110000) :
    Announces (n / 262144 + 0xF0) n 2 := by
  unfold Announces announced?
  rw [if_neg (by omega), if_neg (by omega), if_neg (by omega), if_neg (by omega)]
  by_cases first : n / 262144 = 0
  · exact ⟨0x90, 0xBF, by rw [if_pos (by omega)]; simp [first], by omega, by omega⟩
  · rw [if_neg (by omega)]
    by_cases last : n / 262144 = 4
    · exact ⟨0x80, 0x8F, by rw [if_neg (by omega), if_pos (by omega)]; simp [last],
        by omega, by omega⟩
    · exact ⟨0x80, 0xBF, by rw [if_pos (by omega)]; simp, by omega, by omega⟩

end

/-- A character is read from its bytes. -/
theorem foldl_utf8EncodeChar (text : List Char) (c : Char) :
    (String.utf8EncodeChar c).foldl Decoder.read ⟨text, none⟩ = ⟨c :: text, none⟩ := by
  have valid : c.toNat < 0xD800 ∨ 0xDFFF < c.toNat ∧ c.toNat < 0x110000 := c.valid
  have number : c.val.toNat = c.toNat := rfl
  rw [String.utf8EncodeChar, number]
  conv => rhs; rw [← Char.ofNat_toNat c]
  generalize c.toNat = n at valid
  split
  · exact read_ascii text (by omega)
  split
  · have first : n / 64 % 32 + 192 = n / 64 + 0xC0 := by omega
    have rest : [UInt8.ofNat (n % 64 + 128)] = groupBytes n 1 := by simp [groupBytes, groupByte]
    rw [first, rest]
    exact foldl_of_announces text (by omega) (announces_two (by omega) (by omega))
  split
  · have first : n / 4096 % 16 + 224 = n / 4096 + 0xE0 := by omega
    have rest : [UInt8.ofNat (n / 64 % 64 + 128), UInt8.ofNat (n % 64 + 128)] = groupBytes n 2 := by
      simp [groupBytes, groupByte]
    rw [first, rest]
    exact foldl_of_announces text (by omega) (announces_three (by omega) (by omega) (by omega))
  · have first : n / 262144 % 8 + 240 = n / 262144 + 0xF0 := by omega
    have rest : [UInt8.ofNat (n / 4096 % 64 + 128), UInt8.ofNat (n / 64 % 64 + 128),
        UInt8.ofNat (n % 64 + 128)] = groupBytes n 3 := by
      simp [groupBytes, groupByte]
    rw [first, rest]
    exact foldl_of_announces text (by omega) (announces_four (by omega) (by omega))

/-! ## Texts -/

theorem foldl_flatMap_utf8EncodeChar (text s : List Char) :
    (s.flatMap String.utf8EncodeChar).foldl Decoder.read ⟨text, none⟩ =
      ⟨s.reverse ++ text, none⟩ := by
  induction s generalizing text with
  | nil => rfl
  | cons c s ih =>
    rw [List.flatMap_cons, List.foldl_append, foldl_utf8EncodeChar, ih, List.reverse_cons,
      List.append_assoc, List.singleton_append]

theorem toList_loop (bytes : ByteArray) (i : Nat) (read : List UInt8) :
    ByteArray.toList.loop bytes i read = read.reverse ++ bytes.data.toList.drop i := by
  fun_induction ByteArray.toList.loop bytes i read with
  | case1 i read inside ih =>
    have index : i < bytes.data.toList.length := by simpa using inside
    rw [ih, List.drop_eq_getElem_cons index]
    simp [ByteArray.get!, inside]
  | case2 i read outside =>
    rw [List.drop_eq_nil_of_le (by simpa using outside), List.append_nil]

theorem toList_toUTF8 (s : String) :
    s.toUTF8.toList = s.toList.flatMap String.utf8EncodeChar := by
  have bytes : s.toUTF8 = (s.toList.flatMap String.utf8EncodeChar).toByteArray := by
    conv => lhs; rw [← String.ofList_toList (s := s)]
    rfl
  rw [bytes, ByteArray.toList, toList_loop, List.toList_data_toByteArray]
  rfl

/-- A text is read from its bytes. -/
theorem decodeUtf8_toUTF8 (s : String) : decodeUtf8 s.toUTF8.toList = s.toList := by
  have start : ({} : Decoder) = ⟨[], none⟩ := rfl
  rw [decodeUtf8, toList_toUTF8, start, foldl_flatMap_utf8EncodeChar, Decoder.finish,
    List.append_nil, List.reverse_reverse]

end RegisterMap.Text
