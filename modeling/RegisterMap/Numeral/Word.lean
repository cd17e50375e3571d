import RegisterMap.Numeral.Digits

/-!
The two numerals of a register description. Both denote an unsigned word of 32 bits. A decimal
numeral is a run of ASCII digits; one of more than 4300 digits is not read at all, whatever its
value. A hexadecimal numeral has two characters of any kind in front of its digits.
-/

set_option autoImplicit false

namespace RegisterMap.Numeral

def maxWord : Nat := 0xFFFFFFFF

def word? (n : Nat) : Option Nat := if n ≤ maxWord then some n else none

/-- The number of digits up to which a decimal numeral is read. -/
def maxDigits : Nat := 4300

/-- A decimal numeral of more than `maxDigits` digits. -/
structure TooLong where
  digits : Nat
deriving DecidableEq, Repr

def TooLong.message (e : TooLong) : String :=
  "Exceeds the limit (" ++ decimalText maxDigits ++ " digits) for integer string conversion: " ++
    "value has " ++ decimalText e.digits ++
    " digits; use sys.set_int_max_str_digits() to increase the limit"

/-- A text that is no numeral, or denotes no word, is `none`; only a numeral can be too long. -/
def decimal? (s : List Char) : Except TooLong (Option Nat) :=
  match digits? 10 s with
  | none => .ok none
  | some ds => if maxDigits < ds.length then .error ⟨ds.length⟩ else .ok (word? (value 10 ds))

def hexadecimal? : List Char → Option Nat
  | _ :: _ :: rest => (digits? 16 rest).bind fun ds => word? (value 16 ds)
  | _ => none

end RegisterMap.Numeral
