/-!
Positional numerals in a base of at most sixteen: the digits of a number, the number that digits
stand for, and the characters of digits. Digits are written in lower case and read in either case.
-/

set_option autoImplicit false

namespace RegisterMap.Numeral

/-- The digits of a number, least significant first. One unit of fuel is spent per digit, and a
number has at most as many digits as its value plus one. -/
def digitsUp (base : Nat) : Nat → Nat → List Nat
  | 0, _ => []
  | fuel + 1, n => if n < base then [n] else n % base :: digitsUp base fuel (n / base)

/-- The digits of a number, most significant first. -/
def digits (base n : Nat) : List Nat := (digitsUp base (n + 1) n).reverse

/-- The number that digits stand for, most significant first. -/
def value (base : Nat) (ds : List Nat) : Nat := ds.foldl (fun n d => n * base + d) 0

def digitChar (d : Nat) : Char :=
  if d < 10 then Char.ofNat (0x30 + d) else Char.ofNat (0x57 + d)

def digit? (base : Nat) (c : Char) : Option Nat :=
  let n := c.toNat
  let d :=
    if 0x30 ≤ n ∧ n ≤ 0x39 then n - 0x30
    else if 0x61 ≤ n ∧ n ≤ 0x66 then n - 0x57
    else if 0x41 ≤ n ∧ n ≤ 0x46 then n - 0x37
    else base
  if d < base then some d else none

/-- The digits that a text consists of, if it holds at least one and nothing else. -/
def digits? (base : Nat) (s : List Char) : Option (List Nat) :=
  if s.isEmpty then none else s.mapM (digit? base)

def text (base n : Nat) : String := String.ofList ((digits base n).map digitChar)

/-- A whole number with a minus sign in front of it if it is negative. -/
def signedText (base : Nat) : Int → String
  | .ofNat n => text base n
  | .negSucc n => "-" ++ text base (n + 1)

def decimalText (n : Int) : String := signedText 10 n

def hexText (n : Int) : String := signedText 16 n

/-- At least `width` hexadecimal digits, filled up with zeros. -/
def paddedHex (width n : Nat) : String :=
  let t := text 16 n
  String.ofList (List.replicate (width - t.length) '0') ++ t

end RegisterMap.Numeral
