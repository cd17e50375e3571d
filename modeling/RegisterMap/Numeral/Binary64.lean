/-!
Binary floating-point numbers of 64 bits, as far as a register description needs them: each is what
the decimal numeral of some input was rounded to. A finite number is kept as a whole number of
units, where the least unit is 2 to the power -1074.
-/

set_option autoImplicit false

namespace RegisterMap.Numeral

/-- `finite s m u` has the magnitude m * 2 ^ u / 2 ^ 1074, and is negative if `s` is set. Its
mantissa is below 2 ^ 53, and at least 2 ^ 52 unless the unit is 0. -/
inductive Binary64
  | nan
  | infinity (negative : Bool)
  | finite (negative : Bool) (mantissa unit : Nat)
deriving DecidableEq, Repr

/-- The quotient rounded to the nearest whole number, a half to the even neighbour. -/
def roundDiv (num den : Nat) : Nat :=
  let q := num / den
  let r := num % den
  if 2 * r < den then q else if den < 2 * r then q + 1 else q + q % 2

namespace Binary64

def zero (negative : Bool) : Binary64 := .finite negative 0 0

/-- The number nearest to num / den, of two equally near ones that with the even mantissa. -/
def nearest (negative : Bool) (num den : Nat) : Binary64 :=
  let scaled := num * Nat.pow 2 1074
  let unit := Nat.log2 (scaled / den) - 52
  let mantissa := roundDiv scaled (den * Nat.pow 2 unit)
  let (mantissa, unit) := if mantissa = Nat.pow 2 53 then (Nat.pow 2 52, unit + 1) else (mantissa, unit)
  if unit ≤ 2045 then .finite negative mantissa unit else .infinity negative

/-- The number nearest to digits * 10 ^ exponent. Exponents far beyond the range are decided
without the power: a whole number is less than two to the number of its bits. -/
def ofDecimal (negative : Bool) (digits : Nat) (exponent : Int) : Binary64 :=
  if digits = 0 then zero negative
  else if 400 < exponent then .infinity negative
  else if exponent + Nat.log2 digits + 1 < -400 then zero negative
  else nearest negative (digits * Nat.pow 10 exponent.toNat) (Nat.pow 10 (-exponent).toNat)

/-- A finite number as a multiple of the least unit. -/
def units (negative : Bool) (mantissa unit : Nat) : Int :=
  let magnitude := mantissa * Nat.pow 2 unit
  if negative then -(magnitude : Int) else (magnitude : Int)

/-- A whole number as a multiple of the least unit. -/
def unitsOfInt (n : Int) : Int := n * (Nat.pow 2 1074 : Nat)

/-- Whether the number equals the whole number. -/
def equalsInt (x : Binary64) (n : Int) : Bool :=
  match x with
  | .nan | .infinity _ => false
  | .finite negative m u => unitsOfInt n = units negative m u

/-- Where a number stands: its side of the finite ones, and its multiple of the least unit. -/
def standing? : Binary64 → Option (Int × Int)
  | .nan => none
  | .infinity negative => some (if negative then -1 else 1, 0)
  | .finite negative m u => some (0, units negative m u)

/-- Whether two numbers have the same value; the zeros have, and a NaN counts as equal to itself. -/
def sameValue (x y : Binary64) : Bool :=
  match x, y with
  | .finite _ 0 _, .finite _ 0 _ => true
  | _, _ => x == y

def isZero : Binary64 → Bool
  | .finite _ 0 _ => true
  | _ => false

end Binary64

end RegisterMap.Numeral
