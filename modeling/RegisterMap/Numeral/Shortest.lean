import RegisterMap.Numeral.Binary64
import RegisterMap.Numeral.Digits

/-!
The text of a floating-point number has the fewest digits that read back to it, and of several such
decimals the nearest. Numbers from 1e-4 up to 1e16 are written positionally with at least one digit
behind the point, the others with a signed exponent of at least two digits.
-/

set_option autoImplicit false

namespace RegisterMap.Numeral

/-- The decimal digits * 10 ^ exponent. -/
structure Decimal where
  digits : Nat
  exponent : Int
deriving DecidableEq, Repr

/-- Compares digits * 10 ^ exponent with quarters * 2 ^ unit / 2 ^ 1076. -/
def Decimal.compareQuarters (d : Decimal) (quarters unit : Nat) : Ordering :=
  compare (d.digits * Nat.pow 10 d.exponent.toNat * Nat.pow 2 1076)
    (quarters * Nat.pow 2 unit * Nat.pow 10 (-d.exponent).toNat)

/-- Whether the decimal is rounded to the number with this mantissa and unit. The numbers that are
reach half way to both neighbours, ends included if the mantissa is even; below a power of two the
lower neighbour is half as far away. -/
def Decimal.readsBack (d : Decimal) (mantissa unit : Nat) : Bool :=
  let below := if mantissa = Nat.pow 2 52 ∧ 0 < unit then 4 * mantissa - 1 else 4 * mantissa - 2
  let lower := d.compareQuarters below unit
  let upper := d.compareQuarters (4 * mantissa + 2) unit
  let ends := mantissa % 2 == 0
  (lower == .gt || ends && lower == .eq) && (upper == .lt || ends && upper == .eq)

/-- The least exponent whose power of ten exceeds the number. Its binary logarithm gives an
estimate that is at most one off. -/
def decimalScale (mantissa unit : Nat) : Int :=
  let bits : Int := Nat.log2 mantissa + unit - 1074
  let guess := bits * 30103 / 100000
  let exceeds (k : Int) : Bool := Decimal.compareQuarters ⟨1, k⟩ (4 * mantissa) unit == .gt
  if exceeds (guess - 1) then guess - 1
  else if exceeds guess then guess
  else if exceeds (guess + 1) then guess + 1
  else guess + 2

/-- The one of the number's two neighbours on the grid of multiples of 10 ^ exponent that reads
back, or the nearer one if both do. -/
def neighbour? (mantissa unit : Nat) (exponent : Int) : Option Decimal :=
  let num := mantissa * Nat.pow 2 unit * Nat.pow 10 (-exponent).toNat
  let den := Nat.pow 2 1074 * Nat.pow 10 exponent.toNat
  let down : Decimal := ⟨num / den, exponent⟩
  let up : Decimal := ⟨num / den + 1, exponent⟩
  if down.readsBack mantissa unit then
    if up.readsBack mantissa unit then some ⟨roundDiv num den, exponent⟩ else some down
  else if up.readsBack mantissa unit then some up
  else none

/-- The shortest decimal that reads back. Seventeen digits identify every number. -/
def shortest (mantissa unit : Nat) : Decimal :=
  let scale := decimalScale mantissa unit
  let grids := (List.range 17).map fun (n : Nat) => scale - 1 - (n : Int)
  (grids.findSome? (neighbour? mantissa unit)).getD ⟨mantissa * Nat.pow 2 unit * Nat.pow 5 1074, -1074⟩

/-- The digits without zeros at the end, and the exponent of a point in front of the first one. -/
def Decimal.normal (d : Decimal) : List Char × Int :=
  let ds := (Numeral.digits 10 d.digits).map digitChar
  ((ds.reverse.dropWhile (· = '0')).reverse, d.exponent + ds.length)

def exponentText (e : Int) : String :=
  let t := text 10 e.natAbs
  (if e < 0 then "e-" else "e+") ++ (if t.length < 2 then "0" ++ t else t)

/-- The digits with a point; `point` counts the digits in front of it and may lie outside them. -/
def layout (ds : List Char) (point : Int) : String :=
  let zeros (n : Int) : List Char := List.replicate n.toNat '0'
  if -4 < point ∧ point ≤ 16 then
    if point ≤ 0 then String.ofList ('0' :: '.' :: zeros (-point) ++ ds)
    else if ds.length ≤ point then
      String.ofList (ds ++ zeros (point - ds.length)) ++ ".0"
    else String.ofList (ds.take point.toNat ++ '.' :: ds.drop point.toNat)
  else
    let mantissa := match ds with
      | [] => []
      | [d] => [d]
      | d :: rest => d :: '.' :: rest
    String.ofList mantissa ++ exponentText (point - 1)

def magnitudeText (mantissa unit : Nat) : String :=
  if mantissa = 0 then "0.0"
  else
    let (ds, point) := (shortest mantissa unit).normal
    layout ds point

/-- The text of a number, with given texts of NaN and infinity. -/
def Binary64.text (nan infinity : String) : Binary64 → String
  | .nan => nan
  | .infinity negative => (if negative then "-" else "") ++ infinity
  | .finite negative m u => (if negative then "-" else "") ++ magnitudeText m u

end RegisterMap.Numeral
