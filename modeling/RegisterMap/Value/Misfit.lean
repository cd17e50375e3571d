import RegisterMap.Value.Display

/-!
Why a value cannot be used in its place: it has no form there, or an operation is not defined for
values of its kind.
-/

set_option autoImplicit false

namespace RegisterMap

open Numeral (decimalText)

inductive Misfit
  | negativeWidth
  | noHexForm (value : Value)
  | noName (value : Value)
  | noItems (value : Value)
  | noCharacter (value : Value)
  | noPart (position : Nat) (value : Value)
  | noOperation (operator : String) (left right : Value)
  | noOrder (relation : String) (left right : Value)
deriving DecidableEq

namespace Misfit

def betweenKinds (left right : Value) : String := "'" ++ left.kind ++ "' and '" ++ right.kind ++ "'"

def message : Misfit → String
  | .negativeWidth => "negative shift count"
  | .noHexForm v =>
    match v with
    | .text _ | .float _ => "Unknown format code 'x' for object of type '" ++ v.kind ++ "'"
    | _ => "unsupported format string passed to " ++ v.kind ++ ".__format__"
  | .noName v => "unhashable type: '" ++ v.kind ++ "'"
  | .noItems v => "'" ++ v.kind ++ "' object is not iterable"
  | .noCharacter v =>
    match v with
    | .text s =>
      "ord() expected a character, but string of length " ++ decimalText s.length ++ " found"
    | _ => "ord() expected string of length 1, but " ++ v.kind ++ " found"
  | .noPart position v =>
    "sequence item " ++ decimalText position ++ ": expected str instance, " ++ v.kind ++ " found"
  | .noOperation operator left right =>
    "unsupported operand type(s) for " ++ operator ++ ": " ++ betweenKinds left right
  | .noOrder relation left right =>
    "'" ++ relation ++ "' not supported between instances of " ++ betweenKinds left right

/-- Whether the value is of a kind that fits, and only the value itself does not. -/
def isOfValue : Misfit → Bool
  | .negativeWidth | .noHexForm (.text _) | .noHexForm (.float _) => true
  | _ => false

end Misfit

namespace Value

/-- Whether the value can name something: lists and objects cannot. -/
def isName : Value → Bool
  | .list _ | .object _ => false
  | _ => true

/-- The value, if it can name something. -/
def asName (v : Value) : Except Misfit Value := if v.isName then .ok v else .error (.noName v)

/-- The number that a value is written as in hexadecimal. -/
def hexForm (v : Value) : Except Misfit Int :=
  match v.whole? with
  | some n => .ok n
  | none => .error (.noHexForm v)

end Value

end RegisterMap
