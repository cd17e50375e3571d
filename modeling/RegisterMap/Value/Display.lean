import RegisterMap.Numeral.Digits
import RegisterMap.Numeral.Shortest
import RegisterMap.Text.Quoted
import RegisterMap.Value.Basic

/-!
The form that a value takes inside other text. A text stands for itself, but is quoted inside a list
or an object.
-/

set_option autoImplicit false

namespace RegisterMap.Value

open Numeral (decimalText)

mutual

/-- The form inside a list or an object, where texts are quoted. -/
def displayInside : Value → String
  | .null => "None"
  | .bool true => "True"
  | .bool false => "False"
  | .int n => decimalText n
  | .float x => x.text "nan" "inf"
  | .text s => Text.quoted s
  | .list items => "[" ++ String.intercalate ", " (displayItems items) ++ "]"
  | .object members => "\x7b" ++ String.intercalate ", " (displayMembers members) ++ "\x7d"

def displayItems : List Value → List String
  | [] => []
  | v :: rest => displayInside v :: displayItems rest

def displayMembers : List (Text × Value) → List String
  | [] => []
  | (name, v) :: rest => (Text.quoted name ++ ": " ++ displayInside v) :: displayMembers rest

end

def display : Value → Text
  | .text s => s
  | v => displayInside v

@[simp] theorem display_text (s : Text) : display (.text s) = s := rfl

end RegisterMap.Value
