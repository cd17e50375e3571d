import RegisterMap.Document.Place
import RegisterMap.Numeral.Word
import RegisterMap.Value.Display

/-!
Why a description cannot be read to its end.
-/

set_option autoImplicit false

namespace RegisterMap.Document

open Numeral (decimalText)

inductive Fault
  | truncated (lines : Nat) (place : Place)
  | registerBeforeBase (line : Nat) (peripheral : Value)
  | numeralTooLong (numeral : Numeral.TooLong)
deriving DecidableEq

def Fault.message : Fault → Text
  | .truncated lines place =>
    "Input ended after " ++ decimalText lines ++ " lines while parsing " ++ place.text ++
      "; the document is truncated or invalid"
  | .registerBeforeBase line peripheral =>
    "Register declared at line " ++ decimalText line ++ " in peripheral '" ++
      (peripheral.orElse (.ofString "<unnamed>")).display ++ "' before its base address is known"
  | .numeralTooLong numeral => numeral.message

end RegisterMap.Document
