import RegisterMap.Document.Fault

/-!
Notices: what is reported about a run besides its result, each with its level of importance.
-/

set_option autoImplicit false

namespace RegisterMap

open Numeral (decimalText)

inductive Level
  | debug
  | info
  | warning
  | error
  | critical
deriving DecidableEq, Repr

namespace Level

def rank : Level → Nat
  | .debug => 0
  | .info => 1
  | .warning => 2
  | .error => 3
  | .critical => 4

def text : Level → String
  | .debug => "DEBUG"
  | .info => "INFO"
  | .warning => "WARNING"
  | .error => "ERROR"
  | .critical => "CRITICAL"

end Level

inductive Notice
  | moved (line : Nat) (source target : Document.Place)
  | interruptDropped (line : Nat) (name vector : Value)
  | unknownBase (line : Nat) (name : String)
  | failed (fault : Document.Fault)
  | completed (device : Value) (peripherals interrupts : Nat)
  | unknownSelection (names : List Text)
  | emptySelection
  | invalidFile (path : String) (fault : Document.Fault)
deriving DecidableEq

namespace Notice

def level : Notice → Level
  | .moved .. | .interruptDropped .. => .debug
  | .completed .. => .info
  | .unknownBase .. | .unknownSelection _ | .emptySelection => .warning
  | .failed _ => .error
  | .invalidFile .. => .critical

def atLine (line : Nat) (text : Text) : Text := "line " ++ decimalText line ++ ": " ++ text

def text : Notice → Text
  | .moved line source target => atLine line (source.caption ++ " -> " ++ target.caption)
  | .interruptDropped line name vector =>
    atLine line ("interrupt '" ++ name.display ++ "' (vector " ++ vector.display ++
      ") is already defined or has no vector number")
  | .unknownBase line name =>
    atLine line ("peripheral derived from unknown peripheral '" ++ name ++ "' is skipped")
  | .failed fault => fault.message
  | .completed device peripherals interrupts =>
    "Parsed device '" ++ device.display ++ "' with " ++ decimalText peripherals ++ " peripherals and " ++
      decimalText interrupts ++ " interrupts"
  | .unknownSelection names =>
    "Selector references peripherals that don't exist in the device: " ++
      Text.intercalate ", " names
  | .emptySelection => "No part of the device was selected"
  | .invalidFile path fault => "Invalid SVD file " ++ path ++ ": " ++ fault.message

end Notice

end RegisterMap
