import RegisterMap.Zig.Literal

/-!
The declarations that a rendered device consists of, and their lines of Zig source. Types of
register words are given by their text.
-/

set_option autoImplicit false

namespace RegisterMap.Zig

open Numeral (hexText)

/-- What stands in a struct of constants. -/
inductive Member
  | doc (comment : Text)
  | string (name value : Text)
  | flag (name : Text) (value : Bool)
  | plain (name : Text) (value : Value)
deriving DecidableEq

/-- Registers are named together with their peripheral, and fields with both. -/
inductive Declaration
  | blank
  | remark (comment : String)
  | doc (comment : Text)
  | string (name value : Text)
  | plain (name : Text) (value : Value)
  | struct (name : Text) (members : List Member)
  | baseAddress (peripheral : Text) (base : Int)
  | address (register : Text) (base offset : Int)
  | resetValue (register wordType : Text) (value : Int)
  | writer (register wordType : Text) (mask : Nat)
  | reader (register wordType : Text)
  | fieldOffset (field : Text) (offset : Value)
  | fieldMask (field : Text) (mask : Nat)
  | fieldSetter (field : Text) (mask : Nat) (offset : Value)
deriving DecidableEq

def hexLiteral (n : Int) : String := "0x" ++ hexText n

def boolLiteral (b : Bool) : String := if b then "true" else "false"

def constant (name value : Text) : Text := "pub const " ++ name ++ " = " ++ value ++ ";"

def docLine (comment : Text) : Text := "/// " ++ comment

def indented (line : Text) : Text := "    " ++ line

def Member.line : Member → Text
  | .doc comment => docLine comment
  | .string name value => constant name (literal value)
  | .flag name value => constant name (boolLiteral value)
  | .plain name value => constant name value.display

/-- The pointer to the word of a register. -/
def pointerLine (register wordType : Text) : Text :=
  "const mmio_ptr = @intToPtr(*volatile " ++ wordType ++ ", " ++ register ++ "_Address);"

def structOpening (name : Text) : Text := "pub const " ++ name ++ " = struct \x7b"

def functionOpening (signature : Text) : Text := "pub inline fn " ++ signature ++ " \x7b"

def closing : Text := "\x7d"

def Declaration.lines : Declaration → List Text
  | .blank => [[]]
  | .remark comment => ["// " ++ comment]
  | .doc comment => [docLine comment]
  | .string name value => [constant name (literal value)]
  | .plain name value => [constant name value.display]
  | .struct name members =>
    structOpening name :: members.map (fun m => indented m.line) ++ [closing ++ ";"]
  | .baseAddress peripheral base => [constant (peripheral ++ "_Base_Address") (hexLiteral base)]
  | .address register base offset =>
    [constant (register ++ "_Address") (hexLiteral base ++ " + " ++ hexLiteral offset)]
  | .resetValue register wordType value =>
    [constant (register ++ "_Reset_Value: " ++ wordType) (hexLiteral value)]
  | .writer register wordType mask =>
    [functionOpening (register ++ "_Write(setting: " ++ wordType ++ ") void"),
      indented ("const write_mask = " ++ hexLiteral mask ++ ";"),
      indented (pointerLine register wordType),
      indented "mmio_ptr.* = setting & write_mask;",
      closing]
  | .reader register wordType =>
    [functionOpening (register ++ "_Read() " ++ wordType),
      indented (pointerLine register wordType),
      indented "return mmio_ptr.*;",
      closing]
  | .fieldOffset field offset => [constant (field ++ "_Offset") offset.display]
  | .fieldMask field mask => [constant (field ++ "_Mask") (hexLiteral mask)]
  | .fieldSetter field mask offset =>
    [functionOpening (field ++ "(setting: u32) u32"),
      indented ("return (setting & " ++ hexLiteral mask ++ ") << " ++ offset.display ++ ";"),
      closing]

end RegisterMap.Zig
