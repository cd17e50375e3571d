import RegisterMap.Numeral.Digits
import RegisterMap.Numeral.Shortest
import RegisterMap.Value.Basic

/-!
Writing a value as JSON. `pretty` gives each member and item a line of its own, indented by two
spaces a level, and `compact` writes all on one line; both are plain ASCII, with all else given by
codes.
-/

set_option autoImplicit false

namespace RegisterMap.Json

open Numeral (paddedHex decimalText)

def codeText (n : Nat) : String := "\\u" ++ paddedHex 4 n

/-- The code of a character, or the codes of its two halves beyond U+FFFF. -/
def codes (c : Char) : String :=
  let n := c.toNat
  if n < 0x10000 then codeText n
  else
    let m := n - 0x10000
    codeText (0xD800 + m / 0x400) ++ codeText (0xDC00 + m % 0x400)

def stringChar (c : Char) : String :=
  match c with
  | '"' => "\\\""
  | '\\' => "\\\\"
  | '\n' => "\\n"
  | '\r' => "\\r"
  | '\t' => "\\t"
  | '\x08' => "\\b"
  | '\x0C' => "\\f"
  | c => if 0x20 ≤ c.toNat && c.toNat < 0x7F then String.singleton c else codes c

def stringPoint : CodePoint → String
  | .char c => stringChar c
  | .half code => codeText code

def stringText (s : Text) : String := "\"" ++ String.join (s.map stringPoint) ++ "\""

def floatText (x : Numeral.Binary64) : String := x.text "NaN" "Infinity"

def scalarText : Value → String
  | .null => "null"
  | .bool true => "true"
  | .bool false => "false"
  | .int n => decimalText n
  | .float x => floatText x
  | .text s => stringText s
  | .list _ => "[]"
  | .object _ => "\x7b\x7d"

/-- The name under which a value stands in an object: its text, or the text that it is written as. -/
def nameText : Value → Text
  | .text s => s
  | v => scalarText v

def lineStart (depth : Nat) : String := "\n" ++ String.ofList (List.replicate (2 * depth) ' ')

/-- The parts between brackets, each on a line one level deeper. -/
def bracketed (opening closing : String) (depth : Nat) (parts : List String) : String :=
  opening ++ lineStart (depth + 1) ++ String.intercalate ("," ++ lineStart (depth + 1)) parts ++
    lineStart depth ++ closing

mutual

def prettyAt (depth : Nat) : Value → String
  | .list (v :: rest) =>
    bracketed "[" "]" depth (prettyAt (depth + 1) v :: prettyItems (depth + 1) rest)
  | .object ((name, v) :: rest) =>
    bracketed "\x7b" "\x7d" depth
      ((stringText name ++ ": " ++ prettyAt (depth + 1) v) :: prettyMembers (depth + 1) rest)
  | v => scalarText v

def prettyItems (depth : Nat) : List Value → List String
  | [] => []
  | v :: rest => prettyAt depth v :: prettyItems depth rest

def prettyMembers (depth : Nat) : List (Text × Value) → List String
  | [] => []
  | (name, v) :: rest => (stringText name ++ ": " ++ prettyAt depth v) :: prettyMembers depth rest

end

def pretty (v : Value) : String := prettyAt 0 v

mutual

def compact : Value → String
  | .list items => "[" ++ String.intercalate "," (compactItems items) ++ "]"
  | .object members => "\x7b" ++ String.intercalate "," (compactMembers members) ++ "\x7d"
  | v => scalarText v

def compactItems : List Value → List String
  | [] => []
  | v :: rest => compact v :: compactItems rest

def compactMembers : List (Text × Value) → List String
  | [] => []
  | (name, v) :: rest => (stringText name ++ ":" ++ compact v) :: compactMembers rest

end

end RegisterMap.Json
