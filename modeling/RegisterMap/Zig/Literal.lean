import RegisterMap.Numeral.Digits
import RegisterMap.Value.Misfit

/-!
String literals of Zig. Quotes, backslashes and the common control characters are escaped by a
backslash and a letter, the other control characters by their code with two digits.
-/

set_option autoImplicit false

namespace RegisterMap.Zig

def literalChar (c : Char) : String :=
  match c with
  | '\\' => "\\\\"
  | '"' => "\\\""
  | '\n' => "\\n"
  | '\r' => "\\r"
  | '\t' => "\\t"
  | c =>
    if c.toNat < 0x20 || c.toNat = 0x7F then "\\x" ++ Numeral.paddedHex 2 c.toNat
    else String.singleton c

def literalPoint : CodePoint → Text
  | .char c => literalChar c
  | .half code => [.half code]

def literal (s : Text) : Text := "\"" ++ s.flatMap literalPoint ++ "\""

/-- The character that a value stands for in a list of characters. -/
def spelledPoint (v : Value) : Except Misfit CodePoint :=
  match v with
  | .text [p] => .ok p
  | v => if v.isName then .error (.noCharacter v) else .error (.noName v)

/-- The text that a value spells. Nothing is unknown, a list spells the characters in it, and an
object its names. -/
def spelled (v : Value) : Except Misfit Text :=
  if v.isNothing then .ok "unknown"
  else match v with
    | .text s => .ok s
    | .list items => items.mapM spelledPoint
    | .object members => members.mapM fun m => spelledPoint (.text m.1)
    | v => .error (.noItems v)

end RegisterMap.Zig
