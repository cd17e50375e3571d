import RegisterMap.Numeral.Digits
import RegisterMap.Text.Basic
import RegisterMap.Text.Printable

/-!
A text quoted inside a message. Single quotes stand around it, unless it holds a single quote and
no double quote. The quote and the backslash are escaped, and so is everything without a printed
form, by its letter or by its code.
-/

set_option autoImplicit false

namespace RegisterMap.Text

def quoteFor (t : Text) : Char :=
  if t.contains (.char '\'') && !t.contains (.char '"') then '"' else '\''

/-- A code with two, four or eight hexadecimal digits, as many as it needs. -/
def codeEscape (n : Nat) : String :=
  if n < 0x100 then "\\x" ++ Numeral.paddedHex 2 n
  else if n < 0x10000 then "\\u" ++ Numeral.paddedHex 4 n
  else "\\U" ++ Numeral.paddedHex 8 n

def quotedChar (quote c : Char) : String :=
  if c = quote || c = '\\' then String.ofList ['\\', c]
  else if c = '\n' then "\\n"
  else if c = '\r' then "\\r"
  else if c = '\t' then "\\t"
  else if isPrintable c then String.singleton c
  else codeEscape c.toNat

def quotedPoint (quote : Char) : CodePoint → String
  | .char c => quotedChar quote c
  | .half code => codeEscape code

def quoted (t : Text) : String :=
  let quote := String.singleton (quoteFor t)
  quote ++ String.join (t.map (quotedPoint (quoteFor t))) ++ quote

end RegisterMap.Text
