/-!
Lines of a text. A line ends at a line feed, at a carriage return, or at a carriage return with a
line feed behind it; each way it is given a line feed at its end. Only the last line may lack one,
and an empty rest is no line.
-/

set_option autoImplicit false

namespace RegisterMap.Text

/-- The state between two characters: the finished lines, last line first, the characters of the
open line, last character first, and whether the character before was a carriage return. -/
structure LineCutter where
  finished : List String := []
  line : List Char := []
  afterReturn : Bool := false
deriving DecidableEq, Repr

def LineCutter.endLine (s : LineCutter) (afterReturn : Bool) : LineCutter :=
  ⟨String.ofList ('\n' :: s.line).reverse :: s.finished, [], afterReturn⟩

def LineCutter.read (s : LineCutter) (c : Char) : LineCutter :=
  if c = '\n' then if s.afterReturn then { s with afterReturn := false } else s.endLine false
  else if c = '\r' then s.endLine true
  else ⟨s.finished, c :: s.line, false⟩

def LineCutter.finish (s : LineCutter) : List String :=
  if s.line.isEmpty then s.finished.reverse
  else (String.ofList s.line.reverse :: s.finished).reverse

def lines (s : List Char) : List String := (s.foldl LineCutter.read {}).finish

end RegisterMap.Text
