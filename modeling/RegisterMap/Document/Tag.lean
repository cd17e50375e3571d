import RegisterMap.Document.DerivedFrom

/-!
The tag that a line begins with. A description has at most one element on a line, so that no tree
is built: a line gives the name in its first tag, the text from there to the next tag on the line,
and the name of a base that the tag derives from.
-/

set_option autoImplicit false

namespace RegisterMap.Document

/-- The name keeps the slash of a closing tag, and one that ends it. There is no content if no
other tag begins on the line. -/
structure Tag where
  name : String
  content : Option String := none
  derivedFrom : Option String := none
deriving DecidableEq, Repr

/-- The text up to the character, if that occurs. -/
def upTo? (stop : Char) (s : List Char) : Option (List Char) :=
  if s.contains stop then some (s.takeWhile (· ≠ stop)) else none

/-- The tag whose text stands between angle brackets, with what follows it on its line. -/
def Tag.ofParts (inner after : List Char) : Tag :=
  { name := String.ofList (Text.firstWord inner)
    content := (upTo? '<' after).map String.ofList
    derivedFrom := (derivedFrom? (Text.afterFirstWord inner)).map String.ofList }

/-- A line without a complete tag at its beginning has none. -/
def Tag.ofLine? (line : String) : Option Tag :=
  match Text.trim line.toList with
  | '<' :: rest =>
    match rest.dropWhile (· ≠ '>') with
    | _ :: after => some (ofParts (rest.takeWhile (· ≠ '>')) after)
    | [] => none
  | _ => none

end RegisterMap.Document
