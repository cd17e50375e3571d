import RegisterMap.Text.Blank
import RegisterMap.Text.WordChar

/-!
The attribute that names the entity which another one is derived from. In the text behind a tag's
name it is sought as its name in any case, not right behind a word character, an equals sign that
may have blanks around it, and a value in quotes of either kind. The value ends at the first quote
of the kind that opened it and may not run over a line feed. The leftmost place where all this
holds counts; an attempt that fails is repeated one character further on.
-/

set_option autoImplicit false

namespace RegisterMap.Document

open Text (isWordChar trimLeft)

def attributeName : List Char := "derivedfrom".toList

/-- Whether the character is the lower-case letter in some case; an i may have or lack its dot. -/
def isLetter (letter c : Char) : Bool :=
  c.toLower == letter || letter == 'i' && (c == '\u0130' || c == '\u0131')

/-- What follows the name, if the text begins with it. -/
def afterName? : List Char → List Char → Option (List Char)
  | [], s => some s
  | letter :: name, c :: s => if isLetter letter c then afterName? name s else none
  | _ :: _, [] => none

def afterEquals? (s : List Char) : Option (List Char) :=
  match trimLeft s with
  | '=' :: rest => some (trimLeft rest)
  | _ => none

/-- The text up to the quote, if that comes before any line feed. -/
def upToQuote? (quote : Char) (s : List Char) : Option (List Char) :=
  match s.dropWhile (fun c => c ≠ quote && c ≠ '\n') with
  | c :: _ => if c = quote then some (s.takeWhile fun c => c ≠ quote && c ≠ '\n') else none
  | [] => none

def quotedValue? : List Char → Option (List Char)
  | '"' :: s => upToQuote? '"' s
  | '\'' :: s => upToQuote? '\'' s
  | _ => none

/-- The value of the attribute, if one begins right here. -/
def valueHere? (s : List Char) : Option (List Char) :=
  ((afterName? attributeName s).bind afterEquals?).bind quotedValue?

/-- The value of the leftmost attribute; `inWord` says whether a word character stands before. -/
def findValue? (inWord : Bool) : List Char → Option (List Char)
  | [] => none
  | c :: s =>
    match if inWord then none else valueHere? (c :: s) with
    | some v => some v
    | none => findValue? (isWordChar c) s

def derivedFrom? (s : List Char) : Option (List Char) := findValue? false s

end RegisterMap.Document
