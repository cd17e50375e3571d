/-!
White space and the two cuts that the line reader makes with it: the blanks at both ends of a text
are dropped, and the first word is taken off the text after it. Blank are the space separators, the
line and paragraph separators, and the control characters that separate text.
-/

set_option autoImplicit false

namespace RegisterMap.Text

def isBlank (c : Char) : Bool :=
  let n := c.toNat
  (0x09 ≤ n && n ≤ 0x0D) || (0x1C ≤ n && n ≤ 0x20) || n == 0x85 || n == 0xA0 || n == 0x1680 ||
    (0x2000 ≤ n && n ≤ 0x200A) || n == 0x2028 || n == 0x2029 || n == 0x202F || n == 0x205F ||
    n == 0x3000

def trimLeft (s : List Char) : List Char := s.dropWhile isBlank

def trimRight (s : List Char) : List Char := (s.reverse.dropWhile isBlank).reverse

def trim (s : List Char) : List Char := trimRight (trimLeft s)

/-- The first word, empty if the text is blank. -/
def firstWord (s : List Char) : List Char := (trimLeft s).takeWhile (!isBlank ·)

/-- What follows the first word and the blanks behind it; blanks at the far end stay. -/
def afterFirstWord (s : List Char) : List Char :=
  trimLeft ((trimLeft s).dropWhile (!isBlank ·))

end RegisterMap.Text
