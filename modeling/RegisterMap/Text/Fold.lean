/-!
Names and keywords are compared without regard to case. They are spelled in ASCII letters, so it is
enough to fold the characters whose lower case is an ASCII letter: the ASCII capitals and the kelvin
sign.
-/

set_option autoImplicit false

namespace RegisterMap.Text

def foldChar (c : Char) : Char := if c = '\u212A' then 'k' else c.toLower

def fold (s : List Char) : List Char := s.map foldChar

end RegisterMap.Text
