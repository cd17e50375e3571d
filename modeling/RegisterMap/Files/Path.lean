/-!
Paths of files. Empty components and single dots are dropped; a component of two dots stays, since
where it leads depends on the files. A path begins at a root of one slash or of exactly two, or
else at the working directory.
-/

set_option autoImplicit false

namespace RegisterMap

structure Path where
  root : String
  parts : List String
deriving DecidableEq, Repr

namespace Path

/-- The pieces of a text between slashes. -/
def pieces : List Char → List (List Char)
  | [] => [[]]
  | '/' :: rest => [] :: pieces rest
  | c :: rest =>
    match pieces rest with
    | piece :: others => (c :: piece) :: others
    | [] => [[c]]

def rootOf : List Char → String
  | '/' :: '/' :: '/' :: _ => "/"
  | '/' :: '/' :: _ => "//"
  | '/' :: _ => "/"
  | _ => ""

def ofText (s : String) : Path :=
  { root := rootOf s.toList
    parts := (pieces s.toList).map String.ofList |>.filter fun part => part ≠ "" && part ≠ "." }

/-- The text of a path without components is a dot, unless it has a root. -/
def text (p : Path) : String :=
  if p.root = "" && p.parts.isEmpty then "." else p.root ++ String.intercalate "/" p.parts

/-- The path seen from the root, given the working directory. -/
def absolute (directory : String) (p : Path) : Path :=
  if p.root = "" then { ofText directory with parts := (ofText directory).parts ++ p.parts } else p

def maxNameBytes : Nat := 255

def maxBytes : Nat := 4095

/-- Whether no directory can have an entry of this name. -/
def isLongName (name : String) : Bool := maxNameBytes < name.utf8ByteSize

/-- Whether the path is too long as a whole. -/
def isLong (p : Path) : Bool := maxBytes < p.text.utf8ByteSize

/-- Whether a null character stands in the path, so that it leads nowhere. -/
def hasNull (p : Path) : Bool := p.parts.any fun part => part.toList.contains '\x00'

end Path

end RegisterMap
