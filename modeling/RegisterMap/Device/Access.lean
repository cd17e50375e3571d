import RegisterMap.Text.Fold

/-!
Access rights of registers and fields, and the truth values of processor properties, with the words
that name them in any case.
-/

set_option autoImplicit false

namespace RegisterMap

inductive Access
  | readOnly
  | writeOnly
  | readWrite
deriving DecidableEq, Repr

namespace Access

def all : List Access := [.readOnly, .writeOnly, .readWrite]

def text : Access → String
  | .readOnly => "read-only"
  | .writeOnly => "write-only"
  | .readWrite => "read-write"

def ofText? (s : List Char) : Option Access :=
  all.find? fun a => Text.fold s = a.text.toList

def readable (a : Access) : Bool := a ≠ .writeOnly

def writable (a : Access) : Bool := a ≠ .readOnly

end Access

/-- The truth value that a word names. -/
def truth? (s : List Char) : Option Bool :=
  if Text.fold s = "true".toList then some true
  else if Text.fold s = "false".toList then some false
  else none

end RegisterMap
