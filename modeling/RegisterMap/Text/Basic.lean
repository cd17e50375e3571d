/-!
Text as it is written out. A text that was read from escapes may hold a half of a surrogate pair
without its other half; it is kept as it is, but no file can hold it. All other text is a string.
-/

set_option autoImplicit false

namespace RegisterMap

/-- A character, or the code of a half of a surrogate pair that stands alone. -/
inductive CodePoint
  | char (c : Char)
  | half (code : Nat)
deriving DecidableEq, Repr

namespace CodePoint

def number : CodePoint → Nat
  | char c => c.toNat
  | half code => code

def isHalf : CodePoint → Bool
  | char _ => false
  | half _ => true

def char? : CodePoint → Option Char
  | char c => some c
  | half _ => none

end CodePoint

abbrev Text := List CodePoint

namespace Text

def ofChars (cs : List Char) : Text := cs.map .char

def ofString (s : String) : Text := ofChars s.toList

instance : Coe String Text := ⟨ofString⟩

/-- The string that a text without halves is. -/
def string? (t : Text) : Option String := (t.mapM CodePoint.char?).map String.ofList

def join (parts : List Text) : Text := parts.flatten

/-- The parts with a separator between them. -/
def intercalate (separator : Text) (parts : List Text) : Text :=
  List.intercalate separator parts

/-- The order of the first code points in which two texts differ. -/
def precedes : Text → Text → Bool
  | _, [] => false
  | [], _ :: _ => true
  | p :: s, q :: t => p.number < q.number || p.number == q.number && precedes s t

/-- The first halves that stand together, with the number of code points before them. -/
def firstHalves? (t : Text) : Option (Nat × Text) :=
  let before := t.takeWhile fun p => !p.isHalf
  match t.dropWhile fun p => !p.isHalf with
  | [] => none
  | rest => some (before.length, rest.takeWhile CodePoint.isHalf)

theorem mapM_char?_ofChars (cs : List Char) : (ofChars cs).mapM CodePoint.char? = some cs := by
  induction cs with
  | nil => rfl
  | cons c cs ih =>
    rw [ofChars] at ih
    simp only [ofChars, List.map_cons, List.mapM_cons, ih]
    rfl

/-- A string is read back from its text. -/
@[simp] theorem string?_ofString (s : String) : string? (ofString s) = some s := by
  rw [string?, ofString, mapM_char?_ofChars, Option.map_some, String.ofList_toList]

theorem ofString_injective {s t : String} (same : ofString s = ofString t) : s = t := by
  have read := congrArg string? same
  rw [string?_ofString, string?_ofString] at read
  exact Option.some.inj read

end Text

end RegisterMap
