import RegisterMap.Numeral.Word
import RegisterMap.Value.Members
import RegisterMap.Value.Basic

/-!
Reading a value from its text. Blanks are the space, the tab, the line feed and the carriage
return. A control character inside quotes, a comma before a closing bracket and anything behind the
value are refused, and so is a whole number of more digits than a decimal numeral may have. NaN and
the infinities are read as well. Lists and objects may stand inside one another up to a greatest
depth; what goes deeper is refused before it is known whether it is well-formed.
-/

set_option autoImplicit false

namespace RegisterMap.Json

open Numeral (Binary64 digits? value maxDigits)

def isSpace (c : Char) : Bool := c == ' ' || c == '\t' || c == '\n' || c == '\r'

def skipSpace (s : List Char) : List Char := s.dropWhile isSpace

/-- Whether the code is the first half of a pair that denotes one character. -/
def isHighHalf (n : Nat) : Bool := 0xD800 ≤ n && n ≤ 0xDBFF

def isLowHalf (n : Nat) : Bool := 0xDC00 ≤ n && n ≤ 0xDFFF

def pointOfCode (n : Nat) : CodePoint :=
  if isHighHalf n || isLowHalf n then .half n else .char (Char.ofNat n)

/-- Joins halves that stand together, given the codes backwards; a lone half stays one. -/
def pointsOfCodes (text : Text) : List Nat → Text
  | [] => text
  | low :: high :: rest =>
    if isLowHalf low && isHighHalf high then
      let code := 0x10000 + (high - 0xD800) * 0x400 + (low - 0xDC00)
      pointsOfCodes (.char (Char.ofNat code) :: text) rest
    else pointsOfCodes (pointOfCode low :: text) (high :: rest)
  | code :: rest => pointsOfCodes (pointOfCode code :: text) rest

def letterCode? : Char → Option Nat
  | '"' => some 0x22
  | '\\' => some 0x5C
  | '/' => some 0x2F
  | 'b' => some 0x08
  | 'f' => some 0x0C
  | 'n' => some 0x0A
  | 'r' => some 0x0D
  | 't' => some 0x09
  | _ => none

/-- Reads up to the closing quote; `codes` holds what was read, backwards. -/
def readString (codes : List Nat) : List Char → Option (Text × List Char)
  | '"' :: rest => some (pointsOfCodes [] codes, rest)
  | '\\' :: 'u' :: a :: b :: c :: d :: rest =>
    match digits? 16 [a, b, c, d] with
    | some ds => readString (value 16 ds :: codes) rest
    | none => none
  | '\\' :: letter :: rest =>
    match letterCode? letter with
    | some code => readString (code :: codes) rest
    | none => none
  | c :: rest => if c.toNat < 0x20 then none else readString (c.toNat :: codes) rest
  | [] => none

/-- The digits of a whole number: a zero alone, or digits that do not begin with one. -/
def wholeDigits (s : List Char) : List Char :=
  match s.takeWhile Char.isDigit with
  | '0' :: _ => ['0']
  | ds => ds

/-- The digits of a fraction, empty if no digit follows the point. -/
def fractionDigits : List Char → List Char
  | '.' :: rest => rest.takeWhile Char.isDigit
  | _ => []

/-- The exponent mark with its sign, and whether the sign is a minus. -/
def exponentMark : List Char → Option (Nat × Bool)
  | e :: '-' :: _ => if e = 'e' || e = 'E' then some (2, true) else none
  | e :: '+' :: _ => if e = 'e' || e = 'E' then some (2, false) else none
  | e :: _ => if e = 'e' || e = 'E' then some (1, false) else none
  | [] => none

/-- An exponent and its length, if a mark is followed by digits. -/
def exponent? (s : List Char) : Option (Int × Nat) :=
  match exponentMark s with
  | none => none
  | some (mark, negative) =>
    let ds := (s.drop mark).takeWhile Char.isDigit
    match digits? 10 ds with
    | none => none
    | some digits =>
      let n : Int := value 10 digits
      some (if negative then -n else n, mark + ds.length)

/-- A number without its sign. -/
def readMagnitude (negative : Bool) (s : List Char) : Option (Value × List Char) :=
  match digits? 10 (wholeDigits s) with
  | none => none
  | some whole =>
    let afterWhole := s.drop whole.length
    let fraction := fractionDigits afterWhole
    let afterFraction :=
      if fraction.isEmpty then afterWhole else afterWhole.drop (fraction.length + 1)
    let exponent := exponent? afterFraction
    if fraction.isEmpty && exponent.isNone then
      let n : Int := value 10 whole
      if maxDigits < whole.length then none
      else some (.int (if negative then -n else n), afterWhole)
    else
      let all := whole ++ (digits? 10 fraction).getD []
      let (power, length) := exponent.getD (0, 0)
      some (.float (Binary64.ofDecimal negative (value 10 all) (power - fraction.length)),
        afterFraction.drop length)

/-- The rest behind a word that the text begins with. -/
def afterWord? : List Char → List Char → Option (List Char)
  | [], s => some s
  | c :: word, d :: s => if c = d then afterWord? word s else none
  | _ :: _, [] => none

def words : List (String × Value) :=
  [("null", .null), ("true", .bool true), ("false", .bool false), ("NaN", .float .nan),
    ("Infinity", .float (.infinity false)), ("-Infinity", .float (.infinity true))]

def readWord (s : List Char) : Option (Value × List Char) :=
  words.findSome? fun (word, v) => (afterWord? word.toList s).map (v, ·)

def readScalar (s : List Char) : Option (Value × List Char) :=
  match readWord s with
  | some found => some found
  | none => match s with
    | '-' :: rest => readMagnitude true rest
    | _ => readMagnitude false s

/-- What may hold other values. -/
inductive Nest
  | list
  | object
deriving DecidableEq, Repr

/-- Why a text is not read: it is no value, or a list or an object in it lies too deep. -/
inductive Fault
  | malformed
  | tooDeep (nest : Nest)
deriving DecidableEq, Repr

def maxDepth : Nat := 975

abbrev Progress := Except Fault (Value × List Char)

def orMalformed {α : Type} : Option α → Except Fault α
  | some v => .ok v
  | none => .error .malformed

/-- What follows an item or a member: the next one, or the end behind the closing bracket. -/
inductive Following
  | next (rest : List Char)
  | finished (rest : List Char)

def following (closing : Char) (s : List Char) : Except Fault Following :=
  match skipSpace s with
  | ',' :: rest => .ok (.next (skipSpace rest))
  | c :: rest => if c = closing then .ok (.finished rest) else .error .malformed
  | [] => .error .malformed

/-- The name of a member, up to where its value begins. -/
def readName : List Char → Except Fault (Text × List Char)
  | '"' :: rest => do
    let (name, rest) ← orMalformed (readString [] rest)
    match skipSpace rest with
    | ':' :: rest => return (name, skipSpace rest)
    | _ => .error .malformed
  | _ => .error .malformed

mutual

/-- Reads a value; `depth` is the number of lists and objects that it may stand in. -/
def readValue : Nat → (depth : Nat) → List Char → Progress
  | 0, _, _ => .error .malformed
  | _ + 1, _, '"' :: rest => (orMalformed (readString [] rest)).map fun (s, rest) => (.text s, rest)
  | _ + 1, 0, '[' :: _ => .error (.tooDeep .list)
  | _ + 1, 0, '{' :: _ => .error (.tooDeep .object)
  | fuel + 1, depth + 1, '[' :: rest =>
    match skipSpace rest with
    | ']' :: rest => .ok (.list [], rest)
    | rest => readItems fuel depth [] rest
  | fuel + 1, depth + 1, '{' :: rest =>
    match skipSpace rest with
    | '}' :: rest => .ok (.object [], rest)
    | rest => readMembers fuel depth [] rest
  | _ + 1, _, s => orMalformed (readScalar s)

/-- Reads the items of a list; those read before are given backwards. -/
def readItems : Nat → (depth : Nat) → List Value → List Char → Progress
  | 0, _, _, _ => .error .malformed
  | fuel + 1, depth, before, s => do
    let (v, rest) ← readValue fuel depth s
    match ← following ']' rest with
    | .next rest => readItems fuel depth (v :: before) rest
    | .finished rest => return (.list (v :: before).reverse, rest)

/-- Reads the members of an object; those read before are given backwards. -/
def readMembers : Nat → (depth : Nat) → List (Text × Value) → List Char → Progress
  | 0, _, _, _ => .error .malformed
  | fuel + 1, depth, before, s => do
    let (name, rest) ← readName s
    let (v, rest) ← readValue fuel depth rest
    match ← following '}' rest with
    | .next rest => readMembers fuel depth ((name, v) :: before) rest
    | .finished rest =>
      return (.object (Members.ofList (· == ·) ((name, v) :: before).reverse), rest)

end

/-- Two units of fuel for every character are enough: a bracket is read in two steps. -/
def ofText (s : String) : Except Fault Value := do
  let cs := skipSpace s.toList
  let (v, rest) ← readValue (2 * cs.length + 2) maxDepth cs
  if (skipSpace rest).isEmpty then return v else .error .malformed

end RegisterMap.Json
