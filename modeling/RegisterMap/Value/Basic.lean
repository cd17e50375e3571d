import RegisterMap.Numeral.Binary64
import RegisterMap.Text.Basic

/-!
Values of any kind: null, truth values, whole and floating-point numbers, texts, lists, and objects
whose members keep their order. The attributes of a model are such values, since whoever builds or
edits a model may put any value anywhere; it is kept as it is, and only its use can fail.
-/

set_option autoImplicit false

namespace RegisterMap

open Numeral (Binary64)

inductive Value
  | null
  | bool (b : Bool)
  | int (n : Int)
  | float (x : Binary64)
  | text (s : Text)
  | list (items : List Value)
  | object (members : List (Text × Value))

namespace Value

def ofString (s : String) : Value := .text (Text.ofString s)

/-- The value of something that may be missing. -/
def orNull {α : Type} (write : α → Value) : Option α → Value
  | some v => write v
  | none => .null

def isNull : Value → Bool
  | .null => true
  | _ => false

theorem isNull_iff {v : Value} : v.isNull = true ↔ v = .null := by
  cases v <;> simp [isNull]

def isObject : Value → Bool
  | .object _ => true
  | _ => false

/-- The word that messages use for the kind of a value. -/
def kind : Value → String
  | .null => "NoneType"
  | .bool _ => "bool"
  | .int _ => "int"
  | .float _ => "float"
  | .text _ => "str"
  | .list _ => "list"
  | .object _ => "dict"

/-- What counts as nothing: null, false, a zero, and an empty text, list or object. -/
def isNothing : Value → Bool
  | .null | .bool false | .int 0 | .text [] | .list [] | .object [] => true
  | .float x => x.isZero
  | _ => false

/-- The whole number that a value counts as; truth values count as 1 and 0. -/
def whole? : Value → Option Int
  | .int n => some n
  | .bool b => some (if b then 1 else 0)
  | _ => none

/-- The value, or another one in place of null. -/
def getD (v other : Value) : Value := if v.isNull then other else v

/-- The value, or another one in place of nothing. -/
def orElse (v other : Value) : Value := if v.isNothing then other else v

mutual

def decEq : (a b : Value) → Decidable (a = b)
  | .null, b => match b with
    | .null => isTrue rfl
    | .bool _ | .int _ | .float _ | .text _ | .list _ | .object _ => isFalse nofun
  | .bool x, b => match b with
    | .bool y => if h : x = y then isTrue (h ▸ rfl) else isFalse fun e => h (Value.bool.inj e)
    | .null | .int _ | .float _ | .text _ | .list _ | .object _ => isFalse nofun
  | .int x, b => match b with
    | .int y => if h : x = y then isTrue (h ▸ rfl) else isFalse fun e => h (Value.int.inj e)
    | .null | .bool _ | .float _ | .text _ | .list _ | .object _ => isFalse nofun
  | .float x, b => match b with
    | .float y => if h : x = y then isTrue (h ▸ rfl) else isFalse fun e => h (Value.float.inj e)
    | .null | .bool _ | .int _ | .text _ | .list _ | .object _ => isFalse nofun
  | .text x, b => match b with
    | .text y => if h : x = y then isTrue (h ▸ rfl) else isFalse fun e => h (Value.text.inj e)
    | .null | .bool _ | .int _ | .float _ | .list _ | .object _ => isFalse nofun
  | .list x, b => match b with
    | .list y => match decEqItems x y with
      | isTrue h => isTrue (h ▸ rfl)
      | isFalse h => isFalse fun e => h (Value.list.inj e)
    | .null | .bool _ | .int _ | .float _ | .text _ | .object _ => isFalse nofun
  | .object x, b => match b with
    | .object y => match decEqMembers x y with
      | isTrue h => isTrue (h ▸ rfl)
      | isFalse h => isFalse fun e => h (Value.object.inj e)
    | .null | .bool _ | .int _ | .float _ | .text _ | .list _ => isFalse nofun

def decEqItems : (a b : List Value) → Decidable (a = b)
  | [], [] => isTrue rfl
  | [], _ :: _ => isFalse nofun
  | _ :: _, [] => isFalse nofun
  | a :: as, b :: bs => match decEq a b, decEqItems as bs with
    | isTrue h, isTrue t => isTrue (h ▸ t ▸ rfl)
    | isFalse h, _ => isFalse fun e => h (List.cons.inj e).1
    | _, isFalse t => isFalse fun e => t (List.cons.inj e).2

def decEqMembers : (a b : List (Text × Value)) → Decidable (a = b)
  | [], [] => isTrue rfl
  | [], _ :: _ => isFalse nofun
  | _ :: _, [] => isFalse nofun
  | (k, a) :: as, (l, b) :: bs =>
    if hk : k = l then
      match decEq a b, decEqMembers as bs with
      | isTrue h, isTrue t => isTrue (hk ▸ h ▸ t ▸ rfl)
      | isFalse h, _ => isFalse fun e => h (Prod.mk.inj (List.cons.inj e).1).2
      | _, isFalse t => isFalse fun e => t (List.cons.inj e).2
    else isFalse fun e => hk (Prod.mk.inj (List.cons.inj e).1).1

end

instance instDecidableEq : DecidableEq Value := decEq

end Value

end RegisterMap
