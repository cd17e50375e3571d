import RegisterMap.Value.Basic
import RegisterMap.Value.Members

/-!
Equality of values by what they denote. Truth values count as 1 and 0, a whole number equals the
floating-point number of its value, and the order of an object's members does not matter.
-/

set_option autoImplicit false

namespace RegisterMap.Value

/-- Truth values as the numbers that they count as. -/
def counted : Value → Value
  | .bool true => .int 1
  | .bool false => .int 0
  | v => v

def scalarAlike (a b : Value) : Bool :=
  match counted a, counted b with
  | .null, .null => true
  | .int m, .int n => m == n
  | .int m, .float y => y.equalsInt m
  | .float x, .int n => x.equalsInt n
  | .float x, .float y => x.sameValue y
  | .text s, .text t => s == t
  | _, _ => false

mutual

def alike : Value → Value → Bool
  | .list as, .list bs => itemsAlike as bs
  | .object ms, .object ns => ms.length == ns.length && membersAlike ms ns
  | a, b => scalarAlike a b

def itemsAlike : List Value → List Value → Bool
  | [], [] => true
  | a :: as, b :: bs => alike a b && itemsAlike as bs
  | _, _ => false

/-- Whether every member has a counterpart of its name in the other object. -/
def membersAlike : List (Text × Value) → List (Text × Value) → Bool
  | [], _ => true
  | (name, v) :: rest, others =>
    (match Members.get? (· == ·) name others with
      | some w => alike v w
      | none => false) && membersAlike rest others

end

@[simp] theorem alike_text (s t : Text) : alike (.text s) (.text t) = (s == t) := by
  simp [alike, scalarAlike, counted]

theorem alike_text_iff (v : Value) (s : Text) : v.alike (.text s) = true ↔ v = .text s := by
  cases v with
  | bool b => cases b <;> simp [alike, scalarAlike, counted]
  | _ => simp [alike, scalarAlike, counted]

theorem text_alike_iff (s : Text) (v : Value) : (Value.text s).alike v = true ↔ v = .text s := by
  cases v with
  | bool b => cases b <;> simp [alike, scalarAlike, counted]
  | text t =>
    rw [alike_text, beq_iff_eq, Value.text.injEq]
    exact eq_comm
  | _ => simp [alike, scalarAlike, counted]

@[simp] theorem alike_int (m n : Int) : alike (.int m) (.int n) = (m == n) := by
  simp [alike, scalarAlike, counted]

end RegisterMap.Value
