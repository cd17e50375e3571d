import RegisterMap.Sorting.Runs
import RegisterMap.Value.Misfit

/-!
The order of values. Numbers are compared with numbers and texts with texts, and there is no order
between other values.
-/

set_option autoImplicit false

namespace RegisterMap.Value

open Numeral (Binary64)

/-- Where a number stands: its side of the finite ones, and its multiple of the least unit. -/
def standing? : Value → Option (Int × Int)
  | .float x => x.standing?
  | v => v.whole?.map fun n => (0, Binary64.unitsOfInt n)

def isNumber : Value → Bool
  | .float _ => true
  | v => v.whole?.isSome

/-- Whether one number is less than another; nothing is less or greater than a NaN. -/
def numberPrecedes (a b : Value) : Bool :=
  match a.standing?, b.standing? with
  | some (s, m), some (t, n) => s < t || s == t && m < n
  | _, _ => false

/-- Whether one value is less than another. -/
def precedes (a b : Value) : Except Misfit Bool :=
  match a, b with
  | .text s, .text t => .ok (s.precedes t)
  | a, b => if a.isNumber && b.isNumber then .ok (numberPrecedes a b) else .error (.noOrder "<" a b)

/-- Sorts entries by their keys. Whole numbers have an order; other keys may turn out to have
none. -/
def sortBy {α : Type} (key : α → Value) (entries : List α) : Except Misfit (List α) :=
  match entries.mapM fun entry => (key entry).whole?.map fun n => (n, entry) with
  | some numbered => .ok ((numbered.mergeSort fun a b => a.1 ≤ b.1).map (·.2))
  | none => Sorting.sort (fun a b => precedes (key a) (key b)) entries

end RegisterMap.Value
