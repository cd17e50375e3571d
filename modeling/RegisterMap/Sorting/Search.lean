/-!
Searching the border in a list between the entries that come before something and those that do
not. A test of an entry may fail, and the first test that fails ends the search, so the order of the
tests is part of the result.
-/

set_option autoImplicit false

namespace RegisterMap.Sorting

variable {α ε : Type}

/-- Whether the entry at a position comes before; there is none beyond the end. -/
def probe (before : α → Except ε Bool) (entries : List α) (i : Nat) : Except ε Bool :=
  match entries[i]? with
  | some x => before x
  | none => .ok false

/-- The border between two positions, sought by halving. -/
def halve (before : α → Except ε Bool) (entries : List α) (low high : Nat) : Except ε Nat :=
  if low < high then do
    let middle := low + (high - low) / 2
    if ← probe before entries middle then halve before entries (middle + 1) high
    else halve before entries low middle
  else .ok low
termination_by high - low
decreasing_by all_goals omega

/-- Goes on in strides that double as long as the place passes the test, and within a limit. The
result is the last place that passed, and the next one. -/
def stride (passes : Nat → Except ε Bool) (limit last next : Nat) : Except ε (Nat × Nat) :=
  if next < limit then do
    if ← passes next then stride passes limit next (2 * next + 1) else return (last, next)
  else .ok (last, limit)
termination_by limit - next
decreasing_by omega

/-- The border, sought in strides from a position that is likely to be near it, and then by halving
the last stride. -/
def gallop (before : α → Except ε Bool) (entries : List α) (start : Nat) : Except ε Nat := do
  if ← probe before entries start then
    let up := fun n => probe before entries (start + n)
    let (last, next) ← stride up (entries.length - start) 0 1
    halve before entries (start + last + 1) (start + next)
  else
    let down := fun n => (probe before entries (start - n)).map not
    let (last, next) ← stride down (start + 1) 0 1
    halve before entries (start + 1 - next) (start - last)

end RegisterMap.Sorting
