import RegisterMap.Sorting.Search

/-!
Merging two neighbouring sorted lists into one. The heads are compared as long as both lists keep
giving entries; when one of them gives many in a row, whole stretches are sought and taken at once.
How many in a row that takes is the patience, which grows where the search of stretches does not pay
and shrinks where it does. The shorter list decides whether the merge begins at the front or at the
back.
-/

set_option autoImplicit false

namespace RegisterMap.Sorting

variable {α ε : Type}

/-- What is left of two lists, and what was taken from them, backwards. -/
structure Merging (α : Type) where
  left : List α
  right : List α
  done : List α := []

namespace Merging

def takeLeft (n : Nat) (m : Merging α) : Merging α :=
  { m with left := m.left.drop n, done := (m.left.take n).reverse ++ m.done }

def takeRight (n : Nat) (m : Merging α) : Merging α :=
  { m with right := m.right.drop n, done := (m.right.take n).reverse ++ m.done }

/-- Without comparison the last entry of the left list comes behind the right one. -/
def ended (m : Merging α) : Bool := m.right.isEmpty || m.left.length ≤ 1

def finish (m : Merging α) : List α := m.done.reverse ++ m.right ++ m.left

end Merging

/-- How entries are compared in a merge. Of the heads of both lists, the right one is taken if it is
to come first; a stretch of a list is what comes before the other list's head. -/
structure Direction (α ε : Type) where
  rightFirst : (left right : α) → Except ε Bool
  leftStretch : (right : α) → List α → Except ε Nat
  rightStretch : (left : α) → List α → Except ε Nat
  leftBegins : Bool

variable (less : α → α → Except ε Bool)

/-- Whether the second entry may stand behind the first one. -/
def notAfter (x y : α) : Except ε Bool := (less y x).map not

/-- From the front on, the left list is the first one. -/
def forward : Direction α ε :=
  { rightFirst := fun x y => less y x
    leftStretch := fun y xs => gallop (fun x => notAfter less x y) xs 0
    rightStretch := fun x ys => gallop (fun y => less y x) ys 0
    leftBegins := true }

/-- The length of the stretch behind a border, in a list that is given backwards. -/
def stretchBehind (before : α → Except ε Bool) (entries : List α) : Except ε Nat :=
  (gallop before entries.reverse (entries.length - 1)).map fun border => entries.length - border

/-- From the back on, both lists are given backwards, and the left one is the second. -/
def backward : Direction α ε :=
  { rightFirst := fun y x => less y x
    leftStretch := fun x ys => stretchBehind (fun y => less y x) ys
    rightStretch := fun y xs => stretchBehind (fun x => notAfter less x y) xs
    leftBegins := false }

/-- The way of going on: comparing heads, with the numbers of entries that either list has just
given in a row, or taking stretches. -/
inductive Pace
  | heads (left right : Nat)
  | stretches

def startingPatience : Nat := 7

namespace Direction

variable (d : Direction α ε)

/-- Takes a stretch of one list and then one entry of the other; given is the stretch's length. -/
def leap (ofLeft : Bool) (m : Merging α) : Except ε (Merging α × Nat) :=
  match m.left, m.right with
  | x :: _, y :: _ => do
    if ofLeft then
      let n ← d.leftStretch y m.left
      let m := m.takeLeft n
      return (if m.ended then m else m.takeRight 1, n)
    else
      let n ← d.rightStretch x m.right
      let m := m.takeRight n
      return (if m.ended then m else m.takeLeft 1, n)
  | _, _ => .ok (m, 0)

/-- Goes on until the merge has ended. Every round takes an entry, so as many units of fuel as there
are entries are enough. The patience is returned as well. -/
def proceed : Nat → Nat → Pace → Merging α → Except ε (Merging α × Nat)
  | 0, patience, _, m => .ok (m, patience)
  | fuel + 1, patience, .heads fromLeft fromRight, m =>
    match m.left, m.right with
    | x :: _, y :: _ => do
      let rightFirst ← d.rightFirst x y
      let m := if rightFirst then m.takeRight 1 else m.takeLeft 1
      let (fromLeft, fromRight) := if rightFirst then (0, fromRight + 1) else (fromLeft + 1, 0)
      if m.ended then return (m, patience)
      else if patience ≤ max fromLeft fromRight then
        proceed fuel (patience + 1) .stretches m
      else proceed fuel patience (.heads fromLeft fromRight) m
    | _, _ => .ok (m, patience)
  | fuel + 1, patience, .stretches, m => do
    let patience := if 1 < patience then patience - 1 else patience
    let (m, first) ← d.leap d.leftBegins m
    if m.ended then return (m, patience)
    let (m, second) ← d.leap (!d.leftBegins) m
    if m.ended then return (m, patience)
    if startingPatience ≤ max first second then proceed fuel patience .stretches m
    else proceed fuel (patience + 1) (.heads 0 0) m

/-- Merges two lists of which the right one gives the first entry. -/
def merge (patience : Nat) (left right : List α) : Except ε (List α × Nat) := do
  let m : Merging α := Merging.takeRight 1 { left := left, right := right }
  if m.ended then return (m.finish, patience)
  let (m, patience) ← d.proceed (left.length + right.length) patience (.heads 0 0) m
  return (m.finish, patience)

end Direction

/-- Merges what has to move: the entries of the first list that come behind the head of the second
one, and those of the second that come before the end of the first. -/
def mergeOverlap (patience : Nat) (xs ys : List α) : Except ε (List α × Nat) := do
  if xs.length ≤ ys.length then (forward less).merge patience xs ys
  else
    let (merged, patience) ← (backward less).merge patience ys.reverse xs.reverse
    return (merged.reverse, patience)

/-- Merges two sorted lists; of equal entries those of the first one stay in front. -/
def mergeRuns (patience : Nat) (xs ys : List α) : Except ε (List α × Nat) :=
  match ys with
  | [] => .ok (xs, patience)
  | y :: _ => do
    let kept ← gallop (fun x => notAfter less x y) xs 0
    match (xs.drop kept).getLast? with
    | none => return (xs ++ ys, patience)
    | some x =>
      let moved ← gallop (fun y => less y x) ys (ys.length - 1)
      if moved = 0 then return (xs ++ ys, patience)
      let (merged, patience) ← mergeOverlap less patience (xs.drop kept) (ys.take moved)
      return (xs.take kept ++ merged ++ ys.drop moved, patience)

end RegisterMap.Sorting
