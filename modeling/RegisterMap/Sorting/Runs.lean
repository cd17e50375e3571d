import RegisterMap.Sorting.Merge

/-!
Sorting with a comparison that may fail. The list is cut into runs that are already sorted, short
ones being made longer by inserting what follows them, and neighbouring runs are merged. Equal
entries keep their order. The first comparison that fails ends the sorting, so the order of the
comparisons is part of the result.
-/

set_option autoImplicit false

namespace RegisterMap.Sorting

variable {α ε : Type} (less : α → α → Except ε Bool)

/-- Puts an entry into its place, behind those that equal it. -/
def insertSorted (sorted : List α) (entry : α) : Except ε (List α) := do
  let position ← halve (fun x => notAfter less x entry) sorted 0 sorted.length
  return sorted.take position ++ entry :: sorted.drop position

/-- Takes entries off the front as long as each is less than the one before it, or each is not. The
run is given backwards, and is returned with what follows it. -/
def runFrom (descending : Bool) (run : List α) (last : α) : List α → Except ε (List α × List α)
  | [] => .ok (run, [])
  | entry :: rest => do
    if (← less entry last) == descending then runFrom descending (entry :: run) entry rest
    else return (run, entry :: rest)

/-- The run at the front in ascending order, and what follows it. -/
def firstRun : List α → Except ε (List α × List α)
  | first :: second :: rest => do
    let descending ← less second first
    let (run, rest) ← runFrom less descending [second, first] second rest
    return (if descending then run else run.reverse, rest)
  | entries => .ok (entries, [])

/-- The run at the front, made as long as the least length as far as there are entries. -/
def longRun (least : Nat) (entries : List α) : Except ε (List α × List α) := do
  let (run, rest) ← firstRun less entries
  let short := least - run.length
  return (← (rest.take short).foldlM (insertSorted less) run, rest.drop short)

/-- The least length of runs: a number below 64 that divides the length into a power of two parts,
or nearly so; one is added if a bit of the length was lost. -/
def leastRun (lost : Nat) (length : Nat) : Nat :=
  if 64 ≤ length then leastRun (max lost (length % 2)) (length / 2) else length + lost
termination_by length
decreasing_by omega

/-- A sorted stretch of the list, where it begins, and the power of the border behind it. -/
structure Run (α : Type) where
  start : Nat
  entries : List α
  power : Nat := 0

/-- The first binary digit in which two numbers differ as parts of the total; the numbers are below
twice the total, and no more digits are looked at than there is fuel. -/
def firstDifference (total : Nat) : Nat → Nat → Nat → Nat
  | 0, _, _ => 0
  | fuel + 1, a, b =>
    if total ≤ a then firstDifference total fuel (2 * (a - total)) (2 * (b - total)) + 1
    else if total ≤ b then 1
    else firstDifference total fuel (2 * a) (2 * b) + 1

/-- The power of the border between a run and the next one: the depth at which their middles part
when the whole list is halved again and again. -/
def borderPower (total : Nat) (run : Run α) (nextLength : Nat) : Nat :=
  let middle := 2 * run.start + run.entries.length
  firstDifference total (total + 1) middle (middle + run.entries.length + nextLength)

/-- Merges the last two runs as long as the border between them has a greater power. The runs are
given from the last one on. -/
def settle (power : Nat) : Nat → Nat → List (Run α) → Except ε (List (Run α) × Nat)
  | fuel + 1, patience, last :: previous :: others => do
    if previous.power ≤ power then return (last :: previous :: others, patience)
    let (merged, patience) ← mergeRuns less patience previous.entries last.entries
    settle power fuel patience ({ previous with entries := merged } :: others)
  | _, patience, runs => .ok (runs, patience)

/-- Adds a run behind the others, after those that are settled now have been merged. -/
def addRun (total patience : Nat) (runs : List (Run α)) (run : Run α) :
    Except ε (List (Run α) × Nat) :=
  match runs with
  | [] => .ok ([run], patience)
  | last :: others => do
    let power := borderPower total last run.entries.length
    let (runs, patience) ← settle less power runs.length patience (last :: others)
    match runs with
    | last :: others => return (run :: { last with power := power } :: others, patience)
    | [] => return ([run], patience)

/-- Cuts entries into runs behind those found before. Every run takes an entry off, so as many units
of fuel as there are entries are enough. -/
def cutRuns (total least : Nat) :
    Nat → Nat → List (Run α) → List α → Except ε (List (Run α) × Nat)
  | 0, patience, runs, _ | _, patience, runs, [] => .ok (runs, patience)
  | fuel + 1, patience, runs, entry :: rest => do
    let (run, following) ← longRun less least (entry :: rest)
    let start := total - (rest.length + 1)
    let (runs, patience) ← addRun less total patience runs { start := start, entries := run }
    cutRuns total least fuel patience runs following

/-- Merges all runs, given from the last one on; where the last one is longer than the one before
its neighbour, that is merged with the neighbour first. -/
def mergeAll : Nat → Nat → List (Run α) → Except ε (List α)
  | fuel + 1, patience, last :: second :: third :: others => do
    if third.entries.length < last.entries.length then
      let (merged, patience) ← mergeRuns less patience third.entries second.entries
      mergeAll fuel patience (last :: { third with entries := merged } :: others)
    else
      let (merged, patience) ← mergeRuns less patience second.entries last.entries
      mergeAll fuel patience ({ second with entries := merged } :: third :: others)
  | _, patience, [last, second] =>
    (mergeRuns less patience second.entries last.entries).map (·.1)
  | _, _, runs => .ok (runs.flatMap Run.entries)

def sort (entries : List α) : Except ε (List α) := do
  let total := entries.length
  let (runs, patience) ←
    cutRuns less total (leastRun 0 total) total startingPatience [] entries
  mergeAll less runs.length patience runs

end RegisterMap.Sorting
