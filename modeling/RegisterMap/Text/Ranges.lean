/-!
Character classes given as closed ranges of code points.
-/

set_option autoImplicit false

namespace RegisterMap.Text

/-- Whether the character lies in one of the ranges. -/
def inRanges (ranges : List (Nat × Nat)) (c : Char) : Bool :=
  ranges.any fun r => r.1 ≤ c.toNat && c.toNat ≤ r.2

theorem inRanges_of_mem {ranges : List (Nat × Nat)} {r : Nat × Nat} {c : Char} (known : r ∈ ranges)
    (low : r.1 ≤ c.toNat) (high : c.toNat ≤ r.2) : inRanges ranges c = true :=
  List.any_eq_true.2 ⟨r, known, by simp [low, high]⟩

end RegisterMap.Text
