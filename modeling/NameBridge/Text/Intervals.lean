/-!
Sets of characters given as a list of closed intervals of code points.
-/

namespace NameBridge.Text

/-- Whether the code point `n` lies in one of the closed intervals. -/
def inIntervals (intervals : List (Nat × Nat)) (n : Nat) : Bool :=
  intervals.any fun (low, high) => low ≤ n && n ≤ high

theorem inIntervals_iff {intervals : List (Nat × Nat)} {n : Nat} :
    inIntervals intervals n = true ↔ ∃ i ∈ intervals, i.1 ≤ n ∧ n ≤ i.2 := by
  simp [inIntervals]

end NameBridge.Text
