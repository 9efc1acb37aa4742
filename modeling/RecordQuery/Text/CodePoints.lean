/-!
# Sets of code points

A Unicode property is given as the list of its ranges of code points.
-/

namespace RecordQuery.Text

/-- A set of code points: inclusive ranges in increasing order. -/
abbrev CodePoints := List (Nat × Nat)

/-- Membership in a set of code points. -/
def CodePoints.contains (ranges : CodePoints) (n : Nat) : Bool :=
  List.any ranges fun (first, last) => first ≤ n && n ≤ last

theorem CodePoints.contains_iff {ranges : CodePoints} {n : Nat} :
    ranges.contains n = true ↔ ∃ r ∈ ranges, r.1 ≤ n ∧ n ≤ r.2 := by
  simp [CodePoints.contains, List.any_eq_true]

end RecordQuery.Text
