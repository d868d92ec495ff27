namespace CallFlow.Text

/-- Whether a code point lies in one of the ranges. The ranges are sorted, so the search stops
at the first range that begins after it. -/
def inRanges : List (Nat × Nat) → Nat → Bool
  | [], _ => false
  | (low, high) :: rest, n => if n < low then false else n ≤ high || inRanges rest n

end CallFlow.Text
