set_option autoImplicit false

namespace RespStore.Text

/-- Closed ranges of code points, each above the one before it. -/
abbrev CodeRanges := List (Nat × Nat)

/-- Looks through the ranges in order, up to the first that lies above the code point. -/
def CodeRanges.containsCode : CodeRanges → Nat → Bool
  | [], _ => false
  | (low, high) :: rest, n => low ≤ n && (n ≤ high || CodeRanges.containsCode rest n)

def CodeRanges.contains (ranges : CodeRanges) (c : Char) : Bool :=
  ranges.containsCode c.toNat

end RespStore.Text
