/-!
Sets of characters as sorted lists of closed ranges of code points.
-/

namespace ServiceMonitor.Text

def inRanges (n : Nat) : List (Nat × Nat) → Bool
  | [] => false
  | (lo, hi) :: rs => (lo ≤ n && n ≤ hi) || (hi < n && inRanges n rs)

end ServiceMonitor.Text
