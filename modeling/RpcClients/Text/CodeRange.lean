/-! # Sets of code points, as lists of closed ranges -/

namespace RpcClients.Text

/-- The code point of `c` lies in one of the ranges, ends included. The ranges stand in ascending order:
a code point below one of them lies in none behind it. -/
def inRanges : List (Nat × Nat) → Char → Bool
  | [], _ => false
  | r :: rest, c => r.1 ≤ c.toNat && (c.toNat ≤ r.2 || inRanges rest c)

end RpcClients.Text
