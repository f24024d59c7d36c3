/-! Membership of a character in a table of code point ranges. -/

namespace TankArena.Text

/-- Whether a character lies in one of the ranges, ends included. -/
def inRanges (table : List (Nat × Nat)) (c : Char) : Bool :=
  table.any fun r => r.1 ≤ c.toNat && c.toNat ≤ r.2

end TankArena.Text
