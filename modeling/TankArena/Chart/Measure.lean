import TankArena.Text.Number

/-! Positions and lengths in figures: binary numbers of 53 significant bits, rounded to the nearest
after every operation. -/

namespace TankArena.Chart

open Text

/-- A quotient rounded to a whole number; a half goes to the even neighbour. -/
def roundDiv (num den : Nat) : Nat :=
  let whole := num / den
  let part := num % den
  if den < 2 * part || (2 * part = den && whole % 2 = 1) then whole + 1 else whole

/-- A quotient rounded to 53 significant bits. -/
def nearest (num den : Nat) : Nat :=
  let spare := (num / den).log2 + 1 - 53
  roundDiv num (den <<< spare) <<< spare

/-- A sign, and a size on a grid of steps so fine that every number of the format lies on it. Zero
has a sign too. -/
structure Measure where
  negative : Bool := false
  size : Nat
  deriving DecidableEq, Repr

namespace Measure

/-- Steps of the grid in a length of one. -/
def one : Nat := 1 <<< 1074

/-- The least size that is too large for the format and counts as infinite. -/
def infinite : Nat := one <<< 1024

def isFinite (m : Measure) : Bool := m.size < infinite

def ofQuotient (num : Int) (den : Nat) : Measure where
  negative := num < 0
  size := nearest (num.natAbs * one) den

def ofInt (n : Int) : Measure := ofQuotient n 1

/-- The number of steps with its sign. -/
def steps (m : Measure) : Int := if m.negative then -m.size else m.size

def ofSteps (n : Int) : Measure where
  negative := n < 0
  size := nearest n.natAbs 1

instance : Add Measure := ⟨fun a b => ofSteps (a.steps + b.steps)⟩

instance : Sub Measure := ⟨fun a b => ofSteps (a.steps - b.steps)⟩

instance : Mul Measure :=
  ⟨fun a b => { negative := a.negative != b.negative, size := nearest (a.size * b.size) one }⟩

/-- A measure cut to what lies between two others. -/
def clamp (m low high : Measure) : Measure :=
  if high.steps < m.steps then high else if m.steps < low.steps then low else m

/-- A number of ten-thousandths with its decimal point. -/
def placesText (n : Nat) : String :=
  decimal (n / 10000 : Nat) ++ "." ++ padLeft '0' 4 (decimal (n % 10000 : Nat))

/-- A measure with four decimal places. What rounds to zero has no sign. -/
def text (m : Measure) : String :=
  let rounded := roundDiv (m.size * 10000) one
  (if m.negative && rounded ≠ 0 then "-" else "") ++
    if m.isFinite then placesText rounded else "inf"

/-- A measure rounded to a whole number, with its sign. -/
def wholeText (m : Measure) : String :=
  (if m.negative then "-" else "") ++
    if m.isFinite then decimal (roundDiv m.size one) else "inf"

end Measure

end TankArena.Chart
