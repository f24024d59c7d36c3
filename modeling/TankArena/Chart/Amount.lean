import TankArena.Chart.Measure

/-! Amounts that a chart is given: whole numbers of any size, and measures. -/

namespace TankArena.Chart

open Text

inductive Amount
  | whole (n : Int)
  | measure (m : Measure)
  deriving DecidableEq, Repr

namespace Amount

def toMeasure : Amount → Measure
  | .whole n => .ofInt n
  | .measure m => m

/-- A whole number that no machine word of 64 bits holds, with or without a sign. -/
def exceedsWord : Amount → Bool
  | .whole n => n < -0x8000000000000000 || 0xFFFFFFFFFFFFFFFF < n
  | .measure _ => false

/-- The value of decimal digits. -/
def digitsValue (t : List Char) : Nat := ofDigits (t.map fun c => c.toNat - 48)

/-- The exponent after its mark. -/
def exponent : List Char → Int
  | '-' :: t => -(digitsValue t : Int)
  | '+' :: t => digitsValue t
  | t => digitsValue t

/-- Decimal digits times a power of ten. Beyond 400 places on either side of the point everything
is infinite or zero. -/
def scaled (digits : Nat) (power : Int) : Nat :=
  let top := (Nat.toDigits 10 digits).length + power
  if digits = 0 || top < -400 then 0
  else if 400 < top then Measure.infinite
  else if power < 0 then nearest (digits * Measure.one) (Nat.pow 10 power.natAbs)
  else nearest (digits * Nat.pow 10 power.natAbs * Measure.one) 1

/-- A decimal number without its sign: digits, decimals after a point, and an exponent. -/
def unsigned (t : List Char) : Nat :=
  let isMark (c : Char) : Bool := c == 'e' || c == 'E'
  let mantissa := t.takeWhile (!isMark ·)
  let decimals := (mantissa.dropWhile (· ≠ '.')).drop 1
  let power := exponent ((t.dropWhile (!isMark ·)).drop 1)
  scaled (digitsValue (mantissa.takeWhile (· ≠ '.') ++ decimals)) (power - decimals.length)

/-- Reads a decimal number. With neither point nor exponent it is a whole number. -/
def ofText (t : List Char) : Amount :=
  let negative := t.head? = some '-'
  let digits := if negative then t.drop 1 else t
  if digits.all Char.isDigit then
    .whole (if negative then -(digitsValue digits : Int) else digitsValue digits)
  else .measure { negative, size := unsigned digits }

end Amount

end TankArena.Chart
