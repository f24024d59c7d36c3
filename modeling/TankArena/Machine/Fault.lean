import TankArena.Text.Digit

/-! Faults: why a step of the machine comes to nothing. -/

namespace TankArena.Machine

open Text

inductive Fault
  /-- The counter lies before the first statement. -/
  | counterOutOfRange
  /-- The counter fits no machine word. -/
  | counterTooLarge
  /-- A number has too many digits to be said. -/
  | tooManyDigits
  deriving DecidableEq, Repr

def Fault.message : Fault → String
  | .counterOutOfRange => "tuple index out of range"
  | .counterTooLarge => "cannot fit 'int' into an index-sized integer"
  | .tooManyDigits => digitLimitMessage

end TankArena.Machine
