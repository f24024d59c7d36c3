import TankArena.Text.Quoted

/-! Why a script is not read: a direction word looks right in capitals and is not, or blocks stand too
deep inside one another. -/

namespace TankArena.Script

open Text

inductive ReadError
  | course (word : String)
  | side (word : String)
  /-- There is no room for one more reading inside the others. -/
  | tooDeep
  deriving DecidableEq, Repr

def ReadError.message : ReadError → String
  | .course word => quoted word ++ " is not a valid MoveDirection"
  | .side word => quoted word ++ " is not a valid TurnSide"
  | .tooDeep => "maximum recursion depth exceeded"

end TankArena.Script
