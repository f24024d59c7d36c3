import TankArena.Text.Quoted

/-! The four facings, in clockwise order. -/

namespace TankArena.Arena

open Text

inductive Facing
  | up | right | down | left
  deriving DecidableEq, Repr, Inhabited

namespace Facing

def name : Facing → String
  | .up => "UP"
  | .right => "RIGHT"
  | .down => "DOWN"
  | .left => "LEFT"

/-- Quarter turns clockwise from up. -/
def index : Facing → Int
  | .up => 0
  | .right => 1
  | .down => 2
  | .left => 3

def ofName? (name : String) : Option Facing :=
  [Facing.up, .right, .down, .left].find? (·.name == name)

/-- The facing that lies the given number of quarter turns clockwise from up. -/
def ofIndex (i : Int) : Facing :=
  match (i % 4).toNat with
  | 0 => .up
  | 1 => .right
  | 2 => .down
  | _ => .left

/-- Turns clockwise by quarter turns; a negative number turns the other way. -/
def turned (f : Facing) (quarters : Int) : Facing := ofIndex (f.index + quarters)

/-- The unit step along a facing; y grows downward. -/
def vector : Facing → Int × Int
  | .up => (0, -1)
  | .right => (1, 0)
  | .down => (0, 1)
  | .left => (-1, 0)

end Facing

/-- How a name that is no facing is reported. -/
def unknownFacing (name : String) : String := quoted name

end TankArena.Arena
