import TankArena.Arena.World

/-! Lines of sight along rows and columns. Nothing stands in the way of one. -/

namespace TankArena.Arena

/-- Shots reach this many cells. -/
def attackRange : Int := 3

/-- The distance reported when two tanks share neither row nor column. -/
def notAligned : Int := 999

/-- What an observer sees of a target: whether they share a row or column and not a cell, how far
apart they are, and whether the observer faces that way. -/
structure Sight where
  seen : Bool
  distance : Int
  ahead : Bool
  deriving DecidableEq, Repr, Inhabited

/-- A shot lands on a target that is seen, ahead and near enough. -/
def Sight.inRange (s : Sight) (range : Int := attackRange) : Bool :=
  s.seen && s.ahead && s.distance ≤ range

def sight (observer target : Tank) : Sight :=
  if observer.x = target.x then
    let d := target.y - observer.y
    { seen := 0 < d.natAbs
      distance := d.natAbs
      ahead := (d < 0 && observer.facing == .up) || (0 < d && observer.facing == .down) }
  else if observer.y = target.y then
    let d := target.x - observer.x
    { seen := 0 < d.natAbs
      distance := d.natAbs
      ahead := (0 < d && observer.facing == .right) || (d < 0 && observer.facing == .left) }
  else
    { seen := false, distance := notAligned, ahead := false }

end TankArena.Arena
