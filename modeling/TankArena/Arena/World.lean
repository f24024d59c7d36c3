import TankArena.Arena.Facing

/-! Tanks and the world they stand in. -/

namespace TankArena.Arena

/-- The board has as many rows and columns. -/
def gridSize : Int := 20

def maxHealth : Int := 100

def clamp (value low high : Int) : Int := max low (min high value)

/-- A tank. With no health left it is destroyed and stays on the board. -/
structure Tank where
  x : Int
  y : Int
  facing : Facing := .up
  health : Int := maxHealth
  deriving DecidableEq, Repr, Inhabited

namespace Tank

def isDestroyed (t : Tank) : Bool := t.health ≤ 0

/-- Takes health away, never below zero. -/
def damaged (t : Tank) (amount : Int) : Tank := { t with health := max 0 (t.health - amount) }

/-- Moves by an offset and stays on the board. -/
def shifted (t : Tank) (dx dy : Int) : Tank :=
  { t with x := clamp (t.x + dx) 0 (gridSize - 1), y := clamp (t.y + dy) 0 (gridSize - 1) }

end Tank

/-- Both tanks, the clock, and the status line of the last event. -/
structure World where
  actor : Tank
  opponent : Tank
  tick : Int := 0
  message : String := ""
  deriving DecidableEq, Repr, Inhabited

/-- The opening: the actor at the lower left facing up, the opponent at the upper right facing
down. -/
def World.initial : World where
  actor := { x := 2, y := gridSize - 3, facing := .up }
  opponent := { x := gridSize - 3, y := 2, facing := .down }

end TankArena.Arena
