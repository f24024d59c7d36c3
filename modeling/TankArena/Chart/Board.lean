import TankArena.Arena.World
import TankArena.Chart.Figure

/-! The board as a figure, and as a grid of occupied cells. -/

namespace TankArena.Chart

open Arena Text

/-- A number of hundredths. -/
def hundredths (n : Int) : Measure := .ofQuotient n 100

/-- The length of a health bar: seven tenths of a cell for full health. -/
def healthWidth (health : Int) : Except ChartError Measure := do
  let share ← finite .quotientTooLarge (.ofQuotient health maxHealth.toNat)
  return share.clamp (units 0) (units 1) * hundredths 70

/-- What is drawn of one tank. -/
structure TankDrawing where
  body : Patch
  turret : Curve
  healthBar : Patch

/-- The body of a tank, its barrel, from the middle of its cell along its facing, and its health
bar. -/
def drawTank (t : Tank) (color : String) : Except ChartError TankDrawing := do
  let x ← finite .tooLarge (units t.x)
  let y ← finite .tooLarge (units t.y)
  let width ← healthWidth t.health
  let middleX := x + hundredths 50
  let middleY := y + hundredths 50
  let (dx, dy) := t.facing.vector
  return {
    body :=
      { shape := .box, x := x + hundredths 15, y := y + hundredths 15, width := hundredths 70
        height := hundredths 70, color }
    turret :=
      { xs := [middleX, middleX + hundredths (45 * dx)]
        ys := [middleY, middleY + hundredths (45 * dy)], color }
    healthBar :=
      { shape := .bar, x := x + hundredths 15, y := y + hundredths 88, width
        height := hundredths 7, color := healthColor } }

/-- The clock and the status line. -/
def boardTitle (w : World) : Except ChartError String :=
  telling w.tick
    ("Tick " ++ decimal w.tick ++ ": " ++ (if w.message.isEmpty then "Ready." else w.message))

/-- The board with both tanks; row 0 is at the top. Without a title it gets the clock and the status
line for one. -/
def board (typesetter : Typesetter) (w : World) (title : Option String) :
    Except ChartError Figure := do
  let actor ← drawTank w.actor actorColor
  let opponent ← drawTank w.opponent opponentColor
  let title ← (title.map .ok).getD (boardTitle w)
  checkText typesetter title
  return {
    axes := .board (units 0) (units gridSize) (2 * (gridSize.toNat + 1))
    width := units 7
    height := units 7
    title
    bottom := units gridSize
    top := units 0
    legend := ["Player " ++ decimal w.actor.health ++ " HP",
      "Enemy " ++ decimal w.opponent.health ++ " HP"]
    curves := [actor.turret, opponent.turret]
    patches := [actor.body, actor.healthBar, opponent.body, opponent.healthBar] }

/-- Why a tank is on no cell of the grid. -/
inductive GridError
  /-- A coordinate needs all 64 bits of a word, which leaves none for a sign. -/
  | unsignedWord
  /-- A coordinate fits no word of 64 bits. -/
  | noWord
  /-- A row (axis 0) or a column (axis 1) is outside. -/
  | outside (index : Int) (axis : Nat)
  deriving DecidableEq, Repr

def GridError.message : GridError → String
  | .unsignedWord => "Python int too large to convert to C long"
  | .noWord => "only integers, slices (`:`), ellipsis (`...`), numpy.newaxis (`None`) and " ++
      "integer or boolean arrays are valid indices"
  | .outside index axis => "index " ++ decimal index ++ " is out of bounds for axis " ++
      decimal axis ++ " with size " ++ decimal gridSize

/-- A coordinate that fits a word of 64 bits with a sign. -/
def gridWord (i : Int) : Except GridError Int :=
  if -0x8000000000000000 ≤ i ∧ i < 0x8000000000000000 then .ok i
  else if 0 < i ∧ i ≤ 0xFFFFFFFFFFFFFFFF then .error .unsignedWord
  else .error .noWord

/-- The row or column under an index; a negative index counts from the end. -/
def gridIndex (axis : Nat) (i : Int) : Except GridError Nat :=
  if 0 ≤ i ∧ i < gridSize then .ok i.toNat
  else if -gridSize ≤ i ∧ i < 0 then .ok (gridSize + i).toNat
  else .error (.outside i axis)

/-- The row and the column of a tank. -/
def gridCell (t : Tank) : Except GridError (Nat × Nat) := do
  let y ← gridWord t.y
  let x ← gridWord t.x
  let row ← gridIndex 0 y
  let column ← gridIndex 1 x
  return (row, column)

/-- The occupied cells of the grid, row by row: 0 for an empty cell, 1 for the actor, 2 for the
opponent, who covers the actor on a shared cell. -/
def occupancy (w : World) : Except GridError (List (List Nat)) := do
  let actor ← gridCell w.actor
  let opponent ← gridCell w.opponent
  return (List.range gridSize.toNat).map fun row => (List.range gridSize.toNat).map fun column =>
    if (row, column) = opponent then 2 else if (row, column) = actor then 1 else 0

/-- The cells that are not empty: row, column and value. -/
def occupiedCells (rows : List (List Nat)) : List (Nat × Nat × Nat) :=
  rows.zipIdx.flatMap fun (cells, row) =>
    cells.zipIdx.filterMap fun (value, column) =>
      if value = 0 then none else some (row, column, value)

end TankArena.Chart
