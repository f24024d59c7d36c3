import TankArena.Arena.Sight
import TankArena.Script.Stmt

/-! What the statements of a script do to the actor and its opponent. -/

namespace TankArena.Machine

open Arena Script Text

def attackDamage : Int := 40

/-- The unit step of a course, for a tank with the given facing. -/
def courseVector (facing : Facing) : Course → Int × Int
  | .forward => facing.vector
  | .backward => (-facing.vector.1, -facing.vector.2)
  | .left => (facing.turned (-1)).vector
  | .right => (facing.turned 1).vector

/-- Drives cell by cell and stops where a wall pins the tank. -/
def drive (dx dy : Int) : Nat → Tank → Tank
  | 0, t => t
  | n + 1, t =>
    let next := t.shifted dx dy
    if next.x = t.x ∧ next.y = t.y then t else drive dx dy n next

/-- Moves the actor; a negative amount moves it nowhere. -/
def moveActor (w : World) (course : Course) (amount : Int) : World :=
  let v := courseVector w.actor.facing course
  { w with actor := drive v.1 v.2 amount.toNat w.actor }

def turnActor (w : World) (side : Side) : World :=
  let quarters := match side with
    | .left => -1
    | .right => 1
  { w with actor := { w.actor with facing := w.actor.facing.turned quarters } }

/-- The status line of a scan. -/
def scanMessage (s : Sight) : String :=
  if s.seen then "Enemy spotted at " ++ decimal s.distance ++ " tiles." else "No enemy in sight."

/-- Shoots at the opponent. -/
def attackOpponent (w : World) : World :=
  if (sight w.actor w.opponent).inRange then
    { w with opponent := w.opponent.damaged attackDamage, message := "ATTACK hit! Enemy -40 HP" }
  else
    { w with message := "ATTACK missed." }

end TankArena.Machine
