import TankArena.Arena.Sight

/-! The opponent's fixed rule: fire at an actor in range ahead, else turn toward it and roll one
cell. -/

namespace TankArena.Arena

open Text

def opponentDamage : Int := 15

/-- The facing along the larger offset; the vertical one wins a tie. -/
def facingToward (dx dy : Int) : Facing :=
  if dy.natAbs < dx.natAbs then
    if 0 < dx then .right else .left
  else
    if 0 < dy then .down else .up

def firingNotice : String := " | Enemy fires (-15 HP)"

/-- The opponent's move of one tick. A destroyed opponent does nothing. -/
def World.opponentStep (w : World) : World :=
  if w.opponent.isDestroyed then w
  else if (sight w.opponent w.actor).inRange then
    { w with actor := w.actor.damaged opponentDamage, message := w.message ++ firingNotice }
  else
    let facing := facingToward (w.actor.x - w.opponent.x) (w.actor.y - w.opponent.y)
    { w with opponent := { w.opponent with facing }.shifted facing.vector.1 facing.vector.2 }

end TankArena.Arena
