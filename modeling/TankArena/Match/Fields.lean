import TankArena.Match.Run

/-! Records as data that names the facings, and the worlds rebuilt from them. -/

namespace TankArena.Arena

/-- A tank whose facing is given by its name. -/
structure TankFields where
  x : Int
  y : Int
  facing : String := Facing.up.name
  health : Int := maxHealth
  deriving DecidableEq, Repr, Inhabited

def Tank.fields (t : Tank) : TankFields where
  x := t.x
  y := t.y
  facing := t.facing.name
  health := t.health

/-- The tank, or the name if it is the name of no facing. -/
def TankFields.tank (f : TankFields) : Except String Tank :=
  match Facing.ofName? f.facing with
  | some facing => .ok { x := f.x, y := f.y, facing, health := f.health }
  | none => .error f.facing

end TankArena.Arena

namespace TankArena.Match

open Arena

/-- A record whose facings are given by their names. -/
structure RecordFields where
  tick : Int
  executed : Bool := true
  actor : TankFields
  opponent : TankFields
  message : String
  deriving DecidableEq, Repr, Inhabited

def Record.fields (r : Record) : RecordFields where
  tick := r.tick
  executed := r.executed
  actor := r.actor.fields
  opponent := r.opponent.fields
  message := r.message

/-- The recorded world, or the first name of no facing. -/
def RecordFields.world (f : RecordFields) : Except String World := do
  let actor ← f.actor.tank
  let opponent ← f.opponent.tank
  return { actor, opponent, tick := f.tick, message := f.message }

end TankArena.Match
