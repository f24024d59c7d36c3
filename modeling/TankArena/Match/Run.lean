import TankArena.Match.Simulation
import TankArena.Settings.Basic

/-! Matches: a program played to the first stop, with a record of every tick. -/

namespace TankArena.Match

open Arena Machine Script

/-- The world right after a tick, and whether the machine did something in it. -/
structure Record where
  tick : Int
  executed : Bool := true
  actor : Tank
  opponent : Tank
  message : String
  deriving DecidableEq, Repr, Inhabited

/-- The recorded world. -/
def Record.world (r : Record) : World :=
  { actor := r.actor, opponent := r.opponent, tick := r.tick, message := r.message }

/-- A tick that was played. -/
structure Played where
  executed : Bool
  after : Simulation
  deriving DecidableEq, Inhabited

def Played.record (p : Played) : Record where
  tick := p.after.world.tick
  executed := p.executed
  actor := p.after.world.actor
  opponent := p.after.world.opponent
  message := p.after.world.message

/-- The ticks played from a simulation when `limit` of them are left: until a tank is destroyed or,
if the settings say so, the program is finished. -/
def playedWithin (settings : Settings) : (limit : Nat) → Simulation → List Played
  | 0, _ => []
  | limit + 1, s =>
    if s.isOver then []
    else
      match s.tick with
      | .error _ => []
      | .ok (executed, next) =>
        ⟨executed, next⟩ ::
          if settings.stopWhenFinished && next.isFinished then []
          else playedWithin settings limit next

/-- The ticks that are left before the limit. -/
def ticksLeft (settings : Settings) (s : Simulation) : Nat :=
  (settings.maxTicks - s.world.tick).toNat

/-- The ticks of a match. -/
def played (settings : Settings) (s : Simulation) : List Played :=
  playedWithin settings (ticksLeft settings s) s

/-- The fault that ends a match when `limit` ticks are left, if there is one. -/
def faultWithin (settings : Settings) : (limit : Nat) → Simulation → Option Fault
  | 0, _ => none
  | limit + 1, s =>
    if s.isOver then none
    else
      match s.tick with
      | .error fault => some fault
      | .ok (_, next) =>
        if settings.stopWhenFinished && next.isFinished then none
        else faultWithin settings limit next

/-- The outcome of a match. -/
structure Result where
  winner : Option Winner
  ticks : Int
  actorHealth : Int
  opponentHealth : Int
  programFinished : Bool
  statementsExecuted : Nat
  history : List Record
  deriving DecidableEq, Inhabited

namespace Result

def isDraw (r : Result) : Bool := r.winner.isNone

def winnerName (r : Result) : String :=
  match r.winner with
  | none => "Draw"
  | some .actor => "Player"
  | some .opponent => "Enemy"

/-- Three points for a victory and one for a draw. -/
def points (r : Result) : Nat :=
  match r.winner with
  | some .actor => 3
  | none => 1
  | some .opponent => 0

def damageDealt (r : Result) : Int := maxHealth - r.opponentHealth

def damageTaken (r : Result) : Int := maxHealth - r.actorHealth

end Result

/-- Plays a program from a starting world. The history is kept if `keep` is set. -/
def run (settings : Settings) (keep : Bool) (program : Program) (start : World := .initial) :
    Result :=
  let s : Simulation := { program, world := start }
  let ticks := played settings s
  let final := (ticks.getLast?.map Played.after).getD s
  { winner := final.winner
    ticks := final.world.tick
    actorHealth := final.world.actor.health
    opponentHealth := final.world.opponent.health
    programFinished := final.isFinished
    statementsExecuted := ticks.countP Played.executed
    history := if keep then ticks.map Played.record else [] }

/-- Plays a program from any world. A match that comes to a fault has no result. -/
def runFrom (settings : Settings) (keep : Bool) (program : Program) (start : World) :
    Except Fault Result :=
  let s : Simulation := { program, world := start }
  match faultWithin settings (ticksLeft settings s) s with
  | some fault => .error fault
  | none => .ok (run settings keep program start)

end TankArena.Match
