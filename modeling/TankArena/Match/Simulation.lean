import TankArena.Arena.Opponent
import TankArena.Machine.Step

/-! A program, the world it acts on, and the clock that drives both. -/

namespace TankArena.Match

open Arena Machine Script

inductive Winner
  | actor | opponent
  deriving DecidableEq, Repr

structure Simulation where
  program : Program
  world : World := .initial
  runtime : Runtime := {}
  deriving DecidableEq, Inhabited

namespace Simulation

/-- Takes another program and leaves world and runtime as they are. -/
def load (s : Simulation) (program : Program) : Simulation := { s with program }

/-- Starts over with the same program. -/
def reset (s : Simulation) : Simulation := { program := s.program }

def isOver (s : Simulation) : Bool := s.world.actor.isDestroyed || s.world.opponent.isDestroyed

/-- The tank left standing; if both are destroyed the actor counts as the winner. -/
def winner (s : Simulation) : Option Winner :=
  if s.world.opponent.isDestroyed then some .actor
  else if s.world.actor.isDestroyed then some .opponent
  else none

def isFinished (s : Simulation) : Bool := s.runtime.isFinished s.program

end Simulation

/-- Adds a notice to a status line. -/
def joinNotice (message notice : String) : String :=
  if message.isEmpty then notice else message ++ " | " ++ notice

/-- Says which tank is destroyed. -/
def announceOutcome (w : World) : World :=
  let m := w.message
  let m := if w.opponent.isDestroyed then joinNotice m "Enemy destroyed!" else m
  let m := if w.actor.isDestroyed then joinNotice m "You were destroyed." else m
  { w with message := m }

/-- What follows the machine's step in a tick: the opponent, the clock, the outcome. -/
def afterStep (w : World) : World :=
  let w := w.opponentStep
  announceOutcome { w with tick := w.tick + 1 }

/-- One tick, and whether the machine did something in it. Once a tank is destroyed nothing
happens any more. -/
def Simulation.tick (s : Simulation) : Except Fault (Bool × Simulation) :=
  if s.isOver then .ok (false, s)
  else
    (step s.program ⟨s.world, s.runtime⟩).map fun
      | some t => (true, { s with world := afterStep t.world, runtime := t.runtime })
      | none => (false, { s with world := afterStep s.world })

/-- What a tick that comes to a fault leaves behind. -/
def Simulation.afterFault (s : Simulation) (fault : Fault) : Simulation :=
  let left := State.afterFault ⟨s.world, s.runtime⟩ s.program fault
  { s with world := left.world, runtime := left.runtime }

end TankArena.Match
