import Mathlib.Logic.Function.Iterate
import TankArena.Proofs.Machine.Linkage

/-!
# Matches driven from outside

A match is driven by ticks, loads and resets in any order. A tick that comes to a fault counts with
what it leaves behind, so that every sequence of operations leads somewhere. What each operation
keeps holds after all of them: `play_induction`.
-/

namespace TankArena.Match

open Arena Machine Script

inductive Operation
  | tick
  | load (program : Program)
  | reset
  deriving DecidableEq

namespace Simulation

/-- The match after a tick, or what a fault leaves of it. -/
def ticked (u : Simulation) : Simulation :=
  match u.tick with
  | .ok (_, v) => v
  | .error e => u.afterFault e

def perform (u : Simulation) : Operation → Simulation
  | .tick => u.ticked
  | .load program => u.load program
  | .reset => u.reset

def play (u : Simulation) (ops : List Operation) : Simulation := ops.foldl perform u

/-- All frames, the active one first and the main sequence last. -/
def frames (u : Simulation) : List Frame := u.state.frames u.program

variable {u v : Simulation} {executed : Bool} {e : Fault}

theorem play_induction {P : Simulation → Prop} {ops : List Operation} (h : P u)
    (tick : ∀ v, P v → P v.ticked)
    (load : ∀ v q, Operation.load q ∈ ops → P v → P (v.load q))
    (reset : ∀ v, P v → P v.reset) : P (u.play ops) := by
  refine List.foldlRecOn ops perform h fun v hv op hop => ?_
  cases op with
  | tick => exact tick v hv
  | load q => exact load v q hop hv
  | reset => exact reset v hv

/-! ## One tick -/

theorem ticked_of_tick (h : u.tick = .ok (executed, v)) : u.ticked = v := by
  simp only [ticked, h]

theorem ticked_of_error (h : u.tick = .error e) : u.ticked = u.afterFault e := by
  simp only [ticked, h]

theorem ticked_cases (u : Simulation) : (∃ executed v, Tick u executed v ∧ u.ticked = v) ∨
    ∃ e, u.tick = .error e ∧ u.ticked = u.afterFault e := by
  cases h : u.tick with
  | ok r => exact .inl ⟨r.1, r.2, tick_eq_ok_iff.mp h, ticked_of_tick h⟩
  | error e => exact .inr ⟨e, rfl, ticked_of_error h⟩

theorem ticked_of_isOver (h : u.isOver = true) : u.ticked = u :=
  ticked_of_tick (tick_of_isOver h)

theorem program_ticked (u : Simulation) : u.ticked.program = u.program := by
  rcases u.ticked_cases with ⟨executed, v, ht, hv⟩ | ⟨e, -, he⟩
  · rw [hv]
    cases ht <;> rfl
  · rw [he]
    rfl

/-- What a tick does to the frames is what one step can do to them. -/
theorem shift_ticked (u : Simulation) : Shift u.program u.frames u.ticked.frames := by
  unfold frames
  rw [program_ticked]
  cases h : u.tick with
  | ok r =>
      have hv : u.ticked = r.2 := ticked_of_tick h
      rw [hv]
      exact Shift.of_tick (s := u.state) h
  | error e =>
      rw [ticked_of_error h]
      exact Shift.of_fault (tick_eq_error_iff.mp h).2

theorem world_ticked (h : u.isOver = false) : ∃ w, Acted u.world w ∧
    (u.ticked.world = afterStep w ∨ u.ticked.world = w) := by
  rcases u.ticked_cases with ⟨executed, v, ht, hv⟩ | ⟨e, -, he⟩
  · obtain ⟨w, hacted, hw⟩ := ht.exists_acted h
    rw [hv]
    exact ⟨w, hacted, .inl hw⟩
  · rw [he]
    exact ⟨_, acted_afterFault u.state u.program e, .inr rfl⟩

/-- What machine, opponent and clock keep of the world is kept by a tick. -/
theorem world_ticked_induction {P : World → Prop} (h : P u.world)
    (acted : ∀ w w', Acted w w' → P w → P w') (after : ∀ w, P w → P (afterStep w)) :
    P u.ticked.world := by
  cases hover : u.isOver with
  | true => rwa [ticked_of_isOver hover]
  | false =>
      obtain ⟨w, hw, hafter | hfault⟩ := u.world_ticked hover
      · rw [hafter]
        exact after w (acted _ _ hw h)
      · rw [hfault]
        exact acted _ _ hw h

theorem onBoard_ticked (h : u.world.OnBoard) : u.ticked.world.OnBoard :=
  world_ticked_induction h (fun _ _ hw h => hw.onBoard h) fun _ h => onBoard_afterStep h

theorem onBoard_play (h : u.world.OnBoard) (ops : List Operation) : (u.play ops).world.OnBoard :=
  play_induction (P := fun v => v.world.OnBoard) h (fun _ hv => onBoard_ticked hv)
    (fun _ _ _ hv => hv) fun _ _ => World.onBoard_initial

end Simulation

end TankArena.Match
