import TankArena.Match.Simulation
import TankArena.Proofs.Machine.Effect

/-!
# Ticks of a match as a relation

What one tick can do is said by three rules: the match is over, the program is finished and only the
opponent moves, or the machine takes a step first. `tick_eq_ok_iff` shows that the rules and `tick`
agree.
-/

namespace TankArena.Match

open Arena Machine

/-- What the machine works on in a match. -/
def Simulation.state (u : Simulation) : State := ⟨u.world, u.runtime⟩

/-- One tick of a match, and whether the machine did something in it. -/
inductive Tick (u : Simulation) : Bool → Simulation → Prop
  | ended : u.isOver = true → Tick u false u
  | idle : u.isOver = false → step u.program u.state = .ok none →
      Tick u false { u with world := afterStep u.world }
  | act {t : State} : u.isOver = false → Transition u.program u.state t →
      Tick u true { u with world := afterStep t.world, runtime := t.runtime }

variable {u v : Simulation} {executed : Bool}

theorem Simulation.tick_of_isOver (h : u.isOver = true) : u.tick = .ok (false, u) := by
  simp only [Simulation.tick, h, ↓reduceIte]

theorem Simulation.tick_of_step {r : Except Fault (Option State)} (h : u.isOver = false)
    (hr : step u.program u.state = r) : u.tick = r.map fun
      | some t => (true, { u with world := afterStep t.world, runtime := t.runtime })
      | none => (false, { u with world := afterStep u.world }) := by
  subst hr
  simp only [Simulation.tick, h, Bool.false_eq_true, ↓reduceIte]
  rfl

/-- The rules allow exactly the ticks that a match takes. -/
theorem tick_eq_ok_iff : u.tick = .ok (executed, v) ↔ Tick u executed v := by
  constructor
  · intro h
    cases hover : u.isOver with
    | true =>
        rw [Simulation.tick_of_isOver hover] at h
        cases h
        exact .ended hover
    | false =>
        rw [Simulation.tick_of_step hover rfl] at h
        cases hstep : step u.program u.state with
        | error e => rw [hstep] at h; cases h
        | ok r =>
            rw [hstep] at h
            cases r with
            | none => cases h; exact .idle hover hstep
            | some t => cases h; exact .act hover (step_eq_ok_some_iff.mp hstep)
  · intro h
    cases h with
    | ended hover => exact Simulation.tick_of_isOver hover
    | idle hover hstep => rw [Simulation.tick_of_step hover hstep]; rfl
    | act hover ht => rw [Simulation.tick_of_step hover (step_eq_ok_some_iff.mpr ht)]; rfl

theorem tick_eq_error_iff {e : Fault} :
    u.tick = .error e ↔ u.isOver = false ∧ step u.program u.state = .error e := by
  cases hover : u.isOver with
  | true => simp [Simulation.tick_of_isOver hover]
  | false =>
      rw [Simulation.tick_of_step hover rfl]
      cases hstep : step u.program u.state <;> simp [Except.map]

/-- While the match goes on, the machine acts first and the opponent and the clock follow. -/
theorem Tick.exists_acted (h : Tick u executed v) (hover : u.isOver = false) :
    ∃ w, Acted u.world w ∧ v.world = afterStep w := by
  cases h with
  | ended h => rw [hover] at h; cases h
  | idle _ _ => exact ⟨u.world, .refl _, rfl⟩
  | act _ ht => exact ⟨_, ht.acted, rfl⟩

theorem onBoard_afterStep {w : World} (h : w.OnBoard) : (afterStep w).OnBoard :=
  ⟨(w.answered.onBoard h).actor, (w.answered.onBoard h).opponent⟩

/-! ## The clock -/

theorem tick_afterStep (w : World) : (afterStep w).tick = w.tick + 1 := by
  rw [← w.answered.clock]
  rfl

/-- A tick moves the clock by one, until the match is over. -/
theorem Tick.tick_eq (h : Tick u executed v) (hover : u.isOver = false) :
    v.world.tick = u.world.tick + 1 := by
  obtain ⟨w, hacted, hw⟩ := h.exists_acted hover
  rw [hw, tick_afterStep, hacted.clock]

/-- Only a match that is over stays as it is. -/
theorem Tick.eq_iff (h : Tick u executed v) : v = u ↔ u.isOver = true := by
  constructor
  · intro heq
    cases hover : u.isOver with
    | true => rfl
    | false =>
        have hclock := h.tick_eq hover
        rw [heq] at hclock
        omega
  · intro hover
    cases h with
    | ended _ => rfl
    | idle h _ => rw [hover] at h; cases h
    | act h _ => rw [hover] at h; cases h

end TankArena.Match
