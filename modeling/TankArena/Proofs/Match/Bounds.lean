import TankArena.Proofs.Match.Origin

/-!
# Bounds that a match keeps

Both tanks stay on the board with a health between none and full, however a match is played. No tick
gives health back. A tick moves the clock by one until a tank is destroyed, and from then on changes
nothing; only a tick that comes to a fault leaves the clock behind.
-/

namespace TankArena.Arena

structure Tank.InBounds (t : Tank) : Prop where
  board : t.OnBoard
  low : 0 ≤ t.health
  high : t.health ≤ maxHealth

structure World.InBounds (w : World) : Prop where
  actor : w.actor.InBounds
  opponent : w.opponent.InBounds

/-- Neither tank has more health than before. -/
def World.Weaker (w' w : World) : Prop :=
  w'.actor.health ≤ w.actor.health ∧ w'.opponent.health ≤ w.opponent.health

variable {t : Tank} {w w' : World} {amount : Int}

theorem World.inBounds_initial : World.initial.InBounds :=
  ⟨⟨World.onBoard_initial.actor, by decide, by decide⟩,
    ⟨World.onBoard_initial.opponent, by decide, by decide⟩⟩

/-- A tank that was left alone or hit once. -/
theorem Tank.InBounds.of_shot {t' : Tank} (h : t.InBounds) (ha : 0 ≤ amount)
    (hs : t' = t ∨ t' = t.damaged amount) : t'.InBounds ∧ t'.health ≤ t.health := by
  obtain ⟨hboard, hlow, hhigh⟩ := h
  rcases hs with rfl | rfl
  · exact ⟨⟨hboard, hlow, hhigh⟩, Int.le_refl _⟩
  · have hle : (t.damaged amount).health ≤ t.health := by
      simp only [Tank.damaged]
      omega
    exact ⟨⟨hboard.of_eq rfl rfl, Int.le_max_left _ _, Int.le_trans hle hhigh⟩, hle⟩

/-- A tank that was moved. -/
theorem Tank.InBounds.of_moved {t' : Tank} (h : t.InBounds) (hb : t.OnBoard → t'.OnBoard)
    (hh : t'.health = t.health) : t'.InBounds ∧ t'.health ≤ t.health :=
  ⟨⟨hb h.board, hh ▸ h.low, hh ▸ h.high⟩, Int.le_of_eq hh⟩

theorem World.Weaker.trans {w'' : World} (h : w''.Weaker w') (h' : w'.Weaker w) : w''.Weaker w :=
  ⟨Int.le_trans h.1 h'.1, Int.le_trans h.2 h'.2⟩

theorem Answered.inBounds (h : Answered w w') (hw : w.InBounds) : w'.InBounds ∧ w'.Weaker w := by
  have hshot := h.shot.imp_right And.right
  obtain ⟨hactor, hle⟩ := hw.actor.of_shot (by decide : 0 ≤ opponentDamage) hshot
  obtain ⟨hopponent, hle'⟩ := hw.opponent.of_moved h.board h.unhurt
  exact ⟨⟨hactor, hopponent⟩, hle, hle'⟩

end TankArena.Arena

namespace TankArena.Machine

open Arena

theorem Acted.inBounds {w w' : World} (h : Acted w w') (hw : w.InBounds) :
    w'.InBounds ∧ w'.Weaker w := by
  obtain ⟨hactor, hle⟩ := hw.actor.of_moved h.board h.unhurt
  obtain ⟨hopponent, hle'⟩ := hw.opponent.of_shot (by decide : 0 ≤ attackDamage) h.shot
  exact ⟨⟨hactor, hopponent⟩, hle, hle'⟩

end TankArena.Machine

namespace TankArena.Match

open Arena Machine Script Text

variable {u : Simulation}

theorem inBounds_afterStep {w : World} (h : w.InBounds) :
    (afterStep w).InBounds ∧ (afterStep w).Weaker w := by
  obtain ⟨hb, hle⟩ := w.answered.inBounds h
  exact ⟨⟨hb.actor, hb.opponent⟩, hle⟩

theorem Simulation.inBounds_ticked (h : u.world.InBounds) :
    u.ticked.world.InBounds ∧ u.ticked.world.Weaker u.world := by
  refine Simulation.world_ticked_induction (P := fun w => w.InBounds ∧ w.Weaker u.world)
    ⟨h, Int.le_refl _, Int.le_refl _⟩ (fun w w' hact hw => ?_) fun w hw => ?_
  · obtain ⟨hb, hle⟩ := hact.inBounds hw.1
    exact ⟨hb, hle.trans hw.2⟩
  · obtain ⟨hb, hle⟩ := inBounds_afterStep hw.1
    exact ⟨hb, hle.trans hw.2⟩

theorem Simulation.inBounds_play (h : u.world.InBounds) (ops : List Operation) :
    (u.play ops).world.InBounds :=
  Simulation.play_induction (P := fun v => v.world.InBounds) h
    (fun _ hv => (Simulation.inBounds_ticked hv).1) (fun _ _ _ hv => hv)
    fun _ _ => World.inBounds_initial

/-- The clock stands when a tick comes to a fault. -/
theorem Simulation.clock_of_error {e : Fault} (h : u.tick = .error e) :
    u.ticked.world.tick = u.world.tick := by
  rw [Simulation.ticked_of_error h]
  exact (acted_afterFault u.state u.program e).clock

theorem Simulation.exists_tick_error_iff (h : u.isOver = false) :
    (∃ e, u.tick = .error e) ↔ u.state.Stuck u.program := by
  simp only [State.stuck_iff, tick_eq_error_iff, h, true_and]

/-- However a match is played that starts with both tanks in bounds: they stay in bounds, and no
tick makes one stronger. Once a tank is destroyed a tick changes nothing and the machine does nothing
in it. Before that a tick moves the clock by one, unless the machine is stuck: then the tick comes to
a fault and leaves the clock as it was. With programs that were read and a fresh runtime no tick comes
to a fault. -/
theorem play_inBounds (h : u.world.InBounds) (ops : List Operation) :
    let v := u.play ops
    v.world.InBounds ∧
    v.ticked.world.actor.health ≤ v.world.actor.health ∧
    v.ticked.world.opponent.health ≤ v.world.opponent.health ∧
    (v.isOver = true → v.tick = .ok (false, v)) ∧
    (v.isOver = false →
      (¬ v.state.Stuck v.program →
        ∃ executed t, v.tick = .ok (executed, t) ∧ t.world.tick = v.world.tick + 1) ∧
      (v.state.Stuck v.program → ∃ e, v.tick = .error e ∧ v.ticked.world.tick = v.world.tick)) ∧
    (u.program.IsRead → u.runtime = {} → (∀ q, .load q ∈ ops → q.IsRead) →
      ∃ executed t, v.tick = .ok (executed, t)) := by
  intro v
  have hv : v.world.InBounds := Simulation.inBounds_play h ops
  obtain ⟨hactor, hopponent⟩ := (Simulation.inBounds_ticked hv).2
  refine ⟨hv, hactor, hopponent, Simulation.tick_of_isOver, fun hover => ⟨?_, ?_⟩, ?_⟩
  · intro hfree
    cases htick : v.tick with
    | ok r => exact ⟨r.1, r.2, rfl, (tick_eq_ok_iff.mp htick).tick_eq hover⟩
    | error e => exact absurd ((Simulation.exists_tick_error_iff hover).mp ⟨e, htick⟩) hfree
  · intro hstuck
    obtain ⟨e, he⟩ := (Simulation.exists_tick_error_iff hover).mpr hstuck
    exact ⟨e, he, Simulation.clock_of_error he⟩
  · intro hp hr hops
    have hu : u = { program := u.program, world := u.world } := by rw [← hr]
    have htraced : v.Traced (programsOf u.program ops) := by
      have := Simulation.traced_of_isRead hp u.world hops
      rwa [← hu] at this
    exact htraced.exists_tick (wellFormed_of_mem_programsOf hp hops)
      ⟨hv.actor.board, hv.opponent.board⟩

/-- A match from the opening is started over. The actor then drives up to the opponent; another program,
in which the counter stays where it is, finds the opponent and hits it. -/
theorem play_inBounds_opening : ∃ (p q : Program) (u v : Simulation),
    Program.parse 1 "MOVE 15 RIGHT; MOVE 12 FORWARD;" = .ok p ∧
    Program.parse 1 "WAIT; WAIT; SCAN_FOR_ENEMY; ATTACK; TURN LEFT;" = .ok q ∧
    u = { program := p } ∧ u.world.InBounds ∧
    v = u.play [.tick, .reset, .tick, .tick, .load q, .tick, .tick] ∧ v.isOver = false ∧
    v.world.tick = 4 ∧ (v.world.actor.x, v.world.actor.y) = (17, 5) ∧
    v.world.opponent.health = 60 ∧ v.world.InBounds ∧ ¬ v.state.Stuck v.program ∧
    ∃ executed t, v.tick = .ok (executed, t) ∧ t.world.tick = 5 := by
  let p : Program := { main := [.move (.literal 15) .right, .move (.literal 12) .forward] }
  let q : Program := { main := [.noop, .noop, .scan, .attack, .turn .left] }
  let ops : List Operation := [.tick, .reset, .tick, .tick, .load q, .tick, .tick]
  let v : Simulation := Simulation.play { program := p } ops
  have hp : Program.parse 1 "MOVE 15 RIGHT; MOVE 12 FORWARD;" = .ok p :=
    parse_eq_ok_of_toOption (by decide +kernel)
  have hq : Program.parse 1 "WAIT; WAIT; SCAN_FOR_ENEMY; ATTACK; TURN LEFT;" = .ok q :=
    parse_eq_ok_of_toOption (by decide +kernel)
  have hops : ∀ r, .load r ∈ ops → r.IsRead := by
    intro r hr
    have hr : r = q := by simpa [ops] using hr
    exact ⟨1, _, hr ▸ hq⟩
  obtain ⟨hv, -, -, -, hclock, htick⟩ :=
    play_inBounds (u := { program := p }) World.inBounds_initial ops
  have hover : v.isOver = false := by decide +kernel
  have hfree : ¬ v.state.Stuck v.program := by
    intro hstuck
    obtain ⟨executed, t, ht⟩ := htick ⟨1, _, hp⟩ rfl hops
    obtain ⟨e, he, -⟩ := (hclock hover).2 hstuck
    rw [ht] at he
    cases he
  obtain ⟨executed, t, ht, htime⟩ := (hclock hover).1 hfree
  have hfour : v.world.tick = 4 := by decide +kernel
  refine ⟨p, q, _, v, hp, hq, rfl, World.inBounds_initial, rfl, hover, hfour, by decide +kernel,
    by decide +kernel, hv, hfree, executed, t, ht, htime.trans ?_⟩
  exact congrArg (· + 1) hfour

theorem isWritable_pow {m : Nat} (hm : maxDigits ≤ m) : isWritable (10 ^ m) = false := by
  rw [← Bool.not_eq_true, isWritable_iff, Int.natAbs_pow]
  exact Nat.not_lt.mpr (Nat.pow_le_pow_right (by decide) hm)

/-- The clock stands when the counter lies before the first statement, and when a number is assigned
that is too long for any script. -/
theorem clock_stands_at_fault : World.initial.InBounds ∧ ∃ u v : Simulation,
    u = { program := {}, runtime := { counter := -1 } } ∧ u.isOver = false ∧
    u.tick = .error .counterOutOfRange ∧ u.ticked.world.tick = u.world.tick ∧
    v = { program := { main := [.assign "A" (.literal (10 ^ 4300))] } } ∧ v.isOver = false ∧
    v.tick = .error .tooManyDigits ∧ v.ticked.world.tick = v.world.tick := by
  have hu : ({ program := {}, runtime := { counter := -1 } } : Simulation).tick =
      .error .counterOutOfRange := rfl
  have hv : ({ program := { main := [.assign "A" (.literal (10 ^ 4300))] } } : Simulation).tick =
      .error .tooManyDigits := by
    refine tick_eq_error_iff.mpr ⟨rfl, step_of_fault rfl ?_⟩
    have hw : isWritable (10 ^ 4300) = false := isWritable_pow (by decide)
    simp only [State.fault?, Runtime.eval, sayFault?, hw, Bool.false_eq_true, ↓reduceIte]
  exact ⟨World.inBounds_initial, _, _, rfl, rfl, hu, Simulation.clock_of_error hu, rfl, rfl, hv,
    Simulation.clock_of_error hv⟩

end TankArena.Match
