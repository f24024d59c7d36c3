import TankArena.Match.Run
import TankArena.Proofs.Match.Bounds

/-!
# One winner at most

The machine hits the opponent before the opponent fires, and a destroyed opponent does not fire. So
of two tanks that stand one is destroyed in a tick at most, and the winner of a match is the tank
that is left.
-/

namespace TankArena.Arena

def World.BothDestroyed (w : World) : Prop :=
  w.actor.isDestroyed = true ∧ w.opponent.isDestroyed = true

theorem World.not_bothDestroyed_initial : ¬ World.initial.BothDestroyed := by
  rintro ⟨hactor, -⟩
  cases hactor

theorem World.opponent_stands {w : World} (h : ¬ w.BothDestroyed)
    (ha : w.actor.isDestroyed = true) : w.opponent.isDestroyed = false :=
  Bool.eq_false_iff.mpr fun ho => h ⟨ha, ho⟩

theorem World.actor_stands {w : World} (h : ¬ w.BothDestroyed)
    (ho : w.opponent.isDestroyed = true) : w.actor.isDestroyed = false :=
  Bool.eq_false_iff.mpr fun ha => h ⟨ha, ho⟩

theorem Tank.InBounds.isDestroyed_iff {t : Tank} (h : t.InBounds) :
    t.isDestroyed = true ↔ t.health = 0 := by
  have hlow := h.low
  simp only [Tank.isDestroyed, decide_eq_true_eq]
  omega

end TankArena.Arena

namespace TankArena.Match

open Arena Machine Script

variable {u : Simulation}

/-! ## Ticks -/

theorem Simulation.isOver_eq_false_iff : u.isOver = false ↔
    u.world.actor.isDestroyed = false ∧ u.world.opponent.isDestroyed = false := by
  simp only [Simulation.isOver, Bool.or_eq_false_iff]

/-- An opponent that fires was not destroyed before. -/
theorem not_bothDestroyed_afterStep {w : World} (h : w.actor.isDestroyed = false) :
    ¬ (afterStep w).BothDestroyed := by
  rintro ⟨hactor, hopponent⟩
  have hactor : w.opponentStep.actor.isDestroyed = true := hactor
  have hopponent : w.opponentStep.opponent.isDestroyed = true := hopponent
  rcases w.answered.shot with hs | ⟨hs, -⟩
  · rw [hs, h] at hactor
    cases hactor
  · rw [Tank.isDestroyed_congr w.answered.unhurt, hs] at hopponent
    cases hopponent

theorem Simulation.not_bothDestroyed_ticked (h : ¬ u.world.BothDestroyed) :
    ¬ u.ticked.world.BothDestroyed := by
  cases hover : u.isOver with
  | true => rwa [Simulation.ticked_of_isOver hover]
  | false =>
      obtain ⟨w, hacted, hw⟩ := Simulation.world_ticked hover
      have hactor : w.actor.isDestroyed = false :=
        (Tank.isDestroyed_congr hacted.unhurt).trans (Simulation.isOver_eq_false_iff.mp hover).1
      rcases hw with hafter | hfault
      · rw [hafter]
        exact not_bothDestroyed_afterStep hactor
      · -- The fault came before the opponent could fire.
        rw [hfault]
        rintro ⟨hdestroyed, -⟩
        rw [hactor] at hdestroyed
        cases hdestroyed

theorem Simulation.not_bothDestroyed_play (h : ¬ u.world.BothDestroyed) (ops : List Operation) :
    ¬ (u.play ops).world.BothDestroyed := by
  refine Simulation.play_induction (P := fun v => ¬ v.world.BothDestroyed) h
    (fun _ hv => Simulation.not_bothDestroyed_ticked hv) (fun _ _ _ hv => hv) fun _ _ => ?_
  exact World.not_bothDestroyed_initial

/-! ## Winners -/

theorem Simulation.winner_eq_actor_iff :
    u.winner = some .actor ↔ u.world.opponent.isDestroyed = true := by
  unfold Simulation.winner
  cases u.world.opponent.isDestroyed <;> cases u.world.actor.isDestroyed <;> simp

theorem Simulation.winner_eq_opponent_iff : u.winner = some .opponent ↔
    u.world.actor.isDestroyed = true ∧ u.world.opponent.isDestroyed = false := by
  unfold Simulation.winner
  cases u.world.opponent.isDestroyed <;> cases u.world.actor.isDestroyed <;> simp

theorem Simulation.winner_eq_none_iff : u.winner = none ↔ u.isOver = false := by
  rw [Simulation.isOver_eq_false_iff]
  unfold Simulation.winner
  cases u.world.opponent.isDestroyed <;> cases u.world.actor.isDestroyed <;> simp

/-! ## Notices -/

/-- What is added to the status line about destroyed tanks. -/
def outcomeNotices (w : World) : List String :=
  (if w.opponent.isDestroyed then ["Enemy destroyed!"] else []) ++
    if w.actor.isDestroyed then ["You were destroyed."] else []

theorem message_announceOutcome (w : World) :
    (announceOutcome w).message = (outcomeNotices w).foldl joinNotice w.message := by
  unfold announceOutcome outcomeNotices
  cases ha : w.actor.isDestroyed <;> cases ho : w.opponent.isDestroyed <;> simp

theorem length_outcomeNotices {w : World} (h : ¬ w.BothDestroyed) :
    (outcomeNotices w).length ≤ 1 := by
  unfold World.BothDestroyed at h
  unfold outcomeNotices
  cases ha : w.actor.isDestroyed <;> cases ho : w.opponent.isDestroyed <;> simp_all

theorem message_afterStep (w : World) : (afterStep w).message =
    (outcomeNotices (afterStep w)).foldl joinNotice w.opponentStep.message :=
  message_announceOutcome _

/-! ## Results -/

/-- What ticks keep holds after every tick that is played. -/
theorem forall_mem_playedWithin {P : Simulation → Prop} (settings : Settings)
    (tick : ∀ v, P v → P v.ticked) (limit : Nat) (h : P u) :
    ∀ t ∈ playedWithin settings limit u, P t.after := by
  induction limit generalizing u with
  | zero => exact fun t ht => (List.not_mem_nil ht).elim
  | succ limit ih =>
      rw [playedWithin]
      split
      · exact fun t ht => (List.not_mem_nil ht).elim
      · split
        · exact fun t ht => (List.not_mem_nil ht).elim
        · rename_i executed next htick
          have hnext : P next := Simulation.ticked_of_tick htick ▸ tick u h
          refine List.forall_mem_cons.mpr ⟨hnext, ?_⟩
          split
          · exact fun t ht => (List.not_mem_nil ht).elim
          · exact ih hnext

/-- The result of a match tells of a state that ticks have led to. -/
theorem exists_final {P : Simulation → Prop} (settings : Settings) (keep : Bool) (program : Program)
    (start : World) (tick : ∀ v, P v → P v.ticked) (h : P { program, world := start }) :
    ∃ v, P v ∧ (run settings keep program start).winner = v.winner ∧
      (run settings keep program start).actorHealth = v.world.actor.health ∧
      (run settings keep program start).opponentHealth = v.world.opponent.health := by
  refine ⟨_, ?_, rfl, rfl, rfl⟩
  cases hlast : (played settings { program, world := start }).getLast? with
  | none => exact h
  | some t => exact forall_mem_playedWithin settings tick _ h t (List.mem_of_getLast? hlast)

theorem Result.opponentHealth_eq_zero_iff (r : Result) :
    r.opponentHealth = 0 ↔ r.damageDealt = 100 := by
  simp only [Result.damageDealt, maxHealth]
  omega

theorem Result.actorHealth_eq_zero_iff (r : Result) :
    r.actorHealth = 0 ↔ r.damageTaken = 100 := by
  simp only [Result.damageTaken, maxHealth]
  omega

theorem winner_run_iff (settings : Settings) (keep : Bool) (program : Program) :
    let r := run settings keep program
    (r.winner = some .actor ↔ r.opponentHealth = 0) ∧
    (r.winner = some .opponent ↔ r.actorHealth = 0) ∧
    ¬ (r.opponentHealth = 0 ∧ r.actorHealth = 0) := by
  intro r
  obtain ⟨v, ⟨hboth, hbounds⟩, hwinner, hactor, hopponent⟩ :=
    exists_final (P := fun v => ¬ v.world.BothDestroyed ∧ v.world.InBounds) settings keep program
      .initial (fun v hv => ⟨Simulation.not_bothDestroyed_ticked hv.1,
        (Simulation.inBounds_ticked hv.2).1⟩)
      ⟨World.not_bothDestroyed_initial, World.inBounds_initial⟩
  rw [hwinner, hactor, hopponent, ← hbounds.actor.isDestroyed_iff,
    ← hbounds.opponent.isDestroyed_iff]
  refine ⟨Simulation.winner_eq_actor_iff, ?_, fun h => hboth h.symm⟩
  rw [Simulation.winner_eq_opponent_iff]
  exact ⟨And.left, fun ha => ⟨ha, World.opponent_stands hboth ha⟩⟩

/-- However a match is played from a world in which one tank at most is destroyed, there is never a
second one: the winner is the tank that is left, and a tick adds one notice at most. In a match from
the opening the winner is told by the damage. -/
theorem play_not_bothDestroyed (h : ¬ u.world.BothDestroyed) (ops : List Operation) :
    let v := u.play ops
    ¬ v.world.BothDestroyed ∧
    (v.winner = some .actor ↔
      v.world.opponent.isDestroyed = true ∧ v.world.actor.isDestroyed = false) ∧
    (v.winner = some .opponent ↔
      v.world.actor.isDestroyed = true ∧ v.world.opponent.isDestroyed = false) ∧
    (v.winner = none ↔ v.isOver = false) ∧
    (∀ executed t, v.tick = .ok (executed, t) → (v.isOver = true → t = v) ∧
      (v.isOver = false → ∃ w, Acted v.world w ∧ t.world = afterStep w ∧
        t.world.message = (outcomeNotices t.world).foldl joinNotice w.opponentStep.message ∧
        (outcomeNotices t.world).length ≤ 1)) ∧
    ∀ settings keep program, let r := run settings keep program
      (r.winner = some .actor ↔ r.opponentHealth = 0) ∧
      (r.opponentHealth = 0 ↔ r.damageDealt = 100) ∧
      (r.winner = some .opponent ↔ r.actorHealth = 0) ∧
      (r.actorHealth = 0 ↔ r.damageTaken = 100) ∧
      ¬ (r.opponentHealth = 0 ∧ r.actorHealth = 0) := by
  intro v
  have hv : ¬ v.world.BothDestroyed := Simulation.not_bothDestroyed_play h ops
  refine ⟨hv, ?_, Simulation.winner_eq_opponent_iff, Simulation.winner_eq_none_iff, ?_, ?_⟩
  · rw [Simulation.winner_eq_actor_iff]
    exact ⟨fun ho => ⟨ho, World.actor_stands hv ho⟩, And.left⟩
  · intro executed t ht
    have htick := tick_eq_ok_iff.mp ht
    refine ⟨htick.eq_iff.mpr, fun hover => ?_⟩
    obtain ⟨w, hacted, hw⟩ := htick.exists_acted hover
    have ht' : ¬ t.world.BothDestroyed :=
      Simulation.ticked_of_tick ht ▸ Simulation.not_bothDestroyed_ticked hv
    exact ⟨w, hacted, hw, hw ▸ message_afterStep w, length_outcomeNotices ht'⟩
  · intro settings keep program r
    obtain ⟨hactor, hopponent, hnot⟩ := winner_run_iff settings keep program
    exact ⟨hactor, r.opponentHealth_eq_zero_iff, hopponent, r.actorHealth_eq_zero_iff, hnot⟩

/-- Face to face, each one hit away from its end: the machine shoots first. -/
theorem play_not_bothDestroyed_duel : ∃ u v : Simulation,
    u.world.actor.health = opponentDamage ∧ u.world.opponent.health = attackDamage ∧
    (sight u.world.actor u.world.opponent).inRange = true ∧
    (sight u.world.opponent u.world.actor).inRange = true ∧ ¬ u.world.BothDestroyed ∧
    v = u.play [.tick] ∧ ¬ v.world.BothDestroyed ∧ v.winner = some .actor ∧
    v.world.opponent.isDestroyed = true ∧ v.world.actor.isDestroyed = false := by
  let u : Simulation :=
    { program := { main := [.attack] }
      world :=
        { actor := { x := 5, y := 10, health := 15 }
          opponent := { x := 5, y := 7, facing := .down, health := 40 } } }
  have hu : ¬ u.world.BothDestroyed := fun h => Bool.false_ne_true h.1
  obtain ⟨hv, hactor, -⟩ := play_not_bothDestroyed hu [.tick]
  have hwinner : (u.play [.tick]).winner = some .actor := by decide
  exact ⟨u, _, rfl, rfl, by decide, by decide, hu, rfl, hv, hwinner, hactor.mp hwinner⟩

end TankArena.Match
