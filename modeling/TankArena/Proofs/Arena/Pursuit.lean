import TankArena.Proofs.Arena.Board

/-!
# An opponent that comes near and does no harm

From the opening the opponent comes down to the actor along a diagonal, a cell down and a cell to the
left in turn, and arrives on the actor's cell. From there it goes up by a cell and comes back, for as
long as the actor stays. On all of this way it never has the actor ahead of it within its range.
-/

namespace TankArena.Arena

variable {w w' : World}

/-- The opponent is as far above the actor as it is to the right of it, or has just gone down by a
cell more. -/
structure World.Descends (w : World) : Prop where
  right : w.actor.x < w.opponent.x
  above : w.actor.y - w.opponent.y = w.opponent.x - w.actor.x ∨
    w.actor.y - w.opponent.y = w.opponent.x - w.actor.x - 1
  facing : w.opponent.y = w.actor.y → w.opponent.facing = .down

/-- The opponent is on the actor's cell, or has just left it upward. -/
structure World.Hovers (w : World) : Prop where
  column : w.opponent.x = w.actor.x
  row : w.opponent.y = w.actor.y ∨
    (w.opponent.y = w.actor.y - 1 ∧ w.opponent.facing = .up)

def World.Harmless (w : World) : Prop := w.Descends ∨ w.Hovers

theorem World.descends_initial : World.initial.Descends :=
  ⟨by decide, .inl (by decide), fun h => absurd h (by decide)⟩

/-- Turns of the actor and damage make no difference. -/
theorem World.Harmless.of_eq (h : w.Harmless) (hx : w'.actor.x = w.actor.x)
    (hy : w'.actor.y = w.actor.y) (hx' : w'.opponent.x = w.opponent.x)
    (hy' : w'.opponent.y = w.opponent.y) (hf : w'.opponent.facing = w.opponent.facing) :
    w'.Harmless := by
  rcases h with ⟨hright, habove, hfacing⟩ | ⟨hcolumn, hrow⟩
  · refine .inl ⟨?_, ?_, ?_⟩
    · rwa [hx, hx']
    · rwa [hx, hy, hx', hy']
    · rwa [hy, hy', hf]
  · refine .inr ⟨?_, ?_⟩
    · rwa [hx, hx']
    · rwa [hy, hy', hf]

theorem World.Descends.not_inRange (h : w.Descends) :
    (sight w.opponent w.actor).inRange = false := by
  have hcolumn : w.opponent.x ≠ w.actor.x := Ne.symm (Int.ne_of_lt h.right)
  by_cases hrow : w.opponent.y = w.actor.y
  · have hfacing := h.facing hrow
    simp [sight, Sight.inRange, hcolumn, hrow, hfacing]
  · simp [sight, Sight.inRange, hcolumn, hrow]

theorem World.Hovers.not_inRange (h : w.Hovers) : (sight w.opponent w.actor).inRange = false := by
  rcases h.row with hrow | ⟨hrow, hfacing⟩
  · simp [sight, Sight.inRange, h.column, hrow]
  · have hoffset : w.actor.y - (w.actor.y - 1) = 1 := by omega
    simp [sight, Sight.inRange, h.column, hrow, hfacing, hoffset]

/-! ## The opponent's move -/

theorem clamp_eq_self {value low high : Int} (h : low ≤ value) (h' : value ≤ high) :
    clamp value low high = value := by
  simp only [clamp]
  omega

/-- A cell of the board is reached as it is. -/
theorem Tank.shifted_eq {t : Tank} {dx dy : Int}
    (h : Tank.OnBoard { t with x := t.x + dx, y := t.y + dy }) :
    t.shifted dx dy = { t with x := t.x + dx, y := t.y + dy } := by
  obtain ⟨hleft, hright, htop, hbottom⟩ := h
  simp only [Tank.shifted, clamp_eq_self hleft (Int.le_sub_one_of_lt hright),
    clamp_eq_self htop (Int.le_sub_one_of_lt hbottom)]

/-- The opponent fires in its next move. -/
def World.Fires (w : World) : Prop :=
  w.opponent.isDestroyed = false ∧ (sight w.opponent w.actor).inRange = true

theorem World.opponentStep_of_fires (h : w.Fires) : w.opponentStep = { w with
    actor := w.actor.damaged opponentDamage, message := w.message ++ firingNotice } := by
  simp only [World.opponentStep, h.1, h.2, Bool.false_eq_true, ↓reduceIte]

theorem World.opponentStep_of_not_fires (h : ¬ w.Fires) :
    w.opponentStep.message = w.message ∧ w.opponentStep.actor = w.actor := by
  unfold World.opponentStep
  split
  · exact ⟨rfl, rfl⟩
  · rename_i hd
    split
    · rename_i hr
      exact absurd ⟨Bool.eq_false_iff.mpr hd, hr⟩ h
    · exact ⟨rfl, rfl⟩

/-- An opponent that stands and does not fire turns toward the actor and rolls. -/
theorem World.opponentStep_of_not_inRange (hd : w.opponent.isDestroyed = false)
    (hr : (sight w.opponent w.actor).inRange = false) {facing : Facing}
    (hf : facingToward (w.actor.x - w.opponent.x) (w.actor.y - w.opponent.y) = facing) :
    w.opponentStep = { w with
      opponent := { w.opponent with facing }.shifted facing.vector.1 facing.vector.2 } := by
  simp only [World.opponentStep, hd, hr, Bool.false_eq_true, ↓reduceIte, hf]

theorem World.opponentStep_rolls (hd : w.opponent.isDestroyed = false)
    (hr : (sight w.opponent w.actor).inRange = false) {facing : Facing} {x y : Int}
    (hf : facingToward (w.actor.x - w.opponent.x) (w.actor.y - w.opponent.y) = facing)
    (hb : Tank.OnBoard { w.opponent with x, y })
    (hx : w.opponent.x + facing.vector.1 = x) (hy : w.opponent.y + facing.vector.2 = y) :
    w.opponentStep = { w with opponent := { w.opponent with facing, x, y } } := by
  subst hx hy
  have hshifted : Tank.shifted { w.opponent with facing } facing.vector.1 facing.vector.2 = _ :=
    Tank.shifted_eq (hb.of_eq rfl rfl)
  rw [World.opponentStep_of_not_inRange hd hr hf, hshifted]

/-- The cell below is as near as the cell to the left, and the opponent goes down first. -/
theorem World.Descends.opponentStep (h : w.Descends) (hw : w.OnBoard)
    (hd : w.opponent.isDestroyed = false) : w.opponentStep.Harmless := by
  have hr := h.not_inRange
  obtain ⟨hright, habove, -⟩ := h
  obtain ⟨⟨ha₁, ha₂, ha₃, ha₄⟩, ⟨ho₁, ho₂, ho₃, ho₄⟩⟩ := hw
  rcases habove with habove | habove
  · have hdown : facingToward (w.actor.x - w.opponent.x) (w.actor.y - w.opponent.y) = .down := by
      unfold facingToward
      rw [if_neg (by omega), if_pos (by omega)]
    have hb : Tank.OnBoard { w.opponent with x := w.opponent.x, y := w.opponent.y + 1 } :=
      ⟨ho₁, ho₂, Int.le_add_one ho₃, by dsimp only; omega⟩
    rw [World.opponentStep_rolls hd hr hdown hb (Int.add_zero _) rfl]
    exact .inl ⟨hright, .inr (by dsimp only; omega), fun _ => rfl⟩
  · have hleft : facingToward (w.actor.x - w.opponent.x) (w.actor.y - w.opponent.y) = .left := by
      unfold facingToward
      rw [if_pos (by omega), if_neg (by omega)]
    have hb : Tank.OnBoard { w.opponent with x := w.opponent.x - 1, y := w.opponent.y } :=
      ⟨by dsimp only; omega, by dsimp only; omega, ho₃, ho₄⟩
    rw [World.opponentStep_rolls hd hr hleft hb rfl (Int.add_zero _)]
    by_cases hlast : w.opponent.x - 1 = w.actor.x
    · exact .inr ⟨hlast, .inl (by dsimp only; omega)⟩
    · refine .inl ⟨?_, .inl ?_, fun hrow => ?_⟩
      · dsimp only
        omega
      · dsimp only
        omega
      · dsimp only at hrow
        omega

/-- On the actor's cell it does not see the actor and goes up, as far as the board does. -/
theorem World.opponentStep_of_sharing (ho : w.opponent.OnBoard)
    (hd : w.opponent.isDestroyed = false) (hx : w.opponent.x = w.actor.x)
    (hy : w.opponent.y = w.actor.y) : w.opponentStep = { w with
      opponent := { w.opponent with facing := .up, y := max 0 (w.opponent.y - 1) } } := by
  have hr : (sight w.opponent w.actor).inRange = false := World.Hovers.not_inRange ⟨hx, .inl hy⟩
  have hup : facingToward (w.actor.x - w.opponent.x) (w.actor.y - w.opponent.y) = .up := by
    unfold facingToward
    rw [if_neg (by omega), if_neg (by omega)]
  obtain ⟨ho₁, ho₂, ho₃, ho₄⟩ := ho
  have hrow : clamp (w.opponent.y + -1) 0 (gridSize - 1) = max 0 (w.opponent.y - 1) := by
    simp only [clamp]
    omega
  rw [World.opponentStep_of_not_inRange hd hr hup]
  simp only [Tank.shifted, Facing.vector, Int.add_zero, hrow,
    clamp_eq_self ho₁ (Int.le_sub_one_of_lt ho₂)]

theorem World.Hovers.opponentStep (h : w.Hovers) (hw : w.OnBoard)
    (hd : w.opponent.isDestroyed = false) : w.opponentStep.Hovers := by
  have hr := h.not_inRange
  obtain ⟨hcolumn, hrow⟩ := h
  have ho := hw.opponent
  obtain ⟨⟨ha₁, ha₂, ha₃, ha₄⟩, ⟨ho₁, ho₂, ho₃, ho₄⟩⟩ := hw
  rcases hrow with hrow | ⟨hrow, -⟩
  · rw [World.opponentStep_of_sharing ho hd hcolumn hrow]
    refine ⟨hcolumn, ?_⟩
    by_cases htop : w.opponent.y = 0
    · exact .inl (by dsimp only; omega)
    · exact .inr ⟨by dsimp only; omega, rfl⟩
  · have hdown : facingToward (w.actor.x - w.opponent.x) (w.actor.y - w.opponent.y) = .down := by
      unfold facingToward
      rw [if_neg (by omega), if_pos (by omega)]
    have hb : Tank.OnBoard { w.opponent with x := w.opponent.x, y := w.opponent.y + 1 } :=
      ⟨ho₁, ho₂, Int.le_add_one ho₃, by dsimp only; omega⟩
    rw [World.opponentStep_rolls hd hr hdown hb (Int.add_zero _) rfl]
    exact ⟨hcolumn, .inl (by dsimp only; omega)⟩

theorem World.Harmless.not_inRange (h : w.Harmless) :
    (sight w.opponent w.actor).inRange = false :=
  h.elim World.Descends.not_inRange World.Hovers.not_inRange

theorem World.Harmless.opponentStep (h : w.Harmless) (hw : w.OnBoard) :
    w.opponentStep.Harmless ∧ w.opponentStep.actor = w.actor := by
  cases hd : w.opponent.isDestroyed with
  | true =>
      have hstep : w.opponentStep = w := by simp only [World.opponentStep, hd, ↓reduceIte]
      rw [hstep]
      exact ⟨h, rfl⟩
  | false =>
      constructor
      · rcases h with h | h
        · exact h.opponentStep hw hd
        · exact .inr (h.opponentStep hw hd)
      · rw [World.opponentStep_of_not_inRange hd h.not_inRange rfl]

end TankArena.Arena
