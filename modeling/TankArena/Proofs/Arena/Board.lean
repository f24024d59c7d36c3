import TankArena.Arena.Opponent
import TankArena.Machine.Primitive
import TankArena.Proofs.Text.Decimal

/-!
# Tanks on the board

Nothing that statements or the opponent do takes a tank off the board, so that what a tank sees is
never far away.
-/

namespace TankArena.Arena

open Text

structure Tank.OnBoard (t : Tank) : Prop where
  left : 0 ≤ t.x
  right : t.x < gridSize
  top : 0 ≤ t.y
  bottom : t.y < gridSize

structure World.OnBoard (w : World) : Prop where
  actor : w.actor.OnBoard
  opponent : w.opponent.OnBoard

theorem World.onBoard_initial : World.initial.OnBoard :=
  ⟨⟨by decide, by decide, by decide, by decide⟩, ⟨by decide, by decide, by decide, by decide⟩⟩

theorem clamp_mem (value : Int) {low high : Int} (h : low ≤ high) :
    low ≤ clamp value low high ∧ clamp value low high ≤ high := by
  simp only [clamp]
  omega

theorem Tank.onBoard_shifted (t : Tank) (dx dy : Int) : (t.shifted dx dy).OnBoard := by
  have hgrid : 0 ≤ gridSize - 1 := by decide
  have hx := clamp_mem (t.x + dx) hgrid
  have hy := clamp_mem (t.y + dy) hgrid
  refine ⟨hx.1, ?_, hy.1, ?_⟩
  · exact Int.lt_of_le_sub_one hx.2
  · exact Int.lt_of_le_sub_one hy.2

/-- Neither damage nor a turn moves a tank. -/
theorem Tank.OnBoard.of_eq {t u : Tank} (h : t.OnBoard) (hx : u.x = t.x) (hy : u.y = t.y) :
    u.OnBoard := by
  obtain ⟨h₁, h₂, h₃, h₄⟩ := h
  rw [← hx] at h₁ h₂
  rw [← hy] at h₃ h₄
  exact ⟨h₁, h₂, h₃, h₄⟩

theorem Tank.isDestroyed_congr {t t' : Tank} (h : t'.health = t.health) :
    t'.isDestroyed = t.isDestroyed := by
  simp only [Tank.isDestroyed, h]

theorem Tank.health_pos {t : Tank} (h : t.isDestroyed = false) : 0 < t.health := by
  simpa [Tank.isDestroyed] using h

/-- What the opponent's move can do to the world. -/
structure Answered (w w' : World) : Prop where
  clock : w'.tick = w.tick
  unhurt : w'.opponent.health = w.opponent.health
  board : w.opponent.OnBoard → w'.opponent.OnBoard
  shot : w'.actor = w.actor ∨
    (w.opponent.isDestroyed = false ∧ w'.actor = w.actor.damaged opponentDamage)

theorem World.answered (w : World) : Answered w w.opponentStep := by
  unfold World.opponentStep
  split
  · exact ⟨rfl, rfl, id, .inl rfl⟩
  · rename_i hdestroyed
    split
    · exact ⟨rfl, rfl, id, .inr ⟨Bool.eq_false_iff.mpr hdestroyed, rfl⟩⟩
    · exact ⟨rfl, rfl, fun _ => Tank.onBoard_shifted _ _ _, .inl rfl⟩

theorem Answered.onBoard {w w' : World} (h : Answered w w') (hw : w.OnBoard) : w'.OnBoard := by
  refine ⟨?_, h.board hw.opponent⟩
  rcases h.shot with hs | ⟨-, hs⟩
  · exact hs ▸ hw.actor
  · exact hs ▸ hw.actor.of_eq rfl rfl

/-- The distance of what is seen can be written. -/
theorem World.OnBoard.isWritable_distance {w : World} (h : w.OnBoard) :
    isWritable (sight w.actor w.opponent).distance = true := by
  obtain ⟨⟨a₁, a₂, a₃, a₄⟩, ⟨b₁, b₂, b₃, b₄⟩⟩ := h
  simp only [gridSize] at a₂ a₄ b₂ b₄
  have hmany : 10 ^ 3 ≤ 10 ^ maxDigits := Nat.pow_le_pow_right (by decide) (by decide)
  refine isWritable_iff.mpr (Nat.lt_of_lt_of_le ?_ hmany)
  unfold sight
  split
  · simp only [Int.natAbs_natCast]
    omega
  · split
    · simp only [Int.natAbs_natCast]
      omega
    · decide

end TankArena.Arena

namespace TankArena.Machine

open Arena

theorem onBoard_drive (dx dy : Int) (n : Nat) {t : Tank} (h : t.OnBoard) :
    (drive dx dy n t).OnBoard := by
  induction n generalizing t with
  | zero => exact h
  | succ n ih =>
      rw [drive]
      split
      · exact h
      · exact ih (Tank.onBoard_shifted t dx dy)

end TankArena.Machine
