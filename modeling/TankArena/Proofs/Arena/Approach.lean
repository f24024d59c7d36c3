import Mathlib.Logic.Function.Iterate
import TankArena.Proofs.Arena.Hits
import TankArena.Proofs.Arena.Pursuit

/-!
# How the opponent comes near

The opponent fires or rolls, and every cell that it rolls takes it one cell nearer to the actor. So
while the actor stays in place the opponent comes to its cell in as many moves as there are cells
between them, unless it fires on the way.
-/

namespace TankArena.Arena

variable {w : World} {ws : Nat → World} {n : Nat}

/-- How many cells apart the tanks are, columns and rows together. -/
def World.distance (w : World) : Nat :=
  (w.actor.x - w.opponent.x).natAbs + (w.actor.y - w.opponent.y).natAbs

/-- The opponent turned to a facing and gone one cell along it, with no look at the walls. -/
def World.rolled (w : World) (facing : Facing) : World :=
  { w with opponent :=
    { w.opponent with
      facing
      x := w.opponent.x + facing.vector.1
      y := w.opponent.y + facing.vector.2 } }

/-- The opponent stands on the actor's cell. -/
def World.Met (w : World) : Prop := w.opponent.cell = w.actor.cell

theorem World.met_iff : w.Met ↔ w.opponent.x = w.actor.x ∧ w.opponent.y = w.actor.y :=
  Prod.ext_iff

theorem World.met_iff_distance : w.Met ↔ w.distance = 0 := by
  rw [World.met_iff, World.distance]
  omega

theorem World.offset_ne_zero (h : ¬ w.Met) :
    ¬ (w.actor.x - w.opponent.x = 0 ∧ w.actor.y - w.opponent.y = 0) := by
  rw [World.met_iff] at h
  omega

theorem World.distance_congr {w' : World} (ha : w'.actor.cell = w.actor.cell)
    (ho : w'.opponent.cell = w.opponent.cell) : w'.distance = w.distance := by
  obtain ⟨hax, hay⟩ := Prod.ext_iff.mp ha
  obtain ⟨hox, hoy⟩ := Prod.ext_iff.mp ho
  simp only [Tank.cell] at hax hay hox hoy
  simp only [World.distance, hax, hay, hox, hoy]

/-! ## One move -/

/-- The chosen facing points along an offset to the target. -/
theorem facingToward_cases {dx dy : Int} (h : ¬ (dx = 0 ∧ dy = 0)) :
    (0 < dx ∧ facingToward dx dy = .right) ∨ (dx < 0 ∧ facingToward dx dy = .left) ∨
      (0 < dy ∧ facingToward dx dy = .down) ∨ (dy < 0 ∧ facingToward dx dy = .up) := by
  unfold facingToward
  split
  · split
    · exact .inl ⟨‹_›, rfl⟩
    · exact .inr (.inl ⟨by omega, rfl⟩)
  · split
    · exact .inr (.inr (.inl ⟨‹_›, rfl⟩))
    · exact .inr (.inr (.inr ⟨by omega, rfl⟩))

/-- A cell along the chosen facing is a cell off the offsets. -/
theorem natAbs_facingToward {dx dy : Int} (h : ¬ (dx = 0 ∧ dy = 0)) :
    (dx - (facingToward dx dy).vector.1).natAbs + (dy - (facingToward dx dy).vector.2).natAbs + 1 =
      dx.natAbs + dy.natAbs := by
  rcases facingToward_cases h with ⟨hd, hf⟩ | ⟨hd, hf⟩ | ⟨hd, hf⟩ | ⟨hd, hf⟩
  all_goals
    simp only [hf, Facing.vector]
    omega

/-- The cell next to the opponent on its way to the actor is on the board, as both of them are. -/
theorem World.OnBoard.rolled (hw : w.OnBoard) (hmet : ¬ w.Met) :
    (w.rolled (facingToward (w.actor.x - w.opponent.x) (w.actor.y - w.opponent.y))).OnBoard := by
  obtain ⟨⟨ha₁, ha₂, ha₃, ha₄⟩, ⟨ho₁, ho₂, ho₃, ho₄⟩⟩ := hw
  refine ⟨⟨ha₁, ha₂, ha₃, ha₄⟩, ?_⟩
  rcases facingToward_cases (World.offset_ne_zero hmet) with
    ⟨hd, hf⟩ | ⟨hd, hf⟩ | ⟨hd, hf⟩ | ⟨hd, hf⟩
  all_goals
    rw [hf]
    constructor <;> simp only [World.rolled, Facing.vector] <;> omega

theorem World.opponentStep_of_not_met (hw : w.OnBoard) (hd : w.opponent.isDestroyed = false)
    (hf : ¬ w.Fires) (hmet : ¬ w.Met) :
    w.opponentStep = w.rolled w.opponentStep.opponent.facing ∧
      w.opponentStep.distance + 1 = w.distance := by
  have hr : (sight w.opponent w.actor).inRange = false :=
    Bool.eq_false_iff.mpr fun hr => hf ⟨hd, hr⟩
  have hstep := World.opponentStep_rolls hd hr rfl ((hw.rolled hmet).opponent.of_eq rfl rfl) rfl rfl
  have hrolled : w.opponentStep =
      w.rolled (facingToward (w.actor.x - w.opponent.x) (w.actor.y - w.opponent.y)) := hstep
  refine ⟨by rw [hrolled]; rfl, ?_⟩
  rw [hrolled]
  simp only [World.distance, World.rolled]
  have hnear := natAbs_facingToward (World.offset_ne_zero hmet)
  omega

/-- On the actor's cell the opponent does not fire and goes up, unless that is in the top row. -/
theorem World.opponentStep_of_met (hw : w.OnBoard) (hd : w.opponent.isDestroyed = false)
    (hmet : w.Met) : ¬ w.Fires ∧ w.opponentStep =
      if w.opponent.y = 0 then { w with opponent := { w.opponent with facing := .up } }
      else w.rolled .up := by
  obtain ⟨hx, hy⟩ := World.met_iff.mp hmet
  refine ⟨fun hf => ?_, ?_⟩
  · have hr := World.Hovers.not_inRange ⟨hx, .inl hy⟩
    rw [hf.2] at hr
    cases hr
  · rw [World.opponentStep_of_sharing hw.opponent hd hx hy]
    have htop := hw.opponent.top
    split
    · have hrow : max 0 (w.opponent.y - 1) = w.opponent.y := by omega
      rw [hrow]
    · have hrow : max 0 (w.opponent.y - 1) = w.opponent.y + -1 := by omega
      simp only [World.rolled, Facing.vector, Int.add_zero, hrow]

/-! ## All moves -/

/-- The worlds before the opponent's moves, and after `n` of them. It stands, and the actor stays in
place; anything else may happen between two moves. -/
structure Waits (ws : Nat → World) (n : Nat) : Prop where
  stands : ∀ k < n, (ws k).opponent.isDestroyed = false
  stays : ∀ k < n, (ws (k + 1)).actor.cell = (ws k).actor.cell
  moves : ∀ k < n, (ws (k + 1)).opponent.cell = (ws k).opponentStep.opponent.cell

theorem Waits.mono {m : Nat} (h : Waits ws n) (hm : m ≤ n) : Waits ws m :=
  ⟨fun k hk => h.stands k (Nat.lt_of_lt_of_le hk hm),
    fun k hk => h.stays k (Nat.lt_of_lt_of_le hk hm),
    fun k hk => h.moves k (Nat.lt_of_lt_of_le hk hm)⟩

theorem Tank.OnBoard.of_cell {t u : Tank} (h : t.OnBoard) (hcell : u.cell = t.cell) : u.OnBoard :=
  h.of_eq (Prod.ext_iff.mp hcell).1 (Prod.ext_iff.mp hcell).2

theorem Waits.onBoard (h : Waits ws n) (h₀ : (ws 0).OnBoard) : (ws n).OnBoard := by
  induction n with
  | zero => exact h₀
  | succ n ih =>
      have hn := ih (h.mono (Nat.le_succ n))
      have hstep := (ws n).answered.onBoard hn
      exact ⟨hn.actor.of_cell (h.stays n (Nat.lt_succ_self n)),
        hstep.opponent.of_cell (h.moves n (Nat.lt_succ_self n))⟩

/-- By induction on the moves: until a shot or the meeting, every one of them takes a cell off the
distance. -/
theorem Waits.distance_eq (h : Waits ws n) (h₀ : (ws 0).OnBoard) :
    (∃ k < n, (ws k).Fires) ∨ (∃ k ≤ n, (ws k).Met) ∨
      (n < (ws 0).distance ∧ (ws n).distance = (ws 0).distance - n) := by
  induction n with
  | zero =>
      by_cases hmet : (ws 0).Met
      · exact .inr (.inl ⟨0, Nat.le_refl 0, hmet⟩)
      · rw [World.met_iff_distance] at hmet
        exact .inr (.inr ⟨Nat.pos_of_ne_zero hmet, rfl⟩)
  | succ n ih =>
      have hn := h.mono (Nat.le_succ n)
      rcases ih hn with ⟨k, hk, hfires⟩ | ⟨k, hk, hmet⟩ | ⟨hlt, hdistance⟩
      · exact .inl ⟨k, Nat.lt_succ_of_lt hk, hfires⟩
      · exact .inr (.inl ⟨k, Nat.le_succ_of_le hk, hmet⟩)
      · by_cases hfires : (ws n).Fires
        · exact .inl ⟨n, Nat.lt_succ_self n, hfires⟩
        have hapart : ¬ (ws n).Met := by
          rw [World.met_iff_distance]
          omega
        have hboard := hn.onBoard h₀
        have hstands := h.stands n (Nat.lt_succ_self n)
        obtain ⟨hrolled, hnear⟩ := World.opponentStep_of_not_met hboard hstands hfires hapart
        have hactor : (ws (n + 1)).actor.cell = (ws n).opponentStep.actor.cell := by
          rw [hrolled]
          exact h.stays n (Nat.lt_succ_self n)
        have hsame := World.distance_congr hactor (h.moves n (Nat.lt_succ_self n))
        by_cases hmet : (ws (n + 1)).Met
        · exact .inr (.inl ⟨n + 1, Nat.le_refl _, hmet⟩)
        · rw [World.met_iff_distance] at hmet
          right; right
          omega

/-- The moves alone, with nothing in between. -/
theorem waits_iterate (hd : w.opponent.isDestroyed = false) (n : Nat) :
    Waits (fun k => World.opponentStep^[k] w) n := by
  have hstep (k : Nat) : World.opponentStep^[k + 1] w = (World.opponentStep^[k] w).opponentStep :=
    Function.iterate_succ_apply' _ _ _
  refine ⟨fun k _ => ?_, fun k _ => ?_, fun k _ => by rw [hstep]⟩
  · induction k with
    | zero => exact hd
    | succ k ih =>
        rw [hstep, Tank.isDestroyed_congr (World.answered _).unhurt]
        exact ih (by omega)
  · rw [hstep]
    rcases (World.opponentStep^[k] w).answered.shot with hs | ⟨-, hs⟩
    · rw [hs]
    · rw [hs]
      rfl

/-- An opponent that stands fires, which takes health from the actor and is told, or it rolls: one
cell nearer to the actor along its new facing, or from the actor's cell one cell up if there is one.
So as long as the actor stays in place, and until a shot or the meeting, the tanks are as many cells
nearer as the opponent has made moves. -/
theorem opponentStep_fires_or_approaches (hw : w.OnBoard) (hd : w.opponent.isDestroyed = false) :
    ((w.Fires ∧ w.opponentStep =
        { w with
          actor := { w.actor with health := max 0 (w.actor.health - 15) }
          message := w.message ++ " | Enemy fires (-15 HP)" }) ∨
      (¬ w.Fires ∧ ¬ w.Met ∧ w.opponentStep = w.rolled w.opponentStep.opponent.facing ∧
        w.opponentStep.distance + 1 = w.distance) ∨
      (¬ w.Fires ∧ w.Met ∧ w.opponentStep =
        if w.opponent.y = 0 then { w with opponent := { w.opponent with facing := .up } }
        else w.rolled .up)) ∧
    ∀ (ws : Nat → World) (n : Nat), ws 0 = w → Waits ws n →
      (∃ k < n, (ws k).Fires) ∨ (∃ k ≤ n, (ws k).Met) ∨
        (n < w.distance ∧ (ws n).distance = w.distance - n) := by
  constructor
  · by_cases hfires : w.Fires
    · exact .inl ⟨hfires, World.opponentStep_of_fires hfires⟩
    · by_cases hmet : w.Met
      · exact .inr (.inr ⟨hfires, hmet, (World.opponentStep_of_met hw hd hmet).2⟩)
      · exact .inr (.inl ⟨hfires, hmet, World.opponentStep_of_not_met hw hd hfires hmet⟩)
  · rintro ws n rfl hwaits
    exact hwaits.distance_eq hw

/-- From the opening the opponent is one cell away after 29 moves without a shot. -/
theorem opponentStep_fires_or_approaches_opening :
    let ws : Nat → World := fun k => World.opponentStep^[k] .initial
    World.initial.OnBoard ∧ World.initial.opponent.isDestroyed = false ∧ Waits ws 29 ∧
      (∀ k < 29, ¬ (ws k).Fires) ∧ (∀ k ≤ 29, ¬ (ws k).Met) ∧ World.initial.distance = 30 ∧
      (ws 29).distance = 1 := by
  intro ws
  have hfires : ∀ k < 29, ¬ (ws k).Fires := by
    unfold World.Fires
    decide
  have hmet : ∀ k ≤ 29, ¬ (ws k).Met := by
    unfold World.Met
    decide
  have hwaits : Waits ws 29 := waits_iterate rfl 29
  refine ⟨World.onBoard_initial, rfl, hwaits, hfires, hmet, rfl, ?_⟩
  rcases (opponentStep_fires_or_approaches World.onBoard_initial rfl).2 ws 29 rfl hwaits with
    ⟨k, hk, h⟩ | ⟨k, hk, h⟩ | ⟨-, h⟩
  · exact absurd h (hfires k hk)
  · exact absurd h (hmet k hk)
  · exact h

end TankArena.Arena
