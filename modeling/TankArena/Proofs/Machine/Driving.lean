import Mathlib.Logic.Function.Iterate
import TankArena.Machine.Primitive
import TankArena.Proofs.Arena.Pursuit

/-!
# How far a tank drives

A drive stops at a cell that its unit step does not leave, where further steps would change nothing.
So it ends where all steps together end, and on the board that is one clamped offset. A drive to the
side or backward is a drive forward between two turns.
-/

namespace TankArena.Arena

/-- Clamping after every step is clamping once, for a value that starts within the bounds. -/
theorem clamp_add_mul_succ {value low high : Int} (h : low ≤ value) (h' : value ≤ high) (d : Int)
    (n : Nat) :
    clamp (clamp (value + n * d) low high + d) low high =
      clamp (value + (n + 1 : Nat) * d) low high := by
  have hstep : ((n + 1 : Nat) : Int) * d = n * d + d := by
    rw [Int.natCast_succ, Int.add_mul, Int.one_mul]
  rw [hstep]
  simp only [clamp]
  rcases Int.le_total 0 d with hd | hd
  · have hoffset : 0 ≤ (n : Int) * d := Int.mul_nonneg (Int.natCast_nonneg n) hd
    omega
  · have hoffset : (n : Int) * d ≤ 0 :=
      Int.mul_nonpos_of_nonneg_of_nonpos (Int.natCast_nonneg n) hd
    omega

namespace Tank

variable {t : Tank} {dx dy : Int}

/-- The unit steps of a drive, one after the other and with no look at walls. -/
def stepped (t : Tank) (dx dy : Int) (n : Nat) : Tank := (fun u => u.shifted dx dy)^[n] t

theorem stepped_succ (t : Tank) (dx dy : Int) (n : Nat) :
    t.stepped dx dy (n + 1) = (t.shifted dx dy).stepped dx dy n := Function.iterate_succ_apply _ _ _

theorem stepped_of_pinned (h : t.shifted dx dy = t) (n : Nat) : t.stepped dx dy n = t :=
  Function.iterate_fixed h n

/-- On the board all steps together are one clamped offset. -/
theorem stepped_eq (h : t.OnBoard) (dx dy : Int) (n : Nat) :
    t.stepped dx dy n =
      { t with
        x := clamp (t.x + n * dx) 0 (gridSize - 1)
        y := clamp (t.y + n * dy) 0 (gridSize - 1) } := by
  obtain ⟨hleft, hright, htop, hbottom⟩ := h
  have hright := Int.le_sub_one_of_lt hright
  have hbottom := Int.le_sub_one_of_lt hbottom
  induction n with
  | zero =>
      simp only [Int.natCast_zero, Int.zero_mul, Int.add_zero, clamp_eq_self hleft hright,
        clamp_eq_self htop hbottom]
      rfl
  | succ n ih =>
      have hlast : t.stepped dx dy (n + 1) = (t.stepped dx dy n).shifted dx dy :=
        Function.iterate_succ_apply' _ _ _
      rw [hlast, ih]
      simp only [shifted, clamp_add_mul_succ hleft hright, clamp_add_mul_succ htop hbottom]

theorem stepped_faced (t : Tank) (facing : Facing) (dx dy : Int) (n : Nat) :
    Tank.stepped { t with facing } dx dy n = { t.stepped dx dy n with facing } := by
  induction n generalizing t with
  | zero => rfl
  | succ n ih =>
      rw [stepped_succ, stepped_succ]
      exact ih (t.shifted dx dy)

theorem stepped_cell (t : Tank) (dx dy : Int) (n : Nat) : t.stepped dx dy n =
    { t with x := (t.stepped dx dy n).x, y := (t.stepped dx dy n).y } := by
  induction n generalizing t with
  | zero => rfl
  | succ n ih =>
      rw [stepped_succ]
      exact ih (t.shifted dx dy)

/-- How many cells lie between a tank and the wall on one side of it. -/
def room (t : Tank) : Facing → Int
  | .up => t.y
  | .right => gridSize - 1 - t.x
  | .down => gridSize - 1 - t.y
  | .left => t.x

theorem OnBoard.room_le (h : t.OnBoard) (f : Facing) : 0 ≤ t.room f ∧ t.room f ≤ gridSize - 1 := by
  obtain ⟨hleft, hright, htop, hbottom⟩ := h
  cases f <;> simp only [room] <;> omega

/-- A unit step takes one cell off the room ahead, and at the wall it goes nowhere. -/
theorem OnBoard.shifted_along (h : t.OnBoard) (f : Facing) :
    (t.room f = 0 ∧ t.shifted f.vector.1 f.vector.2 = t) ∨
      (0 < t.room f ∧ (t.shifted f.vector.1 f.vector.2).room f = t.room f - 1) := by
  obtain ⟨hleft, hright, htop, hbottom⟩ := h
  simp only [gridSize] at hright hbottom
  cases t
  cases f <;>
    simp only [room, shifted, Facing.vector, clamp, gridSize, Tank.mk.injEq, and_true] at * <;>
    omega

end Tank

end TankArena.Arena

namespace TankArena.Script

/-- How a course is turned from the facing, in quarters clockwise. -/
def Course.quarters : Course → Int
  | .forward => 0
  | .backward => 2
  | .left => -1
  | .right => 1

/-- How a turn to one side turns the facing, in quarters clockwise. -/
def Side.quarters : Side → Int
  | .left => -1
  | .right => 1

end TankArena.Script

namespace TankArena.Machine

open Arena Script

/-! ## The early stop -/

theorem drive_eq_stepped (dx dy : Int) (n : Nat) (t : Tank) :
    drive dx dy n t = t.stepped dx dy n := by
  induction n generalizing t with
  | zero => rfl
  | succ n ih =>
      rw [drive]
      split
      · rename_i hpinned
        have hstay : t.shifted dx dy = t := by
          obtain ⟨hx, hy⟩ := hpinned
          cases t
          simp only [Tank.shifted] at hx hy ⊢
          rw [hx, hy]
        exact (Tank.stepped_of_pinned hstay (n + 1)).symm
      · rw [ih, Tank.stepped_succ]

/-- A drive with the number of cells that it tries; the last of them it may not reach. -/
def driveCounted (dx dy : Int) : Nat → Tank → Nat × Tank
  | 0, t => (0, t)
  | n + 1, t =>
    let next := t.shifted dx dy
    if next.x = t.x ∧ next.y = t.y then (1, t)
    else
      let rest := driveCounted dx dy n next
      (rest.1 + 1, rest.2)

theorem driveCounted_snd (dx dy : Int) (n : Nat) (t : Tank) :
    (driveCounted dx dy n t).2 = drive dx dy n t := by
  induction n generalizing t with
  | zero => rfl
  | succ n ih =>
      rw [driveCounted, drive]
      split
      · rfl
      · exact ih _

/-- A drive along a facing tries all the cells up to the wall and one more, or as many as it has. -/
theorem driveCounted_fst {t : Tank} (h : t.OnBoard) (f : Facing) (n : Nat) :
    (driveCounted f.vector.1 f.vector.2 n t).1 = min n ((t.room f).toNat + 1) := by
  induction n generalizing t with
  | zero => rw [driveCounted, Nat.zero_min]
  | succ n ih =>
      rw [driveCounted]
      rcases h.shifted_along f with ⟨hroom, hstay⟩ | ⟨hroom, hnext⟩
      · rw [hstay, if_pos ⟨rfl, rfl⟩, hroom]
        simp
      · have hmoves : ¬ ((t.shifted f.vector.1 f.vector.2).x = t.x ∧
            (t.shifted f.vector.1 f.vector.2).y = t.y) := by
          rintro ⟨hx, hy⟩
          have hsame : (t.shifted f.vector.1 f.vector.2).room f = t.room f := by
            cases f <;> simp only [Tank.room, hx, hy]
          omega
        rw [if_neg hmoves]
        dsimp only
        rw [ih (t.onBoard_shifted _ _), hnext]
        omega

/-! ## Courses and turns -/

theorem courseVector_eq (f : Facing) (course : Course) :
    courseVector f course = (f.turned course.quarters).vector := by
  cases f <;> cases course <;> rfl

theorem moveActor_eq_stepped (w : World) (course : Course) (amount : Int) :
    let v := (w.actor.facing.turned course.quarters).vector
    moveActor w course amount = { w with actor := w.actor.stepped v.1 v.2 amount.toNat } := by
  rw [moveActor, drive_eq_stepped, courseVector_eq]

/-- The world with the actor facing some way. -/
def facedActor (w : World) (facing : Facing) : World := { w with actor := { w.actor with facing } }

/-- Every course is a drive forward of an actor that faces that way in the meantime. -/
theorem moveActor_eq_facedActor (w : World) (course : Course) (amount : Int) :
    moveActor w course amount = facedActor
      (moveActor (facedActor w (w.actor.facing.turned course.quarters)) .forward amount)
      w.actor.facing := by
  have hforward (f : Facing) : f.turned Course.forward.quarters = f := by cases f <;> rfl
  simp only [moveActor_eq_stepped, facedActor, hforward, Tank.stepped_faced]
  exact congrArg (fun actor => { w with actor }) (w.actor.stepped_faced w.actor.facing _ _ _)

theorem facing_moveActor (w : World) (course : Course) (amount : Int) :
    (moveActor w course amount).actor.facing = w.actor.facing := by
  rw [moveActor_eq_stepped, Tank.stepped_cell]

/-- After the drive forward the actor can be turned back by as much as it was turned before. -/
theorem moveActor_turned_back (w : World) (course : Course) (amount : Int) {back : Int}
    (h : (w.actor.facing.turned course.quarters).turned back = w.actor.facing) :
    let m := moveActor (facedActor w (w.actor.facing.turned course.quarters)) .forward amount
    moveActor w course amount = facedActor m (m.actor.facing.turned back) := by
  intro m
  have hfacing : m.actor.facing = w.actor.facing.turned course.quarters := facing_moveActor _ _ _
  rw [hfacing, h]
  exact moveActor_eq_facedActor w course amount

theorem turnActor_eq_facedActor (w : World) (side : Side) :
    turnActor w side = facedActor w (w.actor.facing.turned side.quarters) := by cases side <;> rfl

theorem turnActor_twice (w : World) (side : Side) :
    turnActor (turnActor w side) side = facedActor w (w.actor.facing.turned 2) := by
  have hhalf : ∀ f : Facing, (f.turned side.quarters).turned side.quarters = f.turned 2 := by
    intro f
    cases f <;> cases side <;> rfl
  rw [turnActor_eq_facedActor, turnActor_eq_facedActor, ← hhalf]
  rfl

/-- A move ends where all of its unit steps together end, each of them clamped to the board, and
changes nothing but the cell of the actor. On the board that is one clamped offset along the facing
turned by the course, and a drive that counts its cells tries twenty of them at most. A move to one
side or backward is a move forward between turns. -/
theorem move_reaches_clamped_cell (w : World) (course : Course) (amount : Int) :
    let v := (w.actor.facing.turned course.quarters).vector
    let moved := moveActor w course amount
    moved.actor = (fun t => t.shifted v.1 v.2)^[(max 0 amount).toNat] w.actor ∧
    moved = { w with actor := { w.actor with x := moved.actor.x, y := moved.actor.y } } ∧
    (w.actor.OnBoard → moved.actor.x = clamp (w.actor.x + max 0 amount * v.1) 0 19 ∧
      moved.actor.y = clamp (w.actor.y + max 0 amount * v.2) 0 19 ∧
      ∃ cells ≤ 20, driveCounted v.1 v.2 amount.toNat w.actor = (cells, moved.actor)) ∧
    moveActor w .right amount = turnActor (moveActor (turnActor w .right) .forward amount) .left ∧
    moveActor w .left amount = turnActor (moveActor (turnActor w .left) .forward amount) .right ∧
    ∀ out back, moveActor w .backward amount = turnActor (turnActor
      (moveActor (turnActor (turnActor w out) out) .forward amount) back) back := by
  intro v moved
  have hmoved : moved.actor = w.actor.stepped v.1 v.2 amount.toNat := by
    simp only [moved, moveActor_eq_stepped, v]
  have hcells : (amount.toNat : Int) = max 0 amount := by omega
  refine ⟨?_, ?_, fun hboard => ?_, ?_, ?_, fun out back => ?_⟩
  · rw [hmoved, ← hcells, Int.toNat_natCast]
    rfl
  · rw [hmoved, ← Tank.stepped_cell, ← hmoved]
    rfl
  · have hcell := hmoved.trans (Tank.stepped_eq hboard v.1 v.2 amount.toNat)
    refine ⟨?_, ?_, _, ?_, Prod.ext rfl ?_⟩
    · rw [hcell, hcells]
      rfl
    · rw [hcell, hcells]
      rfl
    · have hroom := hboard.room_le (w.actor.facing.turned course.quarters)
      have hcells := driveCounted_fst hboard (w.actor.facing.turned course.quarters) amount.toNat
      simp only [gridSize] at hroom
      simp only [v, hcells]
      omega
    · rw [driveCounted_snd, drive_eq_stepped, hmoved]
  · have hback : ∀ f : Facing, (f.turned 1).turned (-1) = f := by intro f; cases f <;> rfl
    rw [turnActor_eq_facedActor, turnActor_eq_facedActor]
    exact moveActor_turned_back w .right amount (hback _)
  · have hback : ∀ f : Facing, (f.turned (-1)).turned 1 = f := by intro f; cases f <;> rfl
    rw [turnActor_eq_facedActor, turnActor_eq_facedActor]
    exact moveActor_turned_back w .left amount (hback _)
  · have hback : ∀ f : Facing, (f.turned 2).turned 2 = f := by intro f; cases f <;> rfl
    rw [turnActor_twice, turnActor_twice]
    exact moveActor_turned_back w .backward amount (hback _)

/-- A strafe of more cells than the board has, by an actor that faces up: it tries the fifteen cells
to its left and the one behind the wall. -/
theorem move_reaches_clamped_cell_wall :
    let w : World := { World.initial with actor := { x := 15, y := 17 } }
    w.actor.OnBoard ∧ (moveActor w .left (10 ^ 30)).actor = { x := 0, y := 17 } ∧
      ∃ cells ≤ 20, driveCounted (-1) 0 (10 ^ 30) w.actor = (cells, { x := 0, y := 17 }) := by
  intro w
  have hboard : w.actor.OnBoard := ⟨by decide, by decide, by decide, by decide⟩
  obtain ⟨-, hcell, hfinal, -⟩ := move_reaches_clamped_cell w .left (10 ^ 30)
  obtain ⟨hx, hy, cells, hcells, hcounted⟩ := hfinal hboard
  have hactor : (moveActor w .left (10 ^ 30)).actor = { x := 0, y := 17 } := by
    rw [hcell, hx, hy]
    decide
  rw [hactor] at hcounted
  exact ⟨hboard, hactor, cells, hcells, hcounted⟩

end TankArena.Machine
