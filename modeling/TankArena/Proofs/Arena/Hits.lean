import TankArena.Arena.Sight

/-!
# Where shots land

A tank that is seen and ahead stands on a cell along the observer's facing, and the distance says on
which one. So a shot reaches the first cells ahead, as many as its range has. Two tanks see each
other over the same distance, and if each can hit the other they stand face to face.
-/

namespace TankArena.Arena

variable {o t : Tank} {k r r' : Int}

/-- Column and row of a tank. -/
def Tank.cell (t : Tank) : Int × Int := (t.x, t.y)

/-- The cell that lies `k` cells along the facing of a tank. -/
def Tank.cellAhead (t : Tank) (k : Int) : Int × Int :=
  (t.x + k * t.facing.vector.1, t.y + k * t.facing.vector.2)

theorem Tank.cell_eq_cellAhead_iff : t.cell = o.cellAhead k ↔
    t.x = o.x + k * o.facing.vector.1 ∧ t.y = o.y + k * o.facing.vector.2 := Prod.ext_iff

/-! ## One direction of sight -/

theorem sight_of_cellAhead (hk : 1 ≤ k) (h : t.cell = o.cellAhead k) :
    sight o t = { seen := true, distance := k, ahead := true } := by
  obtain ⟨hx, hy⟩ := Tank.cell_eq_cellAhead_iff.mp h
  cases hf : o.facing with
  | up | down =>
      simp only [hf, Facing.vector] at hx hy
      have hcolumn : o.x = t.x := by omega
      simp only [sight, hcolumn, ↓reduceIte, hf, Sight.mk.injEq, decide_eq_true_eq,
        beq_self_eq_true, reduceCtorEq, Bool.or_eq_true, Bool.and_eq_true, beq_iff_eq, and_true,
        and_false, or_false, false_or]
      omega
  | left | right =>
      simp only [hf, Facing.vector] at hx hy
      have hcolumn : o.x ≠ t.x := by omega
      have hrow : o.y = t.y := by omega
      simp only [sight, hcolumn, hrow, ↓reduceIte, hf, Sight.mk.injEq, decide_eq_true_eq,
        beq_self_eq_true, reduceCtorEq, Bool.or_eq_true, Bool.and_eq_true, beq_iff_eq, and_true,
        and_false, or_false, false_or]
      omega

/-- Whether it lies in the column or in the row, a target that is seen and ahead stands as many
cells along the facing as its distance says. -/
theorem cell_eq_cellAhead_distance (hs : (sight o t).seen = true) (ha : (sight o t).ahead = true) :
    1 ≤ (sight o t).distance ∧ t.cell = o.cellAhead (sight o t).distance := by
  rw [Tank.cell_eq_cellAhead_iff]
  unfold sight at *
  split at hs
  · rename_i hcolumn
    simp only [hcolumn, ↓reduceIte, decide_eq_true_eq, Bool.or_eq_true, Bool.and_eq_true,
      beq_iff_eq] at hs ha ⊢
    rcases ha with ⟨hd, hf⟩ | ⟨hd, hf⟩
    · simp only [hf, Facing.vector]
      omega
    · simp only [hf, Facing.vector]
      omega
  · rename_i hcolumn
    split at hs
    · rename_i hrow
      simp only [hcolumn, hrow, ↓reduceIte, decide_eq_true_eq, Bool.or_eq_true, Bool.and_eq_true,
        beq_iff_eq] at hs ha ⊢
      rcases ha with ⟨hd, hf⟩ | ⟨hd, hf⟩
      · simp only [hf, Facing.vector]
        omega
      · simp only [hf, Facing.vector]
        omega
    · cases hs

theorem inRange_iff : (sight o t).inRange r = true ↔
    ∃ k, 1 ≤ k ∧ k ≤ r ∧ t.cell = o.cellAhead k := by
  simp only [Sight.inRange, Bool.and_eq_true, decide_eq_true_eq]
  constructor
  · rintro ⟨⟨hs, ha⟩, hr⟩
    obtain ⟨hk, hcell⟩ := cell_eq_cellAhead_distance hs ha
    exact ⟨_, hk, hr, hcell⟩
  · rintro ⟨k, hk, hr, hcell⟩
    rw [sight_of_cellAhead hk hcell]
    exact ⟨⟨rfl, rfl⟩, hr⟩

/-! ## Both directions of sight -/

theorem sight_swap (o t : Tank) :
    (sight t o).seen = (sight o t).seen ∧ (sight t o).distance = (sight o t).distance := by
  have hx : (o.x - t.x).natAbs = (t.x - o.x).natAbs := by omega
  have hy : (o.y - t.y).natAbs = (t.y - o.y).natAbs := by omega
  by_cases hcolumn : o.x = t.x
  · simp only [sight, hcolumn, ↓reduceIte, hy, and_self]
  · by_cases hrow : o.y = t.y
    · simp only [sight, hcolumn, Ne.symm hcolumn, hrow, ↓reduceIte, hx, and_self]
    · simp only [sight, hcolumn, Ne.symm hcolumn, hrow, Ne.symm hrow, ↓reduceIte, and_self]

/-- Steps along two facings that lead back to the start. -/
theorem Facing.eq_turned_of_return {f g : Facing} {k k' : Int} (hk : 1 ≤ k) (hk' : 1 ≤ k')
    (hx : k * f.vector.1 + k' * g.vector.1 = 0) (hy : k * f.vector.2 + k' * g.vector.2 = 0) :
    g = f.turned 2 := by
  have hback : f.turned 2 = match f with
      | .up => .down | .right => .left | .down => .up | .left => .right := by cases f <;> rfl
  rw [hback]
  cases f <;> cases g <;> simp only [Facing.vector] at hx hy ⊢ <;> omega

/-- Two tanks that can hit each other stand face to face. -/
theorem facing_eq_of_inRange (h : (sight o t).inRange r = true)
    (h' : (sight t o).inRange r' = true) : t.facing = o.facing.turned 2 := by
  obtain ⟨k, hk, -, hcell⟩ := inRange_iff.mp h
  obtain ⟨k', hk', -, hcell'⟩ := inRange_iff.mp h'
  obtain ⟨hx, hy⟩ := Tank.cell_eq_cellAhead_iff.mp hcell
  obtain ⟨hx', hy'⟩ := Tank.cell_eq_cellAhead_iff.mp hcell'
  exact Facing.eq_turned_of_return hk hk' (by omega) (by omega)

/-- A target is in range exactly if it stands on one of the cells ahead that the range counts,
however long the range. The other tank sees as much and over the same distance, and if each has the
other in its range they face in opposite ways. -/
theorem inRange_iff_exists_cellAhead (o t : Tank) :
    (∀ r, (sight o t).inRange r = true ↔ ∃ k, 1 ≤ k ∧ k ≤ r ∧ t.cell = o.cellAhead k) ∧
    (sight t o).seen = (sight o t).seen ∧ (sight t o).distance = (sight o t).distance ∧
    ∀ r r', (sight o t).inRange r = true → (sight t o).inRange r' = true →
      t.facing = o.facing.turned 2 :=
  ⟨fun _ => inRange_iff, (sight_swap o t).1, (sight_swap o t).2, fun _ _ => facing_eq_of_inRange⟩

/-- Face to face in a row, farther apart than the distance that stands for tanks out of line. -/
theorem inRange_iff_exists_cellAhead_far :
    let o : Tank := { x := -700, y := 4, facing := .right }
    let t : Tank := { x := 800, y := 4, facing := .left }
    notAligned < (sight o t).distance ∧ (sight o t).inRange 1500 = true ∧
      (sight t o).inRange 1500 = true ∧ (sight o t).inRange 1499 = false ∧
      t.facing = o.facing.turned 2 := by
  intro o t
  obtain ⟨hrange, -, -, hfacing⟩ := inRange_iff_exists_cellAhead o t
  have hthere : (sight o t).inRange 1500 = true :=
    (hrange 1500).mpr ⟨1500, by decide, by decide, rfl⟩
  have hback : (sight t o).inRange 1500 = true := by decide
  exact ⟨by decide, hthere, hback, by decide, hfacing 1500 1500 hthere hback⟩

end TankArena.Arena
