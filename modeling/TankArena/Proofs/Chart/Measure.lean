import Mathlib.Algebra.Group.Nat.Defs
import TankArena.Chart.Figure

/-!
# Numbers that are too large for a measure

A whole number is rounded to 53 significant bits. Just below a power of two the step of the format is
half as wide as above it, and what comes closer than half a step to the power of two is rounded to it.
-/

namespace TankArena.Chart

variable {num e : Nat}

theorem roundDiv_eq (num den : Nat) : roundDiv num den = num / den ∨
    roundDiv num den = num / den + 1 := by
  unfold roundDiv
  dsimp only
  split
  · exact .inr rfl
  · exact .inl rfl

theorem roundDiv_of_odd (num den : Nat) (h : num / den % 2 = 1) :
    roundDiv num den = num / den ↔ 2 * (num % den) < den := by
  unfold roundDiv
  simp only [h, Bool.or_eq_true, Bool.and_eq_true, decide_eq_true_eq, and_true]
  split <;> omega

/-- Bits of a whole number beyond the first 53. -/
def spareBits (num : Nat) : Nat := num.log2 + 1 - 53

theorem nearest_one (num : Nat) :
    nearest num 1 = roundDiv num (2 ^ spareBits num) * 2 ^ spareBits num := by
  simp only [nearest, spareBits, Nat.div_one, Nat.shiftLeft_eq, Nat.one_mul]

theorem nearest_le (h : num < 2 ^ e) (he : 53 ≤ e) : nearest num 1 ≤ 2 ^ e := by
  rw [nearest_one]
  have hlog : spareBits num + 53 ≤ e := by
    by_cases hnum : num = 0
    · subst hnum
      exact he
    · have hlt := (Nat.log2_lt hnum).mpr h
      unfold spareBits
      omega
  have hbits : num < 2 ^ (53 + spareBits num) := by
    by_cases hnum : num = 0
    · subst hnum
      exact Nat.two_pow_pos _
    · exact (Nat.log2_lt hnum).mp (by unfold spareBits; omega)
  have hwhole : num / 2 ^ spareBits num < 2 ^ 53 :=
    Nat.div_lt_of_lt_mul (by rwa [Nat.mul_comm, ← Nat.pow_add])
  have hround : roundDiv num (2 ^ spareBits num) ≤ 2 ^ 53 := by
    rcases roundDiv_eq num (2 ^ spareBits num) with h | h <;> omega
  calc roundDiv num (2 ^ spareBits num) * 2 ^ spareBits num
      ≤ 2 ^ 53 * 2 ^ spareBits num := Nat.mul_le_mul_right _ hround
    _ = 2 ^ (53 + spareBits num) := (Nat.pow_add ..).symm
    _ ≤ 2 ^ e := Nat.pow_le_pow_right (by decide) (by omega)

theorem le_nearest (h : 2 ^ e ≤ num) (he : 53 ≤ e) : 2 ^ e ≤ nearest num 1 := by
  rw [nearest_one]
  have hnum : num ≠ 0 := fun h0 => by
    subst h0
    exact absurd h (Nat.not_le.mpr (Nat.two_pow_pos e))
  have hlog : e ≤ num.log2 := (Nat.le_log2 hnum).mpr h
  have hspare : 52 + spareBits num = num.log2 := by
    unfold spareBits
    omega
  have hwhole : 2 ^ 52 ≤ num / 2 ^ spareBits num := by
    rw [Nat.le_div_iff_mul_le (Nat.two_pow_pos _), ← Nat.pow_add, hspare]
    exact Nat.log2_self_le hnum
  have hround : 2 ^ 52 ≤ roundDiv num (2 ^ spareBits num) := by
    rcases roundDiv_eq num (2 ^ spareBits num) with h | h <;> omega
  calc 2 ^ e
      ≤ 2 ^ (52 + spareBits num) := Nat.pow_le_pow_right (by decide) (by omega)
    _ = 2 ^ 52 * 2 ^ spareBits num := Nat.pow_add ..
    _ ≤ roundDiv num (2 ^ spareBits num) * 2 ^ spareBits num := Nat.mul_le_mul_right _ hround

/-- In the last binade below a power of two the steps are `2 * half` wide. -/
theorem nearest_lt_iff_of_le {half : Nat} (hhalf : half = 2 ^ (e - 54)) (he : 54 ≤ e)
    (hlow : 2 ^ (e - 1) ≤ num) (hhigh : num < 2 ^ e) :
    nearest num 1 < 2 ^ e ↔ num + half < 2 ^ e := by
  have hnum : num ≠ 0 := fun h0 => by
    subst h0
    exact absurd hlow (Nat.not_le.mpr (Nat.two_pow_pos _))
  have hspare : spareBits num = e - 54 + 1 := by
    have hlow := (Nat.le_log2 hnum).mpr hlow
    have hhigh := (Nat.log2_lt hnum).mpr hhigh
    unfold spareBits
    omega
  have hstep : 2 ^ spareBits num = 2 * half := by rw [hspare, hhalf, Nat.pow_succ']
  have hpos : 0 < half := hhalf ▸ Nat.two_pow_pos _
  have hpower : 2 ^ e = 2 ^ 53 * (2 * half) := by
    rw [← hstep, ← Nat.pow_add, hspare]
    congr 1
    omega
  rw [nearest_one, hstep, hpower, Nat.mul_lt_mul_right (by omega)]
  have hsplit := Nat.div_add_mod num (2 * half)
  have hpart := Nat.mod_lt num (show 0 < 2 * half by omega)
  have hwhole : num / (2 * half) < 2 ^ 53 := Nat.div_lt_of_lt_mul (by rwa [Nat.mul_comm, ← hpower])
  generalize hq : num / (2 * half) = whole at *
  rcases Nat.lt_or_ge whole (2 ^ 53 - 1) with hlt | hge
  · refine iff_of_true ?_ ?_
    · rcases roundDiv_eq num (2 * half) with h | h <;> omega
    · have hbound : 2 * half * (whole + 1) ≤ 2 * half * (2 ^ 53 - 1) :=
        Nat.mul_le_mul_left _ (by omega)
      rw [Nat.mul_succ] at hbound
      omega
  · -- The whole part is odd, so a half is rounded up.
    obtain rfl : whole = 2 ^ 53 - 1 := by omega
    have hodd := roundDiv_of_odd num (2 * half) (by rw [hq]; decide)
    rcases roundDiv_eq num (2 * half) with h | h <;> omega

/-- Rounding keeps a number below a power of two if it is more than half a step below. -/
theorem nearest_lt_iff (he : 54 ≤ e) : nearest num 1 < 2 ^ e ↔ num + 2 ^ (e - 54) < 2 ^ e := by
  have hpower : 2 ^ (e - 1) + 2 ^ (e - 1) = 2 ^ e := by
    rw [← Nat.two_mul, ← Nat.pow_succ']
    congr 1
    omega
  rcases Nat.lt_or_ge num (2 ^ (e - 1)) with hlow | hlow
  · have hle := nearest_le hlow (by omega)
    have hhalf : 2 ^ (e - 54) ≤ 2 ^ (e - 1) := Nat.pow_le_pow_right (by decide) (by omega)
    have hpos := Nat.two_pow_pos (e - 1)
    exact iff_of_true (by omega) (by omega)
  · rcases Nat.lt_or_ge num (2 ^ e) with hhigh | hhigh
    · exact nearest_lt_iff_of_le rfl he hlow hhigh
    · have hle := le_nearest hhigh (by omega)
      have hpos := Nat.two_pow_pos (e - 54)
      exact iff_of_false (by omega) (by omega)

/-- The same on a grid with `1 <<< scale` steps in a length of one. -/
theorem nearest_mul_lt_iff (num scale : Nat) (he : 54 ≤ e) :
    nearest (num * 1 <<< scale) 1 < 1 <<< scale <<< e ↔ num + 2 ^ (e - 54) < 2 ^ e := by
  rw [Nat.one_shiftLeft, Nat.shiftLeft_eq, ← Nat.pow_add, Nat.add_comm scale,
    nearest_lt_iff (by omega), show e + scale - 54 = e - 54 + scale by omega, Nat.pow_add,
    Nat.pow_add, ← Nat.add_mul, Nat.mul_lt_mul_right (Nat.two_pow_pos scale)]

/-- A whole number is too large for a measure from half a step below `2 ^ 1024` on. -/
theorem isFinite_units_iff (n : Int) :
    (units n).isFinite = true ↔ n.natAbs + 2 ^ (1024 - 54) < 2 ^ 1024 :=
  decide_eq_true_iff.trans (nearest_mul_lt_iff n.natAbs 1074 (by decide))

end TankArena.Chart
