import TankArena.Chart.Figure
import TankArena.Host.Formula

/-! The typesetter that reads the formulas of a text before it sets it. -/

namespace TankArena.Host.Formula

open Chart Text

theorem dollars_le_count (s : List Char) : dollars s ≤ s.count '$' := by
  induction s with
  | nil => exact Int.le_refl 0
  | cons c s ih =>
      rw [dollars, List.count_cons]
      by_cases hc : c = '$'
      · simp only [hc, ↓reduceIte, beq_self_eq_true]
        split <;> omega
      · simp only [hc, ↓reduceIte, beq_iff_eq]
        split <;> omega

theorem sublist_of_mem_splitOn {sep : Char} {s l : List Char} (h : l ∈ s.splitOn sep) :
    l.Sublist s := by
  induction s generalizing l with
  | nil => simp_all
  | cons c s ih =>
      obtain ⟨u, us, hu⟩ := exists_splitOn_eq_cons sep s
      rw [hu] at ih
      rw [splitOn_cons, hu] at h
      split at h
      · rcases List.mem_cons.mp h with rfl | h
        · exact List.nil_sublist _
        · exact (ih h).cons c
      · rcases List.mem_cons.mp h with rfl | h
        · exact (ih List.mem_cons_self).cons_cons c
        · exact (ih (List.mem_cons_of_mem u h)).cons c

/-- It takes two dollar signs to make a formula. -/
theorem check_eq_ok_of_count {text : String} (h : text.toList.count '$' ≤ 1) :
    check text = .ok () := by
  have hlines : ∀ l ∈ lines text.toList, hasFormulas l = false := by
    intro l hl
    have hdollars := dollars_le_count l
    have hcount := (sublist_of_mem_splitOn hl).count_le '$'
    rw [hasFormulas, Bool.and_eq_false_iff, decide_eq_false_iff_not, decide_eq_false_iff_not]
    omega
  unfold check
  generalize lines text.toList = ls at hlines
  induction ls with
  | nil => rfl
  | cons l ls ih =>
      rw [List.forM, hlines l List.mem_cons_self]
      exact ih fun m hm => hlines m (List.mem_cons_of_mem _ hm)

def typesetter : Typesetter where
  set text := (check text).mapError Error.message
  plain text h := by rw [check_eq_ok_of_count h]; rfl

end TankArena.Host.Formula
