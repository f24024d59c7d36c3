/-! Texts as lists of lines. Only the newline ends a line. -/

namespace TankArena.Text

def lines (t : List Char) : List (List Char) := t.splitOn '\n'

def unlines (ls : List (List Char)) : List Char := ['\n'].intercalate ls

/-- Every line end, CR LF or CR or LF, as a newline. -/
def unifyLineEnds : List Char → List Char
  | '\r' :: '\n' :: t => '\n' :: unifyLineEnds t
  | '\r' :: t => '\n' :: unifyLineEnds t
  | c :: t => c :: unifyLineEnds t
  | [] => []

theorem splitOn_cons (sep c : Char) (t : List Char) :
    (c :: t).splitOn sep =
      if c = sep then [] :: t.splitOn sep else (t.splitOn sep).modifyHead (c :: ·) := by
  simp [List.splitOn, List.splitOnP_cons_eq_if_modifyHead]

theorem exists_splitOn_eq_cons (sep : Char) (t : List Char) :
    ∃ p ps, t.splitOn sep = p :: ps :=
  List.exists_cons_of_ne_nil (List.splitOn_ne_nil sep t)

theorem lines_ne_nil (t : List Char) : lines t ≠ [] := List.splitOn_ne_nil _ t

theorem lines_unlines {ls : List (List Char)} (hne : ls ≠ []) (h : ∀ l ∈ ls, '\n' ∉ l) :
    lines (unlines ls) = ls :=
  List.splitOn_intercalate '\n' h hne

/-- A piece between separators holds no separator and only characters of the text. -/
theorem mem_splitOn {sep : Char} {t : List Char} {p : List Char} (h : p ∈ t.splitOn sep) :
    ∀ c ∈ p, c ≠ sep ∧ c ∈ t := by
  induction t generalizing p with
  | nil => simp_all [List.splitOn_nil]
  | cons d t ih =>
    obtain ⟨q, qs, hq⟩ := exists_splitOn_eq_cons sep t
    rw [splitOn_cons] at h
    split at h
    · rcases List.mem_cons.1 h with rfl | h
      · simp
      · exact fun c hc => ⟨(ih h c hc).1, List.mem_cons_of_mem _ (ih h c hc).2⟩
    · next hd =>
      rw [hq, List.modifyHead_cons] at h
      rw [hq] at ih
      intro c hc
      rcases List.mem_cons.1 h with rfl | h
      · rcases List.mem_cons.1 hc with rfl | hc
        · exact ⟨hd, List.mem_cons_self⟩
        · have := ih List.mem_cons_self c hc
          exact ⟨this.1, List.mem_cons_of_mem _ this.2⟩
      · have := ih (List.mem_cons_of_mem _ h) c hc
        exact ⟨this.1, List.mem_cons_of_mem _ this.2⟩

theorem exists_last_of_mem {c : Char} {t : List Char} (h : c ∈ t) : ∃ u v, t = u ++ c :: v ∧ c ∉ v := by
  obtain ⟨v, u, hrev, hv⟩ := List.eq_append_cons_of_mem (List.mem_reverse.mpr h)
  refine ⟨u.reverse, v.reverse, ?_, by simpa using hv⟩
  rw [← List.reverse_reverse t, hrev]
  simp

theorem newline_notMem_of_mem_lines {t l : List Char} (h : l ∈ lines t) : '\n' ∉ l :=
  fun hm => (mem_splitOn h _ hm).1 rfl

theorem length_lines (t : List Char) : (lines t).length = t.count '\n' + 1 := by
  induction t with
  | nil => rfl
  | cons c t ih =>
    obtain ⟨q, qs, hq⟩ := exists_splitOn_eq_cons '\n' t
    rw [lines, hq] at ih
    rw [lines, splitOn_cons, hq]
    split
    · next h => subst h; simpa using ih
    · next h => rw [List.count_cons_of_ne h]; simpa using ih

theorem count_unlines {ls : List (List Char)} (hne : ls ≠ []) (h : ∀ l ∈ ls, '\n' ∉ l) :
    (unlines ls).count '\n' + 1 = ls.length := by
  rw [← length_lines, lines_unlines hne h]

end TankArena.Text
