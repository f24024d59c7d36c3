import TankArena.Proofs.Script.Failure

/-!
# How deep reading goes

Reading a block reads the statement texts inside it, which have fewer lines than the block. So
reading comes to an end, and there is room for it where there is as much as there are lines.
-/

namespace TankArena.Script

open Text

/-! ## Lines of a statement text -/

theorem count_blockText {header : List Char} {body : List (List Char)}
    (hh : '\n' ∉ header) (hb : ∀ l ∈ body, '\n' ∉ l) :
    (blockText header body).count '\n' = body.length + 1 := by
  have h := @count_unlines (header :: body ++ ["END".toList]) (by simp) (by
    intro l hl
    rcases List.mem_append.1 hl with hl | hl
    · rcases List.mem_cons.1 hl with rfl | hl
      · exact hh
      · exact hb l hl
    · rw [List.mem_singleton.1 hl]; decide)
  rw [blockText]
  simpa using h

mutual
theorem count_le_of_mem_cutOutside {t : List Char} :
    (ls : List (List Char)) → (∀ l ∈ ls, '\n' ∉ l) → t ∈ cutOutside ls →
      t.count '\n' ≤ ls.length
  | [], _, ht => by simp [cutOutside] at ht
  | l :: ls, h, ht => by
    have hl := h l List.mem_cons_self
    have hls : ∀ m ∈ ls, '\n' ∉ m := fun m hm => h m (List.mem_cons_of_mem _ hm)
    rw [cutOutside] at ht
    split at ht
    · have := count_le_of_mem_cutInside l [] ls hl (by simp) hls ht
      simpa using this
    · rcases List.mem_append.1 ht with ht | ht
      · rw [List.count_eq_zero.2 (newline_notMem_of_mem_parts hl ht)]
        exact Nat.zero_le _
      · exact Nat.le_succ_of_le (count_le_of_mem_cutOutside ls hls ht)

theorem count_le_of_mem_cutInside {t : List Char} (header : List Char) (body : List (List Char)) :
    (ls : List (List Char)) → '\n' ∉ header → (∀ l ∈ body, '\n' ∉ l) → (∀ l ∈ ls, '\n' ∉ l) →
      t ∈ cutInside header body ls → t.count '\n' ≤ body.length + ls.length + 1
  | [], hh, hb, _, ht => by
    rw [cutInside, List.mem_singleton] at ht
    rw [ht, count_blockText hh (by simpa using hb)]
    simp
  | l :: ls, hh, hb, h, ht => by
    have hl := h l List.mem_cons_self
    have hls : ∀ m ∈ ls, '\n' ∉ m := fun m hm => h m (List.mem_cons_of_mem _ hm)
    rw [cutInside] at ht
    split at ht
    · rcases List.mem_cons.1 ht with ht | ht
      · rw [ht, count_blockText hh (by simpa using hb)]
        simp
      · have := count_le_of_mem_cutOutside ls hls ht
        simp only [List.length_cons]
        omega
    · have := count_le_of_mem_cutInside header (l :: body) ls hh
        (fun m hm => (List.mem_cons.1 hm).elim (fun e => e ▸ hl) (hb m)) hls ht
      simp only [List.length_cons] at this ⊢
      omega
end

/-- A statement text holds at most one line more than the lines it was cut from. -/
theorem count_le_of_mem_tokensOf {ls : List (List Char)} (h : ∀ l ∈ ls, '\n' ∉ l) {t : List Char}
    (ht : t ∈ tokensOf ls) : t.count '\n' ≤ ls.length := by
  refine Nat.le_trans (count_le_of_mem_cutOutside _ (newline_notMem_of_mem_codeLines h) ht) ?_
  rw [codeLines]
  exact Nat.le_trans (List.length_filter_le _ _) (by simp)

theorem count_of_block? {t name : List Char} {inner : List (List Char)}
    (h : block? t = some (name, inner)) : t.count '\n' = inner.length + 1 := by
  obtain ⟨header, last, hl, -⟩ := lines_eq_of_block? h
  have hlen := length_lines t
  rw [hl] at hlen
  simp only [List.length_cons, List.length_append, List.length_nil] at hlen
  omega

/-- The statement texts inside a block have fewer lines than the block, though one that its lines
leave open is closed by a line more. -/
theorem count_lt_of_mem_inner {t name u : List Char} {inner : List (List Char)}
    (h : block? t = some (name, inner)) (hu : u ∈ tokensOf inner) :
    u.count '\n' < t.count '\n' := by
  obtain ⟨header, last, hl, -⟩ := lines_eq_of_block? h
  have hn : ∀ l ∈ inner, '\n' ∉ l := fun l hm =>
    newline_notMem_of_mem_lines (t := t) (by simp [hl, hm])
  rw [count_of_block? h]
  exact Nat.lt_succ_of_le (count_le_of_mem_tokensOf hn hu)

theorem count_lt_of_mem_block {token name t : List Char} {inner : List (List Char)}
    (h : block? (withoutTerminator token) = some (name, inner)) (ht : t ∈ tokensOf inner) :
    t.count '\n' < token.count '\n' :=
  Nat.lt_of_lt_of_le (count_lt_of_mem_inner h ht) ((withoutTerminator_sublist token).count_le '\n')

/-! ## Lines of a text that is nested deep -/

variable {room : Nat} {token t : List Char}

theorem ReadsInside.length_lines_lt (h : ReadsInside token t) :
    (lines t).length < (lines token).length := by
  obtain ⟨name, inner, hblock, ht⟩ := h
  rw [length_lines, length_lines]
  exact Nat.succ_lt_succ (count_lt_of_mem_block hblock ht)

/-- By the number of lines: there is no endless descent into blocks. -/
theorem wellFounded_readsInside : WellFounded fun t token => ReadsInside token t :=
  Subrelation.wf (fun h => h.length_lines_lt) (measure fun t => (lines t).length).wf

/-- By induction on the depth: a block with texts inside has two lines more than its inner lines, and
the texts inside have at most one line more than those. -/
theorem TooDeep.lt_count (h : TooDeep room token) (hpos : 0 < room) : room < token.count '\n' := by
  induction h with
  | noRoom => exact absurd hpos (Nat.lt_irrefl 0)
  | @inner room token t hinside _ ih =>
      obtain ⟨name, inner, hblock, ht⟩ := hinside
      have hfewer := count_lt_of_mem_block hblock ht
      have hlines : inner.length + 1 ≤ token.count '\n' := by
        rw [← count_of_block? hblock]
        exact (withoutTerminator_sublist token).count_le '\n'
      cases room with
      | zero =>
          have hinner : inner ≠ [] := by
            rintro rfl
            cases ht
          have := List.length_pos_iff.mpr hinner
          omega
      | succ room =>
          have := ih (Nat.succ_pos room)
          omega

/-- There is room for a statement text where there is as much as it has lines. -/
theorem not_tooDeep_of_lines (h : (lines token).length ≤ room) : ¬TooDeep room token := fun hdeep => by
  rw [length_lines] at h
  have := hdeep.lt_count (Nat.zero_lt_of_lt h)
  omega

theorem not_tooDeep_of_mem {source : List Char} (hmem : token ∈ tokensOf (lines source))
    (h : (lines source).length ≤ room) : ¬TooDeep room token := fun hdeep => by
  have hpos : 0 < room := Nat.lt_of_lt_of_le (List.length_pos_iff.mpr (lines_ne_nil source)) h
  have hcount := count_le_of_mem_tokensOf (fun l => newline_notMem_of_mem_lines) hmem
  have := hdeep.lt_count hpos
  omega

/-- Every text inside a block has fewer lines than the block, so reading ends for every statement
text and every script. Where there is room for as many readings inside one another as there are
lines it is never too deep, and more room changes nothing. -/
theorem reading_within_lines :
    (∀ t name inner, block? t = some (name, inner) → ∀ u ∈ tokensOf inner,
      (lines u).length < (lines t).length) ∧
    (WellFounded fun u token => ReadsInside token u) ∧
    (∀ token room, (lines token).length ≤ room → ¬TooDeep room token ∧
      Stmt.read room token ≠ .error .tooDeep ∧
      ∀ more, room ≤ more → Stmt.read more token = Stmt.read room token) ∧
    ∀ source room, (lines source).length ≤ room →
      (∀ token ∈ tokensOf (lines source), ¬TooDeep room token) ∧
      Program.ofChars room source ≠ .error .tooDeep ∧
      ∀ more, room ≤ more → Program.ofChars more source = Program.ofChars room source := by
  refine ⟨fun t name inner h u hu => ?_, wellFounded_readsInside, fun token room h => ?_,
    fun source room h => ?_⟩
  · rw [length_lines, length_lines]
    exact Nat.succ_lt_succ (count_lt_of_mem_inner h hu)
  · have hread : Stmt.read room token ≠ .error .tooDeep := fun he =>
      not_tooDeep_of_lines h (tooDeep_of_read_eq he)
    exact ⟨not_tooDeep_of_lines h, hread, fun more => Stmt.read_of_le hread⟩
  · have hdeep : ∀ token ∈ tokensOf (lines source), ¬TooDeep room token := fun token hmem =>
      not_tooDeep_of_mem hmem h
    have hread : Program.ofChars room source ≠ .error .tooDeep := fun he => by
      obtain ⟨token, hmem, hread⟩ := exists_of_map_mapM_eq_error he
      exact hdeep token hmem (tooDeep_of_read_eq hread)
    exact ⟨hdeep, hread, fun more => Program.ofChars_of_le hread⟩

/-- Three headers, none of them closed, take three readings. -/
example : Program.ofChars 2 "FUNCTION A:\nFUNCTION B:\nFUNCTION C:".toList = .error .tooDeep := by
  decide +kernel

end TankArena.Script
