import TankArena.Proofs.Script.Conditional
import TankArena.Proofs.Script.Room

/-!
# Direction words in the wrong letters

A keyword is recognised by the capitals that its letters count as, and a direction is then looked up
by its letters in upper case. The two differ for the dotted I and for the Kelvin sign alone: a
direction written with one of them is recognised and not found. Cutting a script into statement texts
adds no such letter, so it stands in the script.
-/

namespace TankArena.Script

open Text

variable {c : Char} {t word : List Char} {e : ReadError}

/-! ## Direction words -/

/-- The letters that count as a letter of a keyword but are capitals of their own. -/
def lookalikes : List Char := ['\u0130', '\u212A']

theorem upper_eq_capital (h : c ∉ lookalikes) : upper c = capital c := by
  simp only [lookalikes, List.mem_cons, List.not_mem_nil, or_false, not_or] at h
  simp [upper, capital, h.1, h.2]

theorem upper_of_mem_lookalikes (h : c ∈ lookalikes) : upper c = c := by
  simp only [lookalikes, List.mem_cons, List.not_mem_nil, or_false] at h
  rcases h with rfl | rfl <;> decide

theorem mem_of_isOneOf {keywords : List String} (hone : isOneOf keywords word = true)
    (h : ∀ c ∈ word, c ∉ lookalikes) : String.ofList (word.map upper) ∈ keywords := by
  obtain ⟨k, hk, hword⟩ := List.any_eq_true.mp hone
  rw [isKeyword_iff] at hword
  rw [List.map_congr_left fun c hc => upper_eq_capital (h c hc), hword, String.ofList_toList]
  exact hk

theorem exists_lookalike {keywords : List String} (hone : isOneOf keywords word = true)
    (hnone : String.ofList (word.map upper) ∉ keywords) :
    ∃ c ∈ lookalikes, c ∈ word ∧ c ∈ word.map upper := by
  refine Classical.byContradiction fun hno => hnone (mem_of_isOneOf hone fun c hc hl => ?_)
  refine hno ⟨c, hl, hc, ?_⟩
  rw [← upper_of_mem_lookalikes hl]
  exact List.mem_map_of_mem hc

/-- The plain statement `t` goes in the direction `word`, which in upper case names none; the error is
that of looking it up. -/
inductive Misdirected (t word : List Char) : ReadError → Prop
  | course {amount} : assignment? t = none → move? t = some (amount, word) →
      Course.ofName? (String.ofList (word.map upper)) = none →
      Misdirected t word (.course (String.ofList (word.map upper)))
  | side : assignment? t = none → move? t = none → turn? t = some word →
      Side.ofName? (String.ofList (word.map upper)) = none →
      Misdirected t word (.side (String.ofList (word.map upper)))

theorem Misdirected.exists_lookalike (h : Misdirected t word e) :
    ∃ c ∈ lookalikes, c ∈ t ∧ c ∈ word.map upper := by
  have hcourses : ∀ k ∈ courseWords, Course.ofName? k ≠ none := by decide
  have hsides : ∀ k ∈ sideWords, Side.ofName? k ≠ none := by decide
  cases h with
  | course _ hmove hnone =>
      obtain ⟨u, rfl, hone⟩ := move?_eq_some hmove
      obtain ⟨c, hl, hc, hupper⟩ := Script.exists_lookalike hone fun hk => hcourses _ hk hnone
      exact ⟨c, hl, List.mem_append_right u hc, hupper⟩
  | side _ _ hturn hnone =>
      obtain ⟨u, rfl, hone⟩ := turn?_eq_some hturn
      obtain ⟨c, hl, hc, hupper⟩ := Script.exists_lookalike hone fun hk => hsides _ hk hnone
      exact ⟨c, hl, List.mem_append_right u hc, hupper⟩

theorem Course.read_eq_error_iff : Course.read word = .error e ↔
    Course.ofName? (String.ofList (word.map upper)) = none ∧
      e = .course (String.ofList (word.map upper)) := by
  unfold Course.read
  dsimp only
  split
  · rename_i h
    simp [h]
  · rename_i h
    simp [h, eq_comm]

theorem Side.read_eq_error_iff : Side.read word = .error e ↔
    Side.ofName? (String.ofList (word.map upper)) = none ∧
      e = .side (String.ofList (word.map upper)) := by
  unfold Side.read
  dsimp only
  split
  · rename_i h
    simp [h]
  · rename_i h
    simp [h, eq_comm]

theorem readPlain_eq_error_iff : readPlain t = .error e ↔ ∃ word, Misdirected t word e := by
  constructor
  · intro h
    unfold readPlain at h
    split at h
    · cases h
    · rename_i hassign
      split at h
      · rename_i amount word hmove
        obtain ⟨hnone, rfl⟩ := Course.read_eq_error_iff.mp (map_eq_error_iff.mp h)
        exact ⟨word, .course hassign hmove hnone⟩
      · rename_i hmove
        split at h
        · rename_i word hturn
          obtain ⟨hnone, rfl⟩ := Side.read_eq_error_iff.mp (map_eq_error_iff.mp h)
          exact ⟨word, .side hassign hmove hturn hnone⟩
        · split at h
          · cases h
          · split at h
            · cases h
            · split at h <;> cases h
  · rintro ⟨word, h⟩
    cases h with
    | course hassign hmove hnone =>
        simp only [readPlain, hassign, hmove]
        exact map_eq_error_iff.mpr (Course.read_eq_error_iff.mpr ⟨hnone, rfl⟩)
    | side hassign hmove hturn hnone =>
        simp only [readPlain, hassign, hmove, hturn]
        exact map_eq_error_iff.mpr (Side.read_eq_error_iff.mpr ⟨hnone, rfl⟩)

/-! ## Where the letters of a statement come from -/

/-- The characters that cutting a script into statement texts adds. -/
def cutMarks : List Char := ";\nEND".toList

theorem mem_of_mem_parts (hc : c ∉ cutMarks) {l : List Char} (h : c ∈ (parts l).flatten) :
    c ∈ l := by
  obtain ⟨p, hp, hcp⟩ := List.mem_flatten.mp h
  obtain ⟨q, hq, rfl⟩ := List.mem_map.mp hp
  obtain ⟨u, hu, rfl⟩ := List.mem_map.mp (List.mem_filter.mp hq).1
  rcases List.mem_append.mp hcp with hcp | hcp
  · exact (mem_splitOn hu c ((trim_sublist u).subset hcp)).2
  · rw [List.mem_singleton] at hcp
    exact absurd (hcp ▸ by decide) hc

theorem mem_of_mem_blockText (hc : c ∉ cutMarks) {header : List Char} {body : List (List Char)}
    (h : c ∈ blockText header body.reverse) : c ∈ header ∨ c ∈ body.flatten := by
  rcases mem_intercalate h with rfl | ⟨l, hl, hcl⟩
  · exact absurd (by decide) hc
  · rcases List.mem_append.mp hl with hl | hl
    · rcases List.mem_cons.mp hl with rfl | hl
      · exact .inl hcl
      · exact .inr (List.mem_flatten.mpr ⟨l, List.mem_reverse.mp hl, hcl⟩)
    · rw [List.mem_singleton.mp hl] at hcl
      exact absurd (List.mem_append_right [';', '\n'] hcl) hc

mutual
theorem mem_of_mem_cutOutside (hc : c ∉ cutMarks) :
    (ls : List (List Char)) → c ∈ (cutOutside ls).flatten → c ∈ ls.flatten
  | [], h => by rwa [cutOutside] at h
  | l :: ls, h => by
      rw [List.flatten_cons, List.mem_append]
      rw [cutOutside] at h
      split at h
      · simpa using mem_of_mem_cutInside hc l [] ls h
      · rw [List.flatten_append, List.mem_append] at h
        exact h.imp (mem_of_mem_parts hc) (mem_of_mem_cutOutside hc ls)

theorem mem_of_mem_cutInside (hc : c ∉ cutMarks) (header : List Char) (body : List (List Char)) :
    (ls : List (List Char)) → c ∈ (cutInside header body ls).flatten →
      c ∈ header ∨ c ∈ body.flatten ∨ c ∈ ls.flatten
  | [], h => by
      rw [cutInside, List.flatten_singleton] at h
      exact (mem_of_mem_blockText hc h).imp_right .inl
  | l :: ls, h => by
      rw [List.flatten_cons, List.mem_append]
      rw [cutInside] at h
      split at h
      · rw [List.flatten_cons, List.mem_append] at h
        rcases h with h | h
        · exact (mem_of_mem_blockText hc h).imp_right .inl
        · exact .inr (.inr (.inr (mem_of_mem_cutOutside hc ls h)))
      · rcases mem_of_mem_cutInside hc header (l :: body) ls h with h | h | h
        · exact .inl h
        · rw [List.flatten_cons, List.mem_append] at h
          rcases h with h | h
          · exact .inr (.inr (.inl h))
          · exact .inr (.inl h)
        · exact .inr (.inr (.inr h))
end

theorem mem_of_mem_tokensOf (hc : c ∉ cutMarks) {ls : List (List Char)} (ht : t ∈ tokensOf ls)
    (h : c ∈ t) : c ∈ ls.flatten := by
  obtain ⟨l, hl, hcl⟩ := List.mem_flatten.mp
    (mem_of_mem_cutOutside hc _ (List.mem_flatten.mpr ⟨t, ht, h⟩))
  obtain ⟨m, hm, rfl⟩ := List.mem_map.mp (List.mem_filter.mp hl).1
  exact List.mem_flatten.mpr
    ⟨m, hm, (cutComment_sublist m).subset ((trim_sublist _).subset hcl)⟩

theorem mem_of_mem_lines {ls : List (List Char)} (hls : ∀ l ∈ ls, l ∈ lines t)
    (h : c ∈ ls.flatten) : c ∈ t := by
  obtain ⟨l, hl, hcl⟩ := List.mem_flatten.mp h
  exact (mem_splitOn (hls l hl) c hcl).2

theorem elseBranch?_no {test yes : List Char} {a : List Char × List Char × Option (List Char)}
    (h : elseBranch? test yes t = some a) : ∃ u no, a.2.2 = some no ∧ t = u ++ no := by
  obtain ⟨b, t₁, ht, -, -, hrest⟩ := blanks_eq_some h
  obtain ⟨t₂, helse, hrest⟩ := Option.bind_eq_some_iff.mp hrest
  obtain ⟨x, -, ht₁⟩ := afterKeyword?_eq_some helse
  obtain ⟨b', t₃, ht₂, -, -, hrest⟩ := blanks_eq_some hrest
  obtain ⟨no, t₄, ht₃, -, hrest⟩ := longest_eq_some hrest
  cases t₄ with
  | cons => cases hrest
  | nil =>
      cases hrest
      refine ⟨b ++ (x ++ b'), no, rfl, ?_⟩
      simp only [ht, ht₁, ht₂, ht₃, List.append_assoc, List.append_nil]

theorem branch_subset {test yes branch : List Char} {no : Option (List Char)}
    (h : conditional? t = some (test, yes, no)) (hmem : branch ∈ yes :: no.toList) :
    branch ⊆ t := by
  obtain ⟨test', u, v, rfl, hv⟩ := branches?_of_conditional? h
  refine List.Subset.trans ?_ (List.subset_append_right u v)
  rcases List.mem_cons.mp hmem with rfl | hmem
  · obtain ⟨r, rfl⟩ := branches?_yes hv
    exact List.subset_append_left branch r
  · obtain ⟨p, r, rfl, hk, -⟩ := shortest_eq_some hv
    rcases Option.or_eq_some_iff.mp hk with hk | ⟨-, hk⟩
    · obtain ⟨w, no', heq, rfl⟩ := elseBranch?_no hk
      dsimp only at heq
      rw [heq, Option.toList_some, List.mem_singleton] at hmem
      rw [hmem, ← List.append_assoc]
      exact List.subset_append_right (p ++ w) no'
    · cases r with
      | cons => cases hk
      | nil =>
          cases hk
          cases hmem

end TankArena.Script
