import TankArena.Proofs.Script.Shape
import TankArena.Proofs.Text.Spread

/-!
# Conditionals and moves with any gaps

The parts of a conditional and of a move, for a line given as words and gaps. A keyword ends a part
where something follows it. The gaps do not matter but for one: before THEN or a course word, where
the test or the amount is missing, a gap of three blanks is read as one in its place.
-/

namespace TankArena.Script

open Text

variable {w : List Char} {p q : Piece} {ps before after : List Piece}

/-! ## Conditionals -/

theorem accepts_else (test : List Char) :
    Accepts fun yes => longest fun no => atEnd (test, yes, some no) := fun yes t hne hline => by
  have hall := longest_atEnd (f := fun no => (test, yes, some no)) hne hline
  exact Option.isSome_iff_exists.mpr ⟨_, hall⟩

theorem accepts_branches? : Accepts branches? := fun _ _ hne hline =>
  shortest_isSome hne hline rfl

/-- The first branch goes to the first ELSE with something after it, or to the end. -/
theorem branches?_spread (test : List Char) (hw : IsWord w) (ps : List Piece) :
    branches? test (w ++ spread ps) =
      match cutAt "ELSE".toList ps with
      | some (before, q, after) => some (test, w ++ spread before, some (q.word ++ spread after))
      | none => some (test, w ++ spread ps, none) := by
  refine (shortest_keyed (by decide) (by decide) (accepts_else test)
    (fun yes => atEnd (test, yes, none)) (fun _ _ _ => rfl) hw ps).trans ?_
  cases cutAt "ELSE".toList ps with
  | none => rfl
  | some r =>
      obtain ⟨before, q, after⟩ := r
      have hne : q.word ++ spread after ≠ [] := by simp [q.isWord.ne_nil]
      exact longest_atEnd (f := fun no => (test, w ++ spread before, some no)) hne
        (q.isWord.newline_notMem_spread after)

theorem conditional?_of_not_if (hw : IsWord w) (h : isKeyword "IF".toList w = false)
    (ps : List Piece) : conditional? (w ++ spread ps) = none := by
  rw [conditional?_eq, afterKeyword?_bind_blanks (by decide) hw.solid (startsBlank_spread ps), h]
  rfl

theorem conditional?_if (h : isKeyword "IF".toList w = true) (ps : List Piece) :
    conditional? (w ++ spread ps) =
      blanks (shortest (keyed "THEN".toList branches?)) (spread ps) := by
  rw [conditional?_eq, afterKeyword?_append _ h, Option.bind_some]
  rfl

/-- The test goes to the first THEN with something after it. -/
theorem conditional?_of_cutAt (h : isKeyword "IF".toList w = true)
    (hcut : cutAt "THEN".toList ps = some (before, q, after)) :
    conditional? (w ++ spread (p :: ps)) =
      branches? (p.word ++ spread before) (q.word ++ spread after) := by
  have hne : q.word ++ spread after ≠ [] := by simp [q.isWord.ne_nil]
  have htest : shortest (keyed "THEN".toList branches?) (p.word ++ spread ps) =
      branches? (p.word ++ spread before) (q.word ++ spread after) := by
    have hsolid : ∀ c ∈ "THEN".toList, isBlank c = false := by decide
    have := shortest_keyed hsolid (by decide) accepts_branches? (fun _ _ => none)
      (fun _ _ _ => rfl) p.isWord ps
    simpa only [Option.or_none, hcut] using this
  rw [conditional?_if h, spread_cons, blanks_gap_of_isSome p.isGap p.isWord.startsSolid, htest]
  rw [htest]
  exact accepts_branches? _ _ hne (q.isWord.newline_notMem_spread after)

/-- Without such a THEN after the first word, that word has to be THEN and a blank is the test. -/
theorem conditional?_of_not_cutAt (h : isKeyword "IF".toList w = true)
    (hcut : cutAt "THEN".toList ps = none) : ∃ c, isBlank c = true ∧
      conditional? (w ++ spread (p :: ps)) =
        if 3 ≤ p.gap.length then
          (keyedPiece? "THEN".toList (p :: ps)).bind fun r => branches? [c] (r.1.word ++ spread r.2)
        else none := by
  obtain ⟨c, hc, heq⟩ := blanks_shortest_keyed (by decide) (by decide) accepts_branches?
    (p := p) hcut
  refine ⟨c, hc, ?_⟩
  rw [conditional?_if h, heq, keyed_spread (by decide) (by decide) accepts_branches?]

/-! ## Moves -/

theorem isWord_of_isKeyword {k t : List Char} (hk : IsWord k) (h : isKeyword k t = true) :
    IsWord t := by
  rw [isKeyword_iff] at h
  subst h
  refine ⟨fun hnil => hk.ne_nil (by rw [hnil]; rfl), fun c hc => ?_⟩
  exact isBlank_of_capital rfl (hk.solid _ (List.mem_map_of_mem hc))

theorem wordy_isOneOf {ks : List String} (hks : ∀ k ∈ ks, IsWord k.toList) : Wordy (isOneOf ks) := by
  intro t ht
  obtain ⟨k, hk, hkw⟩ := List.any_eq_true.mp ht
  exact isWord_of_isKeyword (hks k hk) hkw

theorem wordy_courseWords : Wordy (isOneOf courseWords) := by
  refine wordy_isOneOf fun k hk => ?_
  simp only [courseWords, List.mem_cons, List.not_mem_nil, or_false] at hk
  rcases hk with rfl | rfl | rfl | rfl <;> exact ⟨by decide, by decide⟩

theorem move?_of_move (h : isKeyword "MOVE".toList w = true) (ps : List Piece) :
    move? (w ++ spread ps) =
      blanks (longest (closing (isOneOf courseWords) Prod.mk)) (spread ps) := by
  rw [move?, afterKeyword?_append _ h, Option.bind_some]
  rfl

theorem move?_of_not_move (hw : IsWord w) (h : isKeyword "MOVE".toList w = false)
    (ps : List Piece) : move? (w ++ spread ps) = none := by
  rw [move?, afterKeyword?_bind_blanks (by decide) hw.solid (startsBlank_spread ps), h]
  rfl

/-- The amount is what stands before the last word. -/
theorem move?_spread (h : isKeyword "MOVE".toList w = true) (p : Piece) (ps : List Piece)
    (q : Piece) :
    move? (w ++ spread (p :: (ps ++ [q]))) =
      if isOneOf courseWords q.word then some (p.word ++ (spread ps ++ q.gap.dropLast), q.word)
      else none := by
  rw [move?_of_move h, blanks_longest_closing_append wordy_courseWords]

/-- With nothing before the last word but a gap, a blank of it is the amount. -/
theorem move?_gap (h : isKeyword "MOVE".toList w = true) (p : Piece) :
    ∃ c, isBlank c = true ∧ move? (w ++ spread [p]) =
      if 3 ≤ p.gap.length ∧ isOneOf courseWords p.word then some ([c], p.word) else none := by
  rw [move?_of_move h]
  exact blanks_longest_closing wordy_courseWords p

end TankArena.Script
