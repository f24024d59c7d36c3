import Mathlib.Data.Nat.Find
import TankArena.Proofs.Script.Gaps

/-!
# Conditionals are cut at the first THEN and the first ELSE

The search for the parts of a conditional tries its choices in a fixed order. What it finds is the cut
of the text at the first keyword that stands between blanks: the test ends before the first THEN, and
the first branch before the first ELSE. All that follows belongs to the second branch, with any later
ELSE in it.
-/

namespace TankArena.Text

open Script

variable {α : Type} {kw t part rest p r : List Char} {h : (part rest : List Char) → Option α}

/-! ## Cuts -/

/-- A text cut at a keyword between blanks into the part before and the rest after it. -/
structure IsCut (kw t part rest : List Char) : Prop where
  exists_eq : ∃ g x j, t = part ++ (g ++ (x ++ (j ++ rest))) ∧
    IsGap g ∧ isKeyword kw x = true ∧ IsGap j
  part_ne_nil : part ≠ []
  rest_ne_nil : rest ≠ []

/-- The cut with the shortest part, in which all blanks around the keyword are left out. -/
structure IsFirstCut (kw t part rest : List Char) : Prop extends IsCut kw t part rest where
  back : StartsSolid part.reverse
  front : StartsSolid rest
  least : ∀ p r, IsCut kw t p r → part.length ≤ p.length

theorem IsTidy.of_append {a b : List Char} (hab : IsTidy (a ++ b)) (hne : b ≠ [])
    (hb : StartsSolid b) : IsTidy b := by
  have hrev : b.reverse ≠ [] := fun hnil => hne (List.reverse_eq_nil_iff.mp hnil)
  obtain ⟨c, u, hc⟩ := List.exists_cons_of_ne_nil hrev
  refine ⟨hne, hb, ?_⟩
  have hback := hab.back c (u ++ a.reverse) (by rw [List.reverse_append, hc, List.cons_append])
  rw [hc]
  exact startsSolid_cons.mpr hback

/-- The blanks around the keyword can be left out of any cut. -/
theorem IsCut.tighten (hcut : IsCut kw t part rest) (ht : IsTidy t) (hline : '\n' ∉ t) :
    IsCut kw t (trimEnd part) (trimStart rest) ∧ IsTidy (trimEnd part) ∧ IsTidy (trimStart rest) := by
  obtain ⟨⟨g, x, j, rfl, hg, hx, hj⟩, hpart, hrest⟩ := hcut
  have hfirst := isTidy_trimEnd_of_gap hg ht
  have hsecond : IsTidy (trimStart rest) := by
    refine isTidy_trimStart_of_gap (p := part ++ (g ++ x)) hj ?_
    simpa only [List.append_assoc] using ht
  obtain ⟨b, hb, hblank⟩ := exists_trimEnd_eq part
  obtain ⟨b', hb', hblank'⟩ := exists_trimStart_eq rest
  simp only [List.mem_append, not_or] at hline
  have hnb : '\n' ∉ b := fun hm => hline.1 (by rw [hb]; simp [hm])
  have hnb' : '\n' ∉ b' := fun hm => hline.2.2.2.2 (by rw [hb']; simp [hm])
  have hleft := hg.append (c := []) hblank (by simp) hnb (by simp)
  have hright := hj.append (a := []) (by simp) hblank' (by simp) hnb'
  refine ⟨⟨⟨b ++ (g ++ []), x, [] ++ (j ++ b'), ?_, hleft, hx, hright⟩, hfirst.ne_nil,
    hsecond.ne_nil⟩, hfirst, hsecond⟩
  conv_lhs => rw [hb, hb']
  simp only [List.append_assoc, List.append_nil, List.nil_append]

theorem IsCut.exists_isFirstCut (hcut : IsCut kw t part rest) (ht : IsTidy t) (hline : '\n' ∉ t) :
    ∃ p r, IsFirstCut kw t p r := by
  classical
  have hex : ∃ n p r, IsCut kw t p r ∧ p.length = n := ⟨_, part, rest, hcut, rfl⟩
  obtain ⟨p, r, hpr, hlen⟩ := Nat.find_spec hex
  obtain ⟨htight, hp, hr⟩ := hpr.tighten ht hline
  refine ⟨trimEnd p, trimStart r, htight, hp.back, hr.front, fun p' r' hpr' => ?_⟩
  have hleast : p.length ≤ p'.length := hlen ▸ Nat.find_min' hex ⟨p', r', hpr', rfl⟩
  exact Nat.le_trans (trimEnd_sublist p).length_le hleast

/-! ## Searches for a keyword -/

theorem keyed_of_eq (hkw : IsWord kw) (hh : Accepts h) {g x j : List Char} (hg : IsGap g)
    (hx : isKeyword kw x = true) (hj : IsGap j) (hne : rest ≠ []) (hfront : StartsSolid rest)
    (hline : '\n' ∉ rest) : keyed kw h part (g ++ (x ++ (j ++ rest))) = h part rest := by
  rw [keyed_gap_append hkw.solid hkw.ne_nil part hg (isWord_of_isKeyword hkw hx).startsSolid,
    afterKeyword?_append _ hx, Option.bind_some,
    blanks_gap_of_isSome hj hfront (hh part rest hne hline)]

theorem exists_isCut_of_keyed (hnil : ∀ p, h p [] = none) (hne : p ≠ []) (hline : '\n' ∉ r) {a : α}
    (hk : keyed kw h p r = some a) : ∃ v, IsCut kw (p ++ r) p v := by
  obtain ⟨g, u, rfl, hgne, hg, hu⟩ := blanks_eq_some hk
  obtain ⟨u', hkey, hrest⟩ := Option.bind_eq_some_iff.mp hu
  obtain ⟨x, hx, rfl⟩ := afterKeyword?_eq_some hkey
  obtain ⟨j, v, rfl, hjne, hj, hv⟩ := blanks_eq_some hrest
  simp only [List.mem_append, not_or] at hline
  refine ⟨v, ⟨g, x, j, rfl, ⟨hgne, hg, hline.1⟩, hx, ⟨hjne, hj, hline.2.2.1⟩⟩, hne, ?_⟩
  rintro rfl
  rw [hnil] at hv
  cases hv

variable {f : List Char → List Char → Option α}

/-- What is accepted with something after it cuts the text. -/
theorem keyed_or_eq_none (hnil : ∀ p, h p [] = none) (hend : ∀ p c r, f p (c :: r) = none)
    (hp : p ≠ []) (hr : r ≠ []) (hline : '\n' ∉ r) (hcut : ∀ v, ¬ IsCut kw (p ++ r) p v) :
    (keyed kw h p r).or (f p r) = none := by
  have hkeyed : keyed kw h p r = none := by
    cases hk : keyed kw h p r with
    | none => rfl
    | some a =>
        obtain ⟨v, hv⟩ := exists_isCut_of_keyed hnil hp hline hk
        exact absurd hv (hcut v)
  obtain ⟨c, r, rfl⟩ := List.exists_cons_of_ne_nil hr
  rw [hkeyed, Option.none_or, hend]

/-- The search takes the first cut, since it refuses every shorter part. -/
theorem shortest_of_isFirstCut (hkw : IsWord kw) (hh : Accepts h) (hnil : ∀ p, h p [] = none)
    (hend : ∀ p c r, f p (c :: r) = none) (hline : '\n' ∉ t) (hcut : IsFirstCut kw t part rest) :
    shortest (fun p r => (keyed kw h p r).or (f p r)) t = h part rest := by
  obtain ⟨⟨⟨g, x, j, rfl, hg, hx, hj⟩, hpart, hrest⟩, -, hfront, hleast⟩ := hcut
  have hlines := hline
  simp only [List.mem_append, not_or] at hlines
  obtain ⟨hnpart, -, -, -, hnrest⟩ := hlines
  have hsome := hh part rest hrest hnrest
  rw [shortest_append_of_none hpart hnpart, keyed_of_eq hkw hh hg hx hj hrest hfront hnrest,
    Option.or_of_isSome hsome, Option.or_of_isSome hsome]
  rintro p d rfl hp hd
  refine keyed_or_eq_none hnil hend hp (by simp [hd]) (fun hm => hline ?_) fun v hv => ?_
  · rw [List.append_assoc]
    exact List.mem_append_right p hm
  · have hle := hleast p v (by rwa [List.append_assoc])
    have hpos := List.length_pos_iff.mpr hd
    rw [List.length_append] at hle
    omega

theorem shortest_of_not_isCut (hnil : ∀ p, h p [] = none) (hend : ∀ p c r, f p (c :: r) = none)
    (hne : t ≠ []) (hline : '\n' ∉ t) (hcut : ∀ p r, ¬ IsCut kw t p r) :
    shortest (fun p r => (keyed kw h p r).or (f p r)) t = f t [] := by
  have hstop := shortest_append_of_none (k := fun p r => (keyed kw h p r).or (f p r)) (p := t)
    (r := []) hne hline
  rw [List.append_nil] at hstop
  rw [hstop]
  · exact Option.or_none
  · rintro p d rfl hp hd
    rw [List.append_nil]
    exact keyed_or_eq_none hnil hend hp hd (fun hm => hline (List.mem_append_right p hm)) (hcut p)

end TankArena.Text

namespace TankArena.Script

open Text

variable {t test rest : List Char}

/-- A conditional cut after its test: IF, a gap, the test, THEN between gaps and the rest. Neither the
test nor the rest has a blank where it is cut off. -/
def CutsTest (t test rest : List Char) : Prop :=
  ∃ i g u, t = i ++ (g ++ u) ∧ isKeyword "IF".toList i = true ∧ IsGap g ∧
    IsCut "THEN".toList u test rest ∧ IsTidy test ∧ StartsSolid rest

/-- The rest is cut at the first ELSE, or all of it is the first branch. -/
theorem branches?_cut (htidy : IsTidy rest) (hline : '\n' ∉ rest) (test : List Char) :
    (∃ yes no, IsFirstCut "ELSE".toList rest yes no ∧ branches? test rest = some (test, yes, some no)) ∨
    (∀ yes no, ¬ IsCut "ELSE".toList rest yes no) ∧ branches? test rest = some (test, rest, none) := by
  have hnil : ∀ yes : List Char, longest (fun no => atEnd (test, yes, some no)) [] = none :=
    fun _ => rfl
  have hend : ∀ (yes : List Char) c r,
      atEnd (test, yes, (none : Option (List Char))) (c :: r) = none := fun _ _ _ => rfl
  by_cases hcut : ∃ yes no, IsCut "ELSE".toList rest yes no
  · obtain ⟨p, r, hpr⟩ := hcut
    obtain ⟨yes, no, hfirst⟩ := hpr.exists_isFirstCut htidy hline
    have hno : '\n' ∉ no := by
      obtain ⟨g, x, j, rfl, -⟩ := hfirst.exists_eq
      simp only [List.mem_append, not_or] at hline
      exact hline.2.2.2.2
    refine .inl ⟨yes, no, hfirst, ?_⟩
    refine (shortest_of_isFirstCut ⟨by decide, by decide⟩ (accepts_else test) hnil hend hline
      hfirst).trans ?_
    exact longest_atEnd (f := fun no => (test, yes, some no)) hfirst.rest_ne_nil hno
  · simp only [not_exists] at hcut
    exact .inr ⟨hcut, shortest_of_not_isCut (h := fun yes => longest fun no => atEnd (test, yes, some no))
      hnil hend htidy.ne_nil hline hcut⟩

/-- The shortest test is the part before the first THEN: a shorter part, without the blanks at its
end, would be a shorter test. -/
theorem CutsTest.exists_isFirstCut (hcut : CutsTest t test rest) (htidy : IsTidy t)
    (hline : '\n' ∉ t)
    (hleast : ∀ test' rest', CutsTest t test' rest' → test.length ≤ test'.length) :
    ∃ i g u, t = i ++ (g ++ u) ∧ isKeyword "IF".toList i = true ∧ IsGap g ∧ IsTidy u ∧
      IsFirstCut "THEN".toList u test rest := by
  obtain ⟨i, g, u, rfl, hi, hg, hu, htest, hrest⟩ := hcut
  have hfront : StartsSolid u := by
    obtain ⟨g', x, j, rfl, -⟩ := hu.exists_eq
    exact htest.startsSolid
  have hne : u ≠ [] := by
    obtain ⟨g', x, j, rfl, -⟩ := hu.exists_eq
    simp [htest.ne_nil]
  have hutidy : IsTidy u := by
    rw [← List.append_assoc] at htidy
    exact htidy.of_append hne hfront
  refine ⟨i, g, u, rfl, hi, hg, hutidy, hu, htest.back, hrest, fun p r hpr => ?_⟩
  obtain ⟨htight, hp, hr⟩ := hpr.tighten hutidy (by simp_all)
  have hle := hleast _ _ ⟨i, g, u, rfl, hi, hg, htight, hp, hr.front⟩
  exact Nat.le_trans hle (trimEnd_sublist p).length_le

theorem conditional?_of_isFirstCut {i g u : List Char} (hi : isKeyword "IF".toList i = true)
    (hg : IsGap g) (hu : IsTidy u) (hline : '\n' ∉ u)
    (hcut : IsFirstCut "THEN".toList u test rest) (hrest : '\n' ∉ rest) :
    conditional? (i ++ (g ++ u)) = branches? test rest := by
  have hsearch : shortest (keyed "THEN".toList branches?) u = branches? test rest := by
    have := shortest_of_isFirstCut (f := fun _ _ => none) ⟨by decide, by decide⟩
      accepts_branches? (fun _ => rfl) (fun _ _ _ => rfl) hline hcut
    simpa only [Option.or_none] using this
  rw [conditional?_eq, afterKeyword?_append _ hi, Option.bind_some]
  refine (blanks_gap_of_isSome hg hu.front ?_).trans hsearch
  exact hsearch ▸ accepts_branches? test rest hcut.rest_ne_nil hrest

/-- A conditional ends its test at the first THEN, and its first branch at the first ELSE, with all that
follows in the second branch. Without such an ELSE all is the first branch. -/
theorem conditional_cut_at_first_words (htrim : trim t = t) (hline : '\n' ∉ t)
    (hcut : CutsTest t test rest)
    (hleast : ∀ test' rest', CutsTest t test' rest' → test.length ≤ test'.length) :
    (∃ yes no, IsFirstCut "ELSE".toList rest yes no ∧
      conditional? t = some (test, yes, some no)) ∨
    (∀ yes no, ¬ IsCut "ELSE".toList rest yes no) ∧ conditional? t = some (test, rest, none) := by
  have htidy : IsTidy t := by
    rw [← htrim]
    refine isTidy_trim ?_
    rw [htrim]
    obtain ⟨i, g, u, rfl, -, hg, -⟩ := hcut
    simp [hg.ne_nil]
  obtain ⟨i, g, u, rfl, hi, hg, hu, hfirst⟩ := hcut.exists_isFirstCut htidy hline hleast
  have hlineu : '\n' ∉ u := by
    simp only [List.mem_append, not_or] at hline
    exact hline.2.2
  obtain ⟨g', x, j, heq, -⟩ := hfirst.exists_eq
  have hrest : '\n' ∉ rest := fun hm => hlineu (by simp [heq, hm])
  have hresttidy : IsTidy rest := by
    refine IsTidy.of_append (a := test ++ (g' ++ (x ++ j))) ?_ hfirst.rest_ne_nil hfirst.front
    simpa only [heq, List.append_assoc] using hu
  rw [conditional?_of_isFirstCut hi hg hu hlineu hfirst hrest]
  exact branches?_cut hresttidy hrest test

/-- The keywords stand in any case, and a second THEN and a second ELSE belong to the branches. -/
theorem conditional_cut_at_first_words_repeated :
    let t := "if  a then THEN c else ELSE d".toList
    let rest := "THEN c else ELSE d".toList
    CutsTest t ['a'] rest ∧ ∃ yes no, IsFirstCut "ELSE".toList rest yes no ∧
      conditional? t = some (['a'], yes, some no) := by
  intro t rest
  have hgap : IsGap [' '] := ⟨by decide, by decide, by decide⟩
  have hcut : CutsTest t ['a'] rest :=
    ⟨"if".toList, [' ', ' '], "a then THEN c else ELSE d".toList, rfl, by decide, by decide,
      ⟨⟨[' '], "then".toList, [' '], rfl, hgap, by decide, hgap⟩, by decide, by decide⟩,
      IsWord.isTidy ⟨by decide, by decide⟩, startsSolid_cons.mpr (by decide)⟩
  refine ⟨hcut, ?_⟩
  rcases conditional_cut_at_first_words (by decide) (by decide) hcut
    (fun test' rest' ⟨_, _, _, _, _, _, _, htest, _⟩ => List.length_pos_iff.mpr htest.ne_nil) with
    h | ⟨-, h⟩
  · exact h
  · exact absurd h (by decide)

end TankArena.Script
