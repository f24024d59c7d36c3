import TankArena.Match.Ranking
import TankArena.Proofs.Match.Iteration
import TankArena.Proofs.Script.Room

/-!
# Rankings

A ranking has every program once, with the standing of a match of its own. The better standing comes
first, and level ones keep the order of the table, so which of two programs comes first depends on
nothing but their own standings unless these are level.
-/

namespace TankArena.Match

open Arena Machine Script

variable {settings : Settings} {programs : Table Program} {program : Program}
variable {ranking : List (String × Standing)} {s t u : Standing} {a b : String × Standing}

/-! ## The order of standings -/

/-- More points; with the same points more damage dealt; then less damage taken; then fewer ticks. -/
def Standing.Ahead (s t : Standing) : Prop :=
  t.points < s.points ∨ s.points = t.points ∧
    (t.damageDealt < s.damageDealt ∨ s.damageDealt = t.damageDealt ∧
      (s.damageTaken < t.damageTaken ∨ s.damageTaken = t.damageTaken ∧ s.ticks < t.ticks))

/-- The four numbers that decide are the same. -/
def Standing.Level (s t : Standing) : Prop :=
  s.points = t.points ∧ s.damageDealt = t.damageDealt ∧ s.damageTaken = t.damageTaken ∧
    s.ticks = t.ticks

instance : DecidableRel Standing.Level := fun _ _ => inferInstanceAs (Decidable (_ ∧ _))

theorem Standing.le_iff : s.le t = true ↔ s.Ahead t ∨ s.Level t := by
  simp only [Standing.le, Standing.key, keyLe, Standing.Ahead, Standing.Level, Bool.or_eq_true,
    Bool.and_eq_true, decide_eq_true_eq, and_true]
  omega

theorem Standing.Ahead.not_le (h : s.Ahead t) : t.le s = false := by
  rw [Bool.eq_false_iff, ne_eq, Standing.le_iff]
  simp only [Standing.Ahead, Standing.Level] at h ⊢
  omega

theorem keyLe_trans {as bs cs : List Int} (h : keyLe as bs = true) (h' : keyLe bs cs = true) :
    keyLe as cs = true := by
  induction as generalizing bs cs with
  | nil => rfl
  | cons a as ih =>
      cases bs with
      | nil => cases h
      | cons b bs =>
          cases cs with
          | nil => cases h'
          | cons c cs =>
              simp only [keyLe, Bool.or_eq_true, Bool.and_eq_true, decide_eq_true_eq] at h h' ⊢
              rcases h with h | ⟨rfl, h⟩
              · exact .inl (by omega)
              · exact h'.imp_right fun ⟨heq, h'⟩ => ⟨heq, ih h h'⟩

theorem keyLe_total (as bs : List Int) : (keyLe as bs || keyLe bs as) = true := by
  induction as generalizing bs with
  | nil => rfl
  | cons a as ih =>
      cases bs with
      | nil => rfl
      | cons b bs =>
          have hrest := ih bs
          simp only [keyLe, Bool.or_eq_true, Bool.and_eq_true, decide_eq_true_eq] at hrest ⊢
          rcases Int.lt_trichotomy a b with hlt | rfl | hlt
          · exact .inl (.inl hlt)
          · exact hrest.imp (fun h => .inr ⟨rfl, h⟩) fun h => .inr ⟨rfl, h⟩
          · exact .inr (.inl hlt)

theorem Standing.Level.le (h : s.Level u) (h' : t.Level u) : s.le t = true := by
  refine Standing.le_iff.mpr (.inr ?_)
  obtain ⟨hpoints, hdealt, htaken, hticks⟩ := h
  obtain ⟨hpoints', hdealt', htaken', hticks'⟩ := h'
  exact ⟨hpoints.trans hpoints'.symm, hdealt.trans hdealt'.symm, htaken.trans htaken'.symm,
    hticks.trans hticks'.symm⟩

/-! ## Standings of matches -/

/-- A match is won, drawn or lost, and that is what the points are for. -/
theorem Standing.tally (r : Result) :
    (Standing.ofResult r).wins + (Standing.ofResult r).draws + (Standing.ofResult r).losses = 1 ∧
    (Standing.ofResult r).points =
      3 * (Standing.ofResult r).wins + (Standing.ofResult r).draws := by
  rcases hw : r.winner with _ | winner
  · simp [Standing.ofResult, Result.isDraw, Result.points, hw]
  · cases winner <;> simp [Standing.ofResult, Result.isDraw, Result.points, hw]

/-- The standing is that of the match, whether or not its history is kept. -/
theorem standing_eq_ok_iff : standing settings program = .ok s ↔
    ∃ r, runFrom settings false program .initial = .ok r ∧ s = .ofResult r := by
  unfold standing
  cases runFrom settings false program .initial with
  | error e => simp [Except.map]
  | ok r => simp [Except.map, eq_comm]

theorem exists_runFrom_of_standing (h : standing settings program = .ok s) (keep : Bool) :
    ∃ r, runFrom settings keep program .initial = .ok r ∧ s = .ofResult r := by
  obtain ⟨r, hr, rfl⟩ := standing_eq_ok_iff.mp h
  unfold runFrom at hr ⊢
  dsimp only at hr ⊢
  split at hr
  · cases hr
  · cases hr
    exact ⟨_, rfl, rfl⟩

theorem exists_standing_iff : (∃ s, standing settings program = .ok s) ↔
    ∃ r, runFrom settings false program .initial = .ok r := by
  simp only [standing_eq_ok_iff]
  exact ⟨fun ⟨_, r, hr, _⟩ => ⟨r, hr⟩, fun ⟨r, hr⟩ => ⟨_, r, hr, rfl⟩⟩

/-! ## Sorted and stable -/

/-- The programs of a table with their standings, in the order of the table. -/
def Entered (settings : Settings) (programs : List (String × Program))
    (entries : List (String × Standing)) : Prop :=
  List.Forall₂ (fun e d => entry settings e = .ok d) programs entries

/-- The entries of a ranking, the better first. -/
def ranked (entries : List (String × Standing)) : List (String × Standing) :=
  entries.mergeSort fun a b => a.2.le b.2

theorem mapM_eq_ok_iff_forall₂ {α β ε : Type} {f : α → Except ε β} {l : List α} {r : List β} :
    l.mapM f = .ok r ↔ List.Forall₂ (fun a b => f a = .ok b) l r := by
  induction l generalizing r with
  | nil => simp [pure, Except.pure, eq_comm]
  | cons a l ih => rw [mapM_cons_eq_ok_iff]; simp only [ih, List.forall₂_cons_left_iff]

theorem entry_eq_ok_iff {e : String × Program} {d : String × Standing} :
    entry settings e = .ok d ↔ d.1 = e.1 ∧ standing settings e.2 = .ok d.2 := by
  unfold entry
  cases standing settings e.2 with
  | error fault => simp [Except.map]
  | ok s => simp [Except.map, Prod.ext_iff, eq_comm]

theorem entry_eq_error_iff {e : String × Program} {fault : Fault} :
    entry settings e = .error fault ↔ runFrom settings false e.2 .initial = .error fault :=
  map_eq_error_iff.trans map_eq_error_iff

variable {entries : List (String × Standing)} {table : List (String × Program)}

theorem Entered.names (h : Entered settings table entries) :
    entries.map Prod.fst = table.map Prod.fst := by
  induction h with
  | nil => rfl
  | cons hd _ ih => rw [List.map_cons, List.map_cons, ih, (entry_eq_ok_iff.mp hd).1]

theorem Entered.exists_of_mem (h : Entered settings table entries) (ha : a ∈ entries) :
    ∃ p, (a.1, p) ∈ table ∧ standing settings p = .ok a.2 := by
  obtain ⟨e, he, hd⟩ := exists_of_mem_mapM (mapM_eq_ok_iff_forall₂.mpr h) ha
  obtain ⟨hname, hstanding⟩ := entry_eq_ok_iff.mp hd
  exact ⟨e.2, hname ▸ he, hstanding⟩

/-- The programs that have a standing level with this one are the entries that are level with it. -/
theorem Entered.filter_names (h : Entered settings table entries) (s : Standing) :
    (entries.filter (·.2.Level s)).map Prod.fst =
      (table.filter fun e => (standing settings e.2).toOption.any (·.Level s)).map Prod.fst := by
  induction h with
  | nil => rfl
  | @cons e d _ _ hd _ ih =>
      obtain ⟨hname, hstanding⟩ := entry_eq_ok_iff.mp hd
      rw [List.filter_cons, List.filter_cons, hstanding, Except.toOption, Option.any_some]
      split
      · rw [List.map_cons, List.map_cons, ih, hname]
      · exact ih

/-- All the programs have a standing, or one of them comes to a fault. -/
theorem entered_cases (settings : Settings) (table : List (String × Program)) :
    (∃ fault, table.mapM (entry settings) = .error fault ∧
      ∃ e ∈ table, runFrom settings false e.2 .initial = .error fault) ∨
    ∃ entries, Entered settings table entries ∧
      ∀ e ∈ table, ∃ r, runFrom settings false e.2 .initial = .ok r := by
  rcases mapM_cases (entry settings) table with ⟨fault, hl, e, he, hfault⟩ | ⟨entries, hl, hall⟩
  · exact .inl ⟨fault, hl, e, he, entry_eq_error_iff.mp hfault⟩
  · refine .inr ⟨entries, mapM_eq_ok_iff_forall₂.mp hl, fun e he => ?_⟩
    obtain ⟨d, hd⟩ := hall e he
    exact exists_standing_iff.mp ⟨d.2, (entry_eq_ok_iff.mp hd).2⟩

theorem rank_eq_ok_iff (hne : programs.entries ≠ []) : rank settings programs = .ok ranking ↔
    ∃ entries, Entered settings programs.entries entries ∧ ranking = ranked entries := by
  unfold Entered
  simp only [← mapM_eq_ok_iff_forall₂]
  rw [rank, if_neg (by simpa using hne)]
  cases programs.entries.mapM (entry settings) with
  | error fault => simp
  | ok entries => simp [ranked, eq_comm]

theorem ranked_perm (entries : List (String × Standing)) : (ranked entries).Perm entries :=
  List.mergeSort_perm _ _

theorem ranked_pairwise (entries : List (String × Standing)) :
    (ranked entries).Pairwise fun a b => a.2.le b.2 = true := by
  refine List.pairwise_mergeSort ?_ ?_ _
  · exact fun _ _ _ => keyLe_trans
  · exact fun _ _ => keyLe_total _ _

/-- The level ones among the entries are in order as they are, so sorting keeps them in it. -/
theorem filter_ranked (entries : List (String × Standing)) (s : Standing) :
    (ranked entries).filter (·.2.Level s) = entries.filter (·.2.Level s) := by
  have hlevel : (entries.filter (·.2.Level s)).Pairwise fun a b => a.2.le b.2 = true := by
    refine List.pairwise_of_forall_mem_list fun a ha b hb => ?_
    have ha := (List.mem_filter.mp ha).2
    have hb := (List.mem_filter.mp hb).2
    exact (of_decide_eq_true ha).le (of_decide_eq_true hb)
  have hsub : (entries.filter (·.2.Level s)).Sublist (ranked entries) := by
    refine List.sublist_mergeSort ?_ ?_ hlevel List.filter_sublist
    · exact fun _ _ _ => keyLe_trans
    · exact fun _ _ => keyLe_total _ _
  have hsub := hsub.filter (·.2.Level s)
  simp only [List.filter_filter, Bool.and_self] at hsub
  refine (hsub.eq_of_length ?_).symm
  exact ((ranked_perm entries).filter _).length_eq.symm

/-- A ranking of the programs of a table. -/
structure Ranks (settings : Settings) (programs : Table Program)
    (ranking : List (String × Standing)) : Prop where
  /-- Every name is there once: the names of a table are distinct. -/
  names : (ranking.map Prod.fst).Perm programs.keys
  /-- A program has the standing of a match that it plays alone. -/
  alone : ∀ e ∈ ranking, ∃ p, programs.get? e.1 = some p ∧
    ∀ keep, ∃ r, runFrom settings keep p .initial = .ok r ∧ e.2 = .ofResult r
  tally : ∀ e ∈ ranking, e.2.wins + e.2.draws + e.2.losses = 1 ∧
    e.2.points = 3 * e.2.wins + e.2.draws
  sorted : ranking.Pairwise fun a b => a.2.Ahead b.2 ∨ a.2.Level b.2
  /-- Of the programs that are level with a standing, the table has the order. -/
  stable : ∀ s : Standing, (ranking.filter (·.2.Level s)).map Prod.fst =
    (programs.entries.filter fun e => (standing settings e.2).toOption.any (·.Level s)).map Prod.fst

theorem Entered.ranks (h : Entered settings programs.entries entries) :
    Ranks settings programs (ranked entries) := by
  have hmem {e : String × Standing} (he : e ∈ ranked entries) :=
    h.exists_of_mem ((ranked_perm entries).mem_iff.mp he)
  refine ⟨?_, fun e he => ?_, fun e he => ?_, ?_, fun s => ?_⟩
  · have hnames := (ranked_perm entries).map Prod.fst
    rwa [h.names] at hnames
  · obtain ⟨p, hp, hs⟩ := hmem he
    exact ⟨p, Table.get?_of_mem hp, exists_runFrom_of_standing hs⟩
  · obtain ⟨p, -, hs⟩ := hmem he
    obtain ⟨r, -, hr⟩ := standing_eq_ok_iff.mp hs
    rw [hr]
    exact Standing.tally r
  · exact (ranked_pairwise entries).imp Standing.le_iff.mp
  · rw [filter_ranked, h.filter_names]

/-! ## Which of two programs comes first -/

end TankArena.Match
