import TankArena.Console.HealthPath
import TankArena.Proofs.Text.Path

/-!
# The place of the health chart

The health chart is saved in the directory of the board, under a name that no text takes for the name
of the board. Boards whose names have a suffix never share a health chart.
-/

namespace TankArena.Console

open Text

variable {name name' : List Char} {s t r : String}

/-! ## Names of health charts -/

/-- What the suffix of the health chart is for the suffix of the board. -/
def chartSuffix (suffix : List Char) : List Char := if suffix = [] then ".png".toList else suffix

theorem healthName_eq (name : List Char) :
    healthName name = stem name ++ "_health".toList ++ chartSuffix (suffix name) := rfl

theorem isSplit_healthName (name : List Char) :
    IsSplit (healthName name) (stem name ++ "_health".toList) (chartSuffix (suffix name)) := by
  have hne (s : List Char) : s ++ "_health".toList ≠ [] := by simp
  have hsplit : IsSplit name (stem name) (suffix name) := isSplit_iff.mpr ⟨rfl, rfl⟩
  rw [healthName_eq]
  generalize stem name = s, suffix name = x at hsplit
  cases hsplit with
  | dotted _ _ he hdot => exact .dotted rfl (hne s) he hdot
  | plain => exact .dotted rfl (hne name) (by decide) (by decide)

/-- The suffix is kept, and the stem is found before the addition to it. -/
theorem healthName_inj (h : suffix name ≠ []) (h' : suffix name' ≠ [])
    (heq : healthName name = healthName name') : name = name' := by
  obtain ⟨hstem, hsuffix⟩ := isSplit_iff.mp (isSplit_healthName name)
  obtain ⟨hstem', hsuffix'⟩ := isSplit_iff.mp (isSplit_healthName name')
  rw [heq, ← hstem'] at hstem
  rw [heq, ← hsuffix', chartSuffix, chartSuffix, if_neg h, if_neg h'] at hsuffix
  rw [← stem_append_suffix name, ← stem_append_suffix name', List.append_cancel_right hstem, hsuffix]

theorem length_lt_healthName (name : List Char) : name.length + 4 < (healthName name).length := by
  have hname := congrArg List.length (stem_append_suffix name)
  rw [List.length_append] at hname
  have hsuffix : (suffix name).length ≤ (chartSuffix (suffix name)).length := by
    unfold chartSuffix
    split <;> simp_all
  have hadded : "_health".toList.length = 7 := rfl
  rw [healthName_eq, List.length_append, List.length_append]
  omega

theorem slash_notMem_healthName (h : '/' ∉ name) : '/' ∉ healthName name := by
  rw [← stem_append_suffix name, List.mem_append, not_or] at h
  have hsuffix : '/' ∉ chartSuffix (suffix name) := by
    unfold chartSuffix
    split
    · decide
    · exact h.2
  rw [healthName_eq, List.mem_append, List.mem_append, not_or, not_or]
  exact ⟨⟨h.1, by decide⟩, hsuffix⟩

/-! ## Paths of health charts -/

/-- The health chart is in the directory of the board, under the name of the board with an addition
to its stem. A name without a suffix gets one. -/
def IsBeside (board chart : Path) : Prop :=
  chart.parent = board.parent ∧ ∃ name s x, board.name? = some name ∧ IsSplit name s x ∧
    chart.name? = some (s ++ "_health".toList ++ if x = [] then ".png".toList else x)

/-- The last name of the path has a suffix. -/
def HasSuffix (p : Path) : Prop := ∃ name s x, p.name? = some name ∧ IsSplit name s x ∧ x ≠ []

theorem healthPath_eq_error_iff {e : NoName} : healthPath s = .error e ↔
    (Path.parse s).name? = none ∧ e = ⟨(Path.parse s).text⟩ := by
  unfold healthPath
  cases h : (Path.parse s).name? <;> simp [h, eq_comm]

theorem healthPath_eq_ok_iff : healthPath s = .ok r ↔ ∃ name, (Path.parse s).name? = some name ∧
    r = ((Path.parse s).sibling (healthName name)).text := by
  unfold healthPath
  cases h : (Path.parse s).name? <;> simp [h, eq_comm]

theorem isNormal_sibling_healthName (h : (Path.parse s).name? = some name) :
    ((Path.parse s).sibling (healthName name)).IsNormal := by
  have hnormal := Path.isNormal_ofChars s.toList
  obtain ⟨-, -, hslash⟩ := hnormal.parts name (List.mem_of_getLast? h)
  have hlong := length_lt_healthName name
  refine hnormal.sibling ?_ ?_ (slash_notMem_healthName hslash)
  · intro hnil
    simp [hnil] at hlong
  · intro hdot
    simp [hdot] at hlong

/-- The path that was written is read back. -/
theorem parse_of_healthPath (h : healthPath s = .ok r) : ∃ name,
    (Path.parse s).name? = some name ∧
      Path.parse r = (Path.parse s).sibling (healthName name) := by
  obtain ⟨name, hname, rfl⟩ := healthPath_eq_ok_iff.mp h
  exact ⟨name, hname, (isNormal_sibling_healthName hname).parse_text⟩

theorem isBeside_sibling {p : Path} (h : p.name? = some name) :
    IsBeside p (p.sibling (healthName name)) := by
  refine ⟨?_, name, stem name, suffix name, h, isSplit_iff.mpr ⟨rfl, rfl⟩, ?_⟩
  · simp [Path.parent, Path.sibling]
  · exact List.getLast?_concat

theorem HasSuffix.suffix_ne_nil {p : Path} (h : HasSuffix p) (hname : p.name? = some name) :
    suffix name ≠ [] := by
  obtain ⟨name', s, x, hname', hsplit, hx⟩ := h
  cases hname.symm.trans hname'
  rwa [← (isSplit_iff.mp hsplit).2]

/-- The path of the health chart is no path whose last name is a little longer than the board's, and
none that has one name more. -/
theorem sibling_healthName_ne {p q : Path} (hname : p.name? = some name)
    (hparts : (∃ ps u e, p.parts = ps ++ [u] ∧ q.parts = ps ++ [u ++ e] ∧ e.length ≤ 4) ∨
      ∃ u, q.parts = p.parts ++ [u]) : p.sibling (healthName name) ≠ q := by
  obtain ⟨us, hus⟩ := List.getLast?_eq_some_iff.mp hname
  have hlong := length_lt_healthName name
  intro heq
  have hchart : us ++ [healthName name] = q.parts := by
    rw [← heq, Path.sibling, hus, List.dropLast_concat]
  rcases hparts with ⟨ps, u, e, hp, hq, he⟩ | ⟨u, hq⟩
  · rw [hus] at hp
    obtain ⟨rfl, hu⟩ := List.append_inj' hp rfl
    obtain rfl := List.singleton_inj.mp hu
    rw [hq, List.append_cancel_left_eq, List.singleton_inj] at hchart
    rw [hchart, List.length_append] at hlong
    omega
  · have := congrArg List.length hchart
    simp [hq, hus] at this

theorem sibling_healthName_inj {p q : Path} {name' : List Char} (hp : p.name? = some name)
    (hq : q.name? = some name') (h : suffix name ≠ []) (h' : suffix name' ≠ [])
    (heq : p.sibling (healthName name) = q.sibling (healthName name')) : p = q := by
  obtain ⟨us, hus⟩ := List.getLast?_eq_some_iff.mp hp
  obtain ⟨vs, hvs⟩ := List.getLast?_eq_some_iff.mp hq
  obtain ⟨root, parts⟩ := p
  obtain ⟨root', parts'⟩ := q
  obtain rfl : parts = us ++ [name] := hus
  obtain rfl : parts' = vs ++ [name'] := hvs
  simp only [Path.sibling, List.dropLast_concat, Text.Path.mk.injEq] at heq
  obtain ⟨rfl, hparts⟩ := heq
  obtain ⟨rfl, hnames⟩ := List.append_inj' hparts rfl
  rw [healthName_inj h h' (List.singleton_inj.mp hnames)]

/-- The health chart lies beside its board and is never the board itself, with or without the suffix
that a picture gets. Boards whose names have a suffix never share a health chart. Only a path without
a name has none. -/
theorem healthPath_beside_board (s : String) :
    (∀ e, healthPath s = .error e ↔ (Path.parse s).name? = none ∧ e = ⟨(Path.parse s).text⟩) ∧
    ∀ r, healthPath s = .ok r →
      IsBeside (.parse s) (.parse r) ∧
      Path.parse r ≠ .parse s ∧ Path.parse r ≠ .parse (s ++ ".png") ∧
      (HasSuffix (.parse s) → ∀ t, HasSuffix (.parse t) → healthPath t = .ok r →
        Path.parse s = Path.parse t) := by
  refine ⟨fun e => healthPath_eq_error_iff, fun r hr => ?_⟩
  obtain ⟨name, hname, hparse⟩ := parse_of_healthPath hr
  rw [hparse]
  refine ⟨isBeside_sibling hname, sibling_healthName_ne hname (.inl ?_),
    sibling_healthName_ne hname ?_, fun hs t ht hrt => ?_⟩
  · obtain ⟨us, hus⟩ := List.getLast?_eq_some_iff.mp hname
    exact ⟨us, name, [], hus, by rw [List.append_nil, hus], by simp⟩
  · rcases Path.parts_parse_append s (x := ".png") (by decide) (by decide) with ⟨ps, q, h, h'⟩ | h
    · exact .inl ⟨ps, q, _, h, h', by decide⟩
    · exact .inr h
  · obtain ⟨name', hname', hparse'⟩ := parse_of_healthPath hrt
    exact sibling_healthName_inj hname hname' (hs.suffix_ne_nil hname) (ht.suffix_ne_nil hname')
      (hparse.symm.trans hparse')

/-- Of a name with several dots the last one is kept before the suffix. -/
theorem healthPath_beside_board_dotted :
    healthPath "./runs//duel.v2.png" = .ok "runs/duel.v2_health.png" ∧
      IsBeside (.parse "./runs//duel.v2.png") (.parse "runs/duel.v2_health.png") := by
  have h : healthPath "./runs//duel.v2.png" = .ok "runs/duel.v2_health.png" := by decide
  exact ⟨h, ((healthPath_beside_board _).2 _ h).1⟩

/-- Without a suffix two boards can share a health chart. -/
example : healthPath "runs/duel" = healthPath "runs/duel.png" := by decide

end TankArena.Console
