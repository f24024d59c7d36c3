import TankArena.Console.Session
import TankArena.Proofs.Chart.Drawing
import TankArena.Proofs.Chart.Measure
import TankArena.Proofs.Match.Ranking
import TankArena.Proofs.Script.Failure

/-!
# Ranking the programs of a directory

Each program file is read on its own. One that is no text is reported, and one that was read as a
script takes part in the ranking. One with a misspelt direction, or with blocks too deep inside one
another, ends everything, whatever the others hold.
-/

namespace TankArena.Console

open Arena Chart Match Script Text

variable {platform : Platform} {d : Disk} {directory : Path} {programs : Table Program} {o : Output}
  {name : String} {names : List String} {e : ReadError}

/-! ## What is printed -/

theorem printLine_print (o : Output) (s : String) (ls : List String) :
    (o.printLine s).print (textLines ls) = o.print (textLines (s :: ls)) := by
  simp [Output.printLine, Output.print, textLines, String.append_assoc]

theorem print_nil (o : Output) : o.print (textLines []) = o := by
  simp [Output.print, textLines]

/-! ## Files -/

/-- The path of a file in a directory. -/
def programPath (directory : Path) (name : String) : String := (directory.child name.toList).text

/-- The name under which the program of a file is ranked. -/
def shownName (name : String) : String := String.ofList (stem name.toList)

/-- What is printed about a file. -/
def report (d : Disk) (directory : Path) (name : String) : String :=
  match readText d (programPath directory name) with
  | .error e => "Failed to load " ++ programPath directory name ++ ": " ++ e.message
  | .ok _ => "Loaded: " ++ shownName name

/-- The program of a file that can be read. -/
def Platform.programIn? (platform : Platform) (d : Disk) (directory : Path) (name : String) :
    Option (String × Program) :=
  match readText d (programPath directory name) with
  | .error _ => none
  | .ok source => (platform.parse source).toOption.map (shownName name, ·)

/-- A file is text, and as a script that text has an error. -/
def Platform.Misread (platform : Platform) (d : Disk) (directory : Path) (name : String)
    (e : ReadError) : Prop :=
  ∃ source, readText d (programPath directory name) = .ok source ∧ platform.parse source = .error e

theorem loadProgram_cases (platform : Platform) (directory : Path) (programs : Table Program)
    (o : Output) (name : String) :
    (∃ e, platform.Misread o.disk directory name e ∧
      loadProgram platform directory programs o name = (o, .error e)) ∨
    (∀ e, ¬ platform.Misread o.disk directory name e) ∧
      loadProgram platform directory programs o name = (o.printLine (report o.disk directory name),
        .ok (programs.insertAll (platform.programIn? o.disk directory name).toList)) := by
  simp only [loadProgram, Platform.Misread, report, Platform.programIn?, programPath]
  cases hread : readText o.disk (directory.child name.toList).text with
  | error e => exact .inr ⟨by rintro e ⟨source, ⟨⟩, -⟩, rfl⟩
  | ok source =>
      cases hparse : platform.parse source with
      | error e => exact .inl ⟨e, ⟨source, rfl, hparse⟩, by simp [hparse]⟩
      | ok p =>
          refine .inr ⟨?_, by simp only [hparse]; rfl⟩
          rintro e ⟨source', ⟨⟩, herror⟩
          rw [hparse] at herror
          cases herror

/-- Files are loaded one after the other up to the first that is misread. -/
theorem loadPrograms_cases (platform : Platform) (directory : Path) (programs : Table Program)
    (o : Output) (names : List String) :
    (∃ before name after e, names = before ++ name :: after ∧
      (∀ n ∈ before, ∀ e, ¬ platform.Misread o.disk directory n e) ∧
      platform.Misread o.disk directory name e ∧
      loadPrograms platform directory programs o names =
        (o.print (textLines (before.map (report o.disk directory))), .error e)) ∨
    (∀ n ∈ names, ∀ e, ¬ platform.Misread o.disk directory n e) ∧
      loadPrograms platform directory programs o names =
        (o.print (textLines (names.map (report o.disk directory))),
          .ok (programs.insertAll (names.filterMap (platform.programIn? o.disk directory)))) := by
  induction names generalizing programs o with
  | nil => exact .inr ⟨by simp, by rw [List.map_nil, print_nil]; rfl⟩
  | cons n names ih =>
      rw [loadPrograms]
      rcases loadProgram_cases platform directory programs o n with ⟨e, hmis, hload⟩ | ⟨hnone, hload⟩
      · rw [hload]
        exact .inl ⟨[], n, names, e, rfl, by simp, hmis, by rw [List.map_nil, print_nil]⟩
      · rw [hload]
        dsimp only
        rcases ih (programs.insertAll (platform.programIn? o.disk directory n).toList)
          (o.printLine (report o.disk directory n)) with
          ⟨before, name, after, e, rfl, hbefore, hmis, hrest⟩ | ⟨hall, hrest⟩
        · refine .inl ⟨n :: before, name, after, e, rfl,
            List.forall_mem_cons.mpr ⟨hnone, hbefore⟩, hmis, ?_⟩
          rw [hrest, List.map_cons, ← printLine_print]
          rfl
        · refine .inr ⟨List.forall_mem_cons.mpr ⟨hnone, hall⟩, ?_⟩
          rw [hrest, List.map_cons, ← printLine_print, ← Table.insertAll_append]
          rw [List.filterMap_cons]
          cases platform.programIn? o.disk directory n with
          | none => rfl
          | some p => rfl

/-! ## What a ranking prints -/

theorem print_print (o : Output) (s s' : String) : (o.print s).print s' = o.print (s ++ s') := by
  simp [Output.print, String.append_assoc]

def standingTexts (place : Nat) (ranking : List (String × Standing)) : List String :=
  (ranking.zipIdx place).map fun ((n, s), i) => standingText i n s

/-- What is printed about a ranking. -/
def rankingText (ranking : List (String × Standing)) : String :=
  rankingHeader ranking.length ++ standingsHeader ++ textLines (standingTexts 1 ranking) ++
    textLines [ruler, ""]

/-- So many ticks that their number is no measure. -/
def TooLong (ticks : Int) : Prop := 2 ^ 1024 ≤ ticks.natAbs + 2 ^ (1024 - 54)

theorem not_tooLong_iff {ticks : Int} : ¬ TooLong ticks ↔ (units ticks).isFinite = true := by
  simp only [TooLong, isFinite_units_iff, Nat.not_le]

/-- Standings are printed one after the other up to the first that tells of too many ticks. -/
theorem printStandings_cases (o : Output) (place : Nat) (ranking : List (String × Standing)) :
    (∃ e ∈ ranking, TooLong e.2.ticks) ∧
      (printStandings o place ranking).2 = .error .tooManyTicks ∨
    (∀ e ∈ ranking, ¬ TooLong e.2.ticks) ∧ printStandings o place ranking =
      (o.print (textLines (standingTexts place ranking)), .ok ()) := by
  induction ranking generalizing o place with
  | nil => exact .inr ⟨fun e he => (List.not_mem_nil he).elim, by
      rw [standingTexts, List.zipIdx_nil, List.map_nil, print_nil]
      rfl⟩
  | cons e ranking ih =>
      obtain ⟨name, s⟩ := e
      by_cases hlong : TooLong s.ticks
      · refine .inl ⟨⟨_, List.mem_cons_self, hlong⟩, ?_⟩
        rw [printStandings, if_neg (fun h => not_tooLong_iff.mpr h hlong)]
      · rw [printStandings, if_pos (not_tooLong_iff.mp hlong)]
        rcases ih (o.printLine (standingText place name s)) (place + 1) with
          ⟨⟨e, he, hlate⟩, herror⟩ | ⟨hall, hprint⟩
        · exact .inl ⟨⟨e, List.mem_cons_of_mem _ he, hlate⟩, herror⟩
        · refine .inr ⟨List.forall_mem_cons.mpr ⟨hlong, hall⟩, ?_⟩
          rw [hprint, printLine_print]
          rfl

/-- Drawing only adds to what is printed. -/
theorem exists_printed_draw {figure : Except ChartError Figure} {path : Option String} {o' : Output}
    (h : o.draw figure path = .ok o') : ∃ rest, o'.printed = o.printed ++ rest := by
  unfold Output.draw Output.finish at h
  split at h
  · dsimp only at h
    split at h
    · cases h; exact ⟨"", (String.append_empty).symm⟩
    · cases h; exact ⟨"", (String.append_empty).symm⟩
    · rename_i path _
      cases hfile : pictureFile path with
      | error e => rw [hfile] at h; cases h
      | ok file =>
          rw [hfile] at h
          simp only [bind, Except.bind] at h
          split at h
          · cases h; exact ⟨_, rfl⟩
          · cases h
  · cases h

theorem exists_printed_plotStandings (typesetter : Typesetter)
    (ranking : List (String × Standing)) (path : String) (o : Output) :
    ∃ rest, (plotStandings typesetter ranking path o).printed = o.printed ++ rest := by
  unfold plotStandings
  dsimp only
  split
  · exact ⟨_, rfl⟩
  · exact exists_printed_draw ‹_›

/-- A ranking is reported in full unless it tells of too many ticks. A chart comes after what is
printed. -/
theorem reportRanking_cases (typesetter : Typesetter) (ranking : List (String × Standing))
    (options : Options) (o : Output) :
    (∃ e ∈ ranking, TooLong e.2.ticks) ∧
      (reportRanking typesetter ranking options o).2 = .error .tooManyTicks ∨
    (∀ e ∈ ranking, ¬ TooLong e.2.ticks) ∧
      (reportRanking typesetter ranking options o).2 = .ok () ∧
      ∃ rest, (reportRanking typesetter ranking options o).1.printed =
        o.printed ++ (standingsHeader ++ textLines (standingTexts 1 ranking) ++
          textLines [ruler, ""]) ++ rest := by
  unfold reportRanking
  rcases printStandings_cases (o.print standingsHeader) 1 ranking with ⟨hlong, herror⟩ | ⟨hall, hprint⟩
  · refine .inl ⟨hlong, ?_⟩
    split
    · rename_i hprint
      rw [hprint] at herror
      exact herror
    · rename_i hprint
      rw [hprint] at herror
      cases herror
  · refine .inr ⟨hall, ?_⟩
    rw [hprint]
    dsimp only
    rw [print_print, print_print]
    split
    · exact ⟨rfl, exists_printed_plotStandings _ _ _ _⟩
    · exact ⟨rfl, "", String.append_empty.symm⟩

/-! ## The programs of a directory -/

theorem exists_programIn {source : String} (h : ∀ e, ¬ platform.Misread d directory name e)
    (hread : readText d (programPath directory name) = .ok source) :
    ∃ p, platform.parse source = .ok p ∧
      platform.programIn? d directory name = some (shownName name, p) := by
  cases hparse : platform.parse source with
  | error e => exact absurd ⟨source, hread, hparse⟩ (h e)
  | ok p =>
      refine ⟨p, rfl, ?_⟩
      rw [Platform.programIn?, hread]
      simp only [hparse]
      rfl

/-- With nothing misspelt every text takes part under its name. -/
theorem map_fst_programs (h : ∀ n ∈ names, ∀ e, ¬ platform.Misread d directory n e) :
    (names.filterMap (platform.programIn? d directory)).map Prod.fst =
      (names.filter fun n => (readText d (programPath directory n)).isOk).map shownName := by
  induction names with
  | nil => rfl
  | cons n names ih =>
      obtain ⟨hn, hnames⟩ := List.forall_mem_cons.mp h
      rw [List.filterMap_cons, List.filter_cons]
      cases hread : readText d (programPath directory n) with
      | error e =>
          have hnone : platform.programIn? d directory n = none := by rw [Platform.programIn?, hread]
          rw [hnone]
          exact ih hnames
      | ok source =>
          obtain ⟨p, -, hp⟩ := exists_programIn hn hread
          rw [hp]
          exact congrArg (shownName n :: ·) (ih hnames)

theorem isRead_of_mem_programs {p : String × Program}
    (h : p ∈ names.filterMap (platform.programIn? d directory)) : p.2.IsRead := by
  obtain ⟨n, -, hn⟩ := List.mem_filterMap.mp h
  unfold Platform.programIn? at hn
  split at hn
  · cases hn
  · rename_i source _
    obtain ⟨q, hq, rfl⟩ := Option.map_eq_some_iff.mp hn
    exact ⟨platform.room source, source, parse_eq_ok_of_toOption hq⟩

/-- The match of a program lasts too many ticks for their number to be a measure. -/
def Overlong (settings : Settings) (program : Program) : Prop :=
  ∃ r, runFrom settings false program .initial = .ok r ∧ TooLong r.ticks

theorem exists_tooLong_iff {settings : Settings} {programs : Table Program}
    {ranking : List (String × Standing)} (h : Ranks settings programs ranking) :
    (∃ e ∈ ranking, TooLong e.2.ticks) ↔
      ∃ name p, programs.get? name = some p ∧ Overlong settings p := by
  constructor
  · rintro ⟨e, he, hlong⟩
    obtain ⟨p, hp, hplay⟩ := h.alone e he
    obtain ⟨r, hr, hstanding⟩ := hplay false
    rw [hstanding] at hlong
    exact ⟨e.1, p, hp, r, hr, hlong⟩
  · rintro ⟨name, p, hp, r, hr, hlong⟩
    have hkey : name ∈ programs.keys := List.mem_map_of_mem (Table.mem_of_get? hp)
    obtain ⟨e, he, rfl⟩ := List.mem_map.mp (h.names.mem_iff.mpr hkey)
    obtain ⟨p', hp', hplay⟩ := h.alone e he
    obtain ⟨r', hr', hstanding⟩ := hplay false
    obtain rfl : p = p' := Option.some.inj (hp.symm.trans hp')
    obtain rfl : r = r' := Except.ok.inj (hr.symm.trans hr')
    exact ⟨e, he, hstanding ▸ hlong⟩

theorem rankPrograms_of_empty {programs : Table Program} (h : programs.entries = [])
    (typesetter : Typesetter) (settings : Settings) (options : Options) (o : Output) :
    rankPrograms typesetter programs settings options o =
      (o.printLine "No .omega programs found", .ok ()) := by
  rw [rankPrograms, rank, h]
  rfl

/-- Programs that were read are ranked and their standings reported, unless a match lasts too long
for that. -/
theorem rankPrograms_cases {programs : Table Program} (hne : programs.entries ≠ [])
    (hread : ∀ p ∈ programs.entries, p.2.IsRead) (typesetter : Typesetter) (settings : Settings)
    (options : Options) (o : Output) :
    (∃ name p, programs.get? name = some p ∧ Overlong settings p) ∧
      (rankPrograms typesetter programs settings options o).2 = .error .tooManyTicks ∨
    (¬ ∃ name p, programs.get? name = some p ∧ Overlong settings p) ∧
      (rankPrograms typesetter programs settings options o).2 = .ok () ∧
      ∃ ranking rest, Ranks settings programs ranking ∧
        (rankPrograms typesetter programs settings options o).1.printed =
          o.printed ++ rankingText ranking ++ rest := by
  rcases entered_cases settings programs.entries with
    ⟨fault, -, e, he, hfault⟩ | ⟨entries, hentered, -⟩
  · obtain ⟨r, hr⟩ := exists_runFrom_of_isRead settings false (hread e he) World.onBoard_initial
    rw [hr] at hfault
    cases hfault
  · have hranks := hentered.ranks
    have hsize : (ranked entries).length = programs.size := by
      have hlength := hranks.names.length_eq
      rwa [List.length_map, Table.keys, List.length_map] at hlength
    rw [← exists_tooLong_iff hranks, rankPrograms, (rank_eq_ok_iff hne).mpr ⟨entries, hentered, rfl⟩]
    dsimp only
    rcases reportRanking_cases typesetter (ranked entries) options
      (o.print (rankingHeader programs.size)) with hlong | ⟨hall, hok, rest, hprint⟩
    · exact .inl hlong
    · refine .inr ⟨?_, hok, ranked entries, rest, hranks, ?_⟩
      · rintro ⟨e, he, hlong⟩
        exact hall e he hlong
      · rw [hprint, rankingText, hsize]
        simp only [Output.print, String.append_assoc]

/-- A file that is text cannot be read as a script: some statement in it is misspelt or nested too
deep. -/
theorem exists_misread_iff (platform : Platform) (d : Disk) (directory : Path)
    (names : List String) : (∃ n ∈ names, ∃ e, platform.Misread d directory n e) ↔
      ∃ n ∈ names, ∃ source, readText d (programPath directory n) = .ok source ∧
        ∃ token ∈ tokensOf (lines source.toList),
          (∃ e, FailsAt token e) ∨ TooDeep (platform.room source) token := by
  simp only [Platform.Misread, Platform.parse, ← exists_parse_eq_error_iff]
  exact exists_congr fun n => and_congr_right fun _ => exists_comm.trans
    (exists_congr fun source => exists_and_left)

/-- The programs of a directory in which nothing is misread. -/
structure Loaded (platform : Platform) (d : Disk) (directory : Path) (names : List String)
    (programs : Table Program) : Prop where
  keys : programs.keys =
    (names.filter fun n => (readText d (programPath directory n)).isOk).map shownName
  isRead : ∀ p ∈ programs.entries, p.2.IsRead
  parse : ∀ n ∈ names, ∀ source, readText d (programPath directory n) = .ok source →
    ∃ p, platform.parse source = .ok p
  get? : ∀ name p, programs.get? name = some p ↔ ∃ n ∈ names, shownName n = name ∧
    ∃ source, readText d (programPath directory n) = .ok source ∧ platform.parse source = .ok p

theorem programIn?_eq_some_iff {p : String × Program} :
    platform.programIn? d directory name = some p ↔ shownName name = p.1 ∧ ∃ source,
      readText d (programPath directory name) = .ok source ∧ platform.parse source = .ok p.2 := by
  unfold Platform.programIn?
  cases hread : readText d (programPath directory name) with
  | error e => simp
  | ok source =>
      cases hparse : platform.parse source with
      | error e => simp [Except.toOption, hparse]
      | ok q => simp [Except.toOption, Prod.ext_iff, hparse]

theorem loaded_of_not_misread (h : ∀ n ∈ names, ∀ e, ¬ platform.Misread d directory n e)
    (hnames : (names.map shownName).Nodup) :
    Loaded platform d directory names
      (Table.ofList (names.filterMap (platform.programIn? d directory))) := by
  have hkeys := map_fst_programs h
  have hentries : (Table.ofList (names.filterMap (platform.programIn? d directory))).entries =
      names.filterMap (platform.programIn? d directory) := by
    refine Table.entries_ofList ?_
    rw [hkeys]
    exact hnames.sublist (List.filter_sublist.map _)
  refine ⟨by rw [Table.keys, hentries, hkeys], fun p hp => ?_, fun n hn source hread => ?_,
    fun name p => ?_⟩
  · rw [hentries] at hp
    exact isRead_of_mem_programs hp
  · obtain ⟨p, hp, -⟩ := exists_programIn (h n hn) hread
    exact ⟨p, hp⟩
  · have hmem : (Table.ofList (names.filterMap (platform.programIn? d directory))).get? name =
        some p ↔ (name, p) ∈ names.filterMap (platform.programIn? d directory) := by
      constructor
      · exact fun hget => hentries ▸ Table.mem_of_get? hget
      · intro hmem
        rw [← hentries] at hmem
        exact Table.get?_of_mem hmem
    rw [hmem, List.mem_filterMap]
    exact exists_congr fun n => and_congr_right fun _ => programIn?_eq_some_iff

/-- The ranking of a directory ends at a file that is misread, or it is that of the programs in the
files. -/
theorem rankDirectory_cases {directory : String} (platform : Platform) (settings : Settings)
    (options : Options) (hfiles : programFiles o.disk (.parse directory) = .ok names)
    (hnames : (names.map shownName).Nodup) :
    (∃ n ∈ names, ∃ e, platform.Misread o.disk (.parse directory) n e) ∧
      (∃ cause, (rankDirectory platform directory settings options o).2 = .error cause) ∨
    ∃ programs, Loaded platform o.disk (.parse directory) names programs ∧
      rankDirectory platform directory settings options o =
        rankPrograms platform.typesetter programs settings options
          (o.print (textLines (names.map (report o.disk (.parse directory))))) := by
  unfold rankDirectory
  dsimp only
  rw [hfiles]
  dsimp only
  rcases loadPrograms_cases platform (.parse directory) ∅ o names with
    ⟨before, n, after, e, hsplit, -, hmis, hload⟩ | ⟨hnone, hload⟩
  · rw [hload]
    exact .inl ⟨⟨n, by simp [hsplit], e, hmis⟩, _, rfl⟩
  · rw [hload]
    exact .inr ⟨_, loaded_of_not_misread hnone hnames, rfl⟩

theorem Loaded.entries_eq_nil_iff {programs : Table Program}
    (h : Loaded platform d directory names programs) : programs.entries = [] ↔
      (names.filter fun n => (readText d (programPath directory n)).isOk) = [] := by
  have hkeys := h.keys
  rw [Table.keys] at hkeys
  rw [← List.map_eq_nil_iff, hkeys, List.map_eq_nil_iff]

/-- No statement of a script that was read is misspelt or nested too deep. -/
theorem Loaded.exists_overlong_iff {programs : Table Program} {settings : Settings}
    (h : Loaded platform d directory names programs) :
    (∃ name p, programs.get? name = some p ∧ Overlong settings p) ↔
      ∃ n ∈ names, ∃ source, readText d (programPath directory n) = .ok source ∧
        ((∃ token ∈ tokensOf (lines source.toList),
            (∃ e, FailsAt token e) ∨ TooDeep (platform.room source) token) ∨
          ∃ p, platform.parse source = .ok p ∧ Overlong settings p) := by
  constructor
  · rintro ⟨name, p, hp, hlong⟩
    obtain ⟨n, hn, -, source, hread, hparse⟩ := (h.get? name p).mp hp
    exact ⟨n, hn, source, hread, .inr ⟨p, hparse, hlong⟩⟩
  · rintro ⟨n, hn, source, hread, hfails | ⟨p, hparse, hlong⟩⟩
    · obtain ⟨e, he⟩ := exists_parse_eq_error_iff.mpr hfails
      obtain ⟨p, hp⟩ := h.parse n hn source hread
      rw [Platform.parse, he] at hp
      cases hp
    · exact ⟨_, p, (h.get? _ p).mpr ⟨n, hn, rfl, source, hread, hparse⟩, hlong⟩

/-- A directory with programs is ranked unless a file holds a statement with a misspelt direction or
one that is nested too deep, or a match lasts too many ticks for their number to be printed; nothing
else ends the ranking early. Otherwise each file that is no text is reported and every other one is
ranked, once and with the standing of its own match. -/
theorem gauntlet_ends_early_iff {directory : String} (platform : Platform) (settings : Settings)
    (options : Options) (hfiles : programFiles o.disk (.parse directory) = .ok names)
    (hnames : (names.map shownName).Nodup) :
    let read := fun n => readText o.disk (programPath (.parse directory) n)
    let reports := textLines (names.map (report o.disk (.parse directory)))
    let readable := names.filter fun n => (read n).isOk
    let outcome := rankDirectory platform directory settings options o
    ((∃ cause, outcome.2 = .error cause) ↔ ∃ n ∈ names, ∃ source, read n = .ok source ∧
      ((∃ token ∈ tokensOf (lines source.toList),
          (∃ e, FailsAt token e) ∨ TooDeep (platform.room source) token) ∨
        ∃ p, platform.parse source = .ok p ∧ Overlong settings p)) ∧
    (outcome.2 = .ok () →
      (readable = [] → outcome.1 = (o.print reports).printLine "No .omega programs found") ∧
      (readable ≠ [] → ∃ programs ranking rest,
        programs.keys = readable.map shownName ∧
        (∀ n ∈ readable, ∃ source p, read n = .ok source ∧ platform.parse source = .ok p ∧
          programs.get? (shownName n) = some p) ∧
        Ranks settings programs ranking ∧
        outcome.1.printed = o.printed ++ reports ++ rankingText ranking ++ rest)) := by
  intro read reports readable outcome
  rcases rankDirectory_cases platform settings options hfiles hnames with
    ⟨hmisread, hcause⟩ | ⟨programs, hloaded, houtcome⟩
  · obtain ⟨n, hn, source, hread, hfails⟩ := (exists_misread_iff ..).mp hmisread
    refine ⟨iff_of_true hcause ⟨n, hn, source, hread, .inl hfails⟩, fun hok => ?_⟩
    obtain ⟨cause, hcause⟩ := hcause
    rw [hok] at hcause
    cases hcause
  · change outcome = _ at houtcome
    rw [← hloaded.exists_overlong_iff]
    by_cases hnil : readable = []
    · have hentries := hloaded.entries_eq_nil_iff.mpr hnil
      have hempty : ¬ ∃ name p, programs.get? name = some p ∧ Overlong settings p := by
        rintro ⟨name, p, hp, -⟩
        have hmem := Table.mem_of_get? hp
        rw [hentries] at hmem
        exact List.not_mem_nil hmem
      rw [houtcome, rankPrograms_of_empty hentries]
      exact ⟨iff_of_false nofun hempty, fun _ => ⟨fun _ => rfl, fun h => absurd hnil h⟩⟩
    · have hentries := mt hloaded.entries_eq_nil_iff.mp hnil
      rcases rankPrograms_cases hentries hloaded.isRead platform.typesetter settings options
        (o.print reports) with ⟨hlong, herror⟩ | ⟨hnone, hok, ranking, rest, hranks, hprint⟩
      · rw [← houtcome] at herror
        refine ⟨iff_of_true ⟨_, herror⟩ hlong, fun hok => ?_⟩
        rw [herror] at hok
        cases hok
      · rw [← houtcome] at hok hprint
        refine ⟨iff_of_false ?_ hnone, fun _ => ⟨fun h => absurd h hnil,
          fun _ => ⟨programs, ranking, rest, hloaded.keys, fun n hn => ?_, hranks, hprint⟩⟩⟩
        · rintro ⟨cause, hcause⟩
          rw [hok] at hcause
          cases hcause
        · obtain ⟨hn, hisOk⟩ := List.mem_filter.mp hn
          cases hread : readText o.disk (programPath (.parse directory) n) with
          | error e => simp only [read, hread] at hisOk; cases hisOk
          | ok source =>
              obtain ⟨p, hp⟩ := hloaded.parse n hn source hread
              have hget := (hloaded.get? _ p).mpr ⟨n, hn, rfl, source, hread, hp⟩
              exact ⟨source, p, hread, hp, hget⟩

/-- A dotted I in one file ends the ranking of a directory with a program that is fine. -/
theorem gauntlet_ends_early_iff_turn :
    let disk : Disk := ({} : Disk).put "g" .directory
      |>.put "g/a.omega" (.file "TURN R\u0130GHT;".toUTF8.toList)
      |>.put "g/b.omega" (.file "ATTACK;".toUTF8.toList)
    let platform : Platform :=
      { room := fun _ => 1, typesetter := .plainOnly "refused", bindings := fun _ _ => [] }
    programFiles disk (.parse "g") = .ok ["a.omega", "b.omega"] ∧
    (["a.omega", "b.omega"].map shownName).Nodup ∧
    ∃ cause, (rankDirectory platform "g" {} {} { disk }).2 = .error cause := by
  intro disk platform
  -- The names stand in order already, so sorting them keeps them.
  have hsort : ["a.omega", "b.omega"].mergeSort (fun a b => decide (a ≤ b)) =
      ["a.omega", "b.omega"] := List.mergeSort_of_pairwise (by decide +kernel)
  have hplace : disk.locate "g" = .ok ["g"] := by decide +kernel
  have hentry : disk.entry? ["g"] = some .directory := by decide +kernel
  have hunder : (disk.entries.keys.filterMap fun k =>
      if (Disk.pathNames k).dropLast = ["g"] then (Disk.pathNames k).getLast? else none) =
      ["a.omega", "b.omega"] := by decide +kernel
  have hchildren : disk.children "g" = ["a.omega", "b.omega"] := by
    simp only [Disk.children, hplace, hentry, hunder, hsort]
  have hdirectory : disk.isDirectory "g" = .ok true := by decide +kernel
  have hfiles : programFiles disk (.parse "g") = .ok ["a.omega", "b.omega"] := by
    have htext : (Path.parse "g").text = "g" := by decide +kernel
    have hfilter : ["a.omega", "b.omega"].filter isProgramFile = ["a.omega", "b.omega"] := by
      decide +kernel
    simp only [programFiles, htext, hdirectory, hchildren, hfilter, bind, Except.bind, if_true, pure,
      Except.pure]
  have hnames : (["a.omega", "b.omega"].map shownName).Nodup := by decide +kernel
  have hread : readText disk (programPath (.parse "g") "a.omega") = .ok "TURN R\u0130GHT;" := by
    decide +kernel
  have hfails : (platform.parse "TURN R\u0130GHT;").isOk = false := by decide +kernel
  have htoken := exists_parse_eq_error_iff.mp (exists_parse_eq_error hfails)
  have hiff := (gauntlet_ends_early_iff (o := { disk }) platform {} {} hfiles hnames).1
  exact ⟨hfiles, hnames, hiff.mpr ⟨"a.omega", List.mem_cons_self, _, hread, .inl htoken⟩⟩

end TankArena.Console
