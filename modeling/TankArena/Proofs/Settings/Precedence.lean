import Mathlib.Data.List.Nodup
import TankArena.Console.Session
import TankArena.Proofs.Table
import TankArena.Proofs.Text.Numeral

/-!
# Where settings come from

A setting is taken from the environment if its variable is there, blank or not, else from the last
binding of its name in the file, else it has its default. Settings are refused for the first text
that is no integer, and only then for numbers out of range. Whatever a match is played with has a
positive tick limit and a positive period.
-/

namespace TankArena

open Text

abbrev Bindings := List (String × Option String)

variable {env env' : Environment} {bindings : Bindings} {name : String} {t : List Char}

/-! ## The environment with a file -/

/-- The last binding of a name, which may have no value. -/
def lastBinding (bindings : Bindings) (name : String) : Option (Option String) :=
  ((bindings.filter (·.1 = name)).getLast?).map Prod.snd

/-- The text given for a variable: the environment's, else that of its last binding. -/
def givenText (env : Environment) (bindings : Bindings) (name : String) : Option String :=
  (env.get? name).or (lastBinding bindings name).join

/-- A variable can be set: no NUL in name and text, no equals sign in the name. -/
structure Settable (name text : String) : Prop where
  nul : '\x00' ∉ name.toList ∧ '\x00' ∉ text.toList
  equals : '=' ∉ name.toList

theorem get?_ofList_eq_lastBinding (bindings : Bindings) (name : String) :
    (Table.ofList bindings).get? name = lastBinding bindings name := by
  induction bindings using List.reverseRecOn with
  | nil => rfl
  | append_singleton bindings b ih =>
      rw [Table.ofList_concat, Table.get?_insert, ih, lastBinding, lastBinding, List.filter_append]
      by_cases hb : b.1 = name
      · simp [hb]
      · simp [hb, Ne.symm hb]

namespace Environment

theorem set_eq_ok_iff {text : String} :
    env.set name text = .ok env' ↔ Settable name text ∧ env' = env.insert name text := by
  unfold set
  split
  · rename_i hnul
    simp only [Bool.or_eq_true, List.contains_iff_mem] at hnul
    exact iff_of_false nofun fun h => hnul.elim h.1.nul.1 h.1.nul.2
  · rename_i hnul
    simp only [Bool.or_eq_true, List.contains_iff_mem, not_or] at hnul
    split
    · rename_i hequals
      simp only [List.contains_iff_mem] at hequals
      exact iff_of_false nofun fun h => h.1.equals hequals
    · rename_i hequals
      simp only [List.contains_iff_mem] at hequals
      rw [Except.ok.injEq, eq_comm]
      exact (and_iff_right ⟨hnul, hequals⟩).symm

/-- Sets what one entry of the file gives; variables that `env` has are left alone. -/
def loadEntry (env e : Environment) (b : String × Option String) :
    Except EnvironmentError Environment :=
  match b.2 with
  | some value => if env.contains b.1 then .ok e else e.set b.1 value
  | none => .ok e

theorem load_eq_foldlM :
    env.load bindings = (Table.ofList bindings).entries.foldlM env.loadEntry env := rfl

theorem contains_eq_false_iff : env.contains name = false ↔ env.get? name = none := by
  rw [Table.contains, Option.isSome_eq_false_iff, Option.isNone_iff_eq_none]

theorem loadEntry_cases (env e : Environment) (b : String × Option String) :
    (∃ value, b.2 = some value ∧ env.get? b.1 = none ∧ env.loadEntry e b = e.set b.1 value) ∨
    ((b.2 = none ∨ (env.get? b.1).isSome) ∧ env.loadEntry e b = .ok e) := by
  unfold loadEntry
  split
  · rename_i value hvalue
    split
    · rename_i hthere
      exact .inr ⟨.inr hthere, rfl⟩
    · rename_i hthere
      exact .inl ⟨value, hvalue, contains_eq_false_iff.mp (by simpa using hthere), rfl⟩
  · rename_i hnone
    exact .inr ⟨.inl hnone, rfl⟩

/-- All entries can be set if each one can. -/
theorem exists_foldlM_loadEntry_iff {es : Bindings} {e : Environment} :
    (∃ e', es.foldlM env.loadEntry e = .ok e') ↔
      ∀ b ∈ es, ∀ text, b.2 = some text → env.get? b.1 = none → Settable b.1 text := by
  induction es generalizing e with
  | nil => exact ⟨fun _ => by simp, fun _ => ⟨e, rfl⟩⟩
  | cons b es ih =>
      simp only [List.foldlM_cons, List.forall_mem_cons]
      rcases loadEntry_cases env e b with ⟨value, hvalue, hnew, hb⟩ | ⟨hskip, hb⟩
      · rw [hb, hvalue]
        by_cases hset : Settable b.1 value
        · rw [set_eq_ok_iff.mpr ⟨hset, rfl⟩]
          exact ih.trans (and_iff_right (by rintro text ⟨⟩ -; exact hset)).symm
        · refine iff_of_false ?_ fun h => hset (h.1 value rfl hnew)
          rintro ⟨e', h⟩
          cases hres : e.set b.1 value with
          | error => rw [hres] at h; cases h
          | ok e₁ => exact hset (set_eq_ok_iff.mp hres).1
      · rw [hb]
        refine ih.trans (and_iff_right fun text htext hnew => ?_).symm
        rcases hskip with hnone | hthere
        · rw [hnone] at htext; cases htext
        · rw [hnew] at hthere; cases hthere

/-- Entries of different names do not get into each other's way. -/
theorem get?_foldlM_loadEntry {es : Bindings} {e e' : Environment} (hnodup : (es.map Prod.fst).Nodup)
    (h : es.foldlM env.loadEntry e = .ok e') (name : String) : e'.get? name =
      if (env.get? name).isSome then e.get? name else (es.lookup name).join.or (e.get? name) := by
  induction es generalizing e with
  | nil => cases h; simp
  | cons b es ih =>
      rw [List.map_cons, List.nodup_cons] at hnodup
      have hlater : es.lookup b.1 = none := by
        cases hl : es.lookup b.1 with
        | none => rfl
        | some value => exact absurd (List.mem_map_of_mem (mem_of_lookup hl)) hnodup.1
      rw [List.foldlM_cons] at h
      rcases loadEntry_cases env e b with ⟨value, hvalue, hnew, hb⟩ | ⟨hskip, hb⟩
      · rw [hb] at h
        cases hres : e.set b.1 value with
        | error => rw [hres] at h; cases h
        | ok e₁ =>
            rw [hres] at h
            obtain ⟨-, rfl⟩ := set_eq_ok_iff.mp hres
            rw [ih hnodup.2 h, Table.get?_insert, List.lookup_cons]
            by_cases hname : name = b.1
            · simp [hname, hnew, hvalue, hlater]
            · simp [hname, beq_eq_false_iff_ne.mpr hname]
      · rw [hb] at h
        rw [ih hnodup.2 h, List.lookup_cons]
        by_cases hname : name = b.1
        · rcases hskip with hnone | hthere
          · simp [hname, hnone, hlater]
          · simp [hname, hthere]
        · simp [beq_eq_false_iff_ne.mpr hname]

/-- A file can be loaded if every variable that is missing can be set to what its last binding
gives. -/
theorem exists_load_iff : (∃ env', env.load bindings = .ok env') ↔ ∀ name text,
    env.get? name = none → lastBinding bindings name = some (some text) → Settable name text := by
  rw [load_eq_foldlM, exists_foldlM_loadEntry_iff]
  simp only [← get?_ofList_eq_lastBinding]
  constructor
  · intro h name text hnew hlast
    exact h _ (Table.mem_of_get? hlast) text rfl hnew
  · intro h b hb text htext hnew
    exact h b.1 text hnew ((Table.get?_of_mem hb).trans (congrArg some htext))

theorem get?_load (h : env.load bindings = .ok env') (name : String) :
    env'.get? name = givenText env bindings name := by
  rw [load_eq_foldlM] at h
  rw [get?_foldlM_loadEntry (Table.nodup _) h, givenText, ← get?_ofList_eq_lastBinding]
  change _ = (env.get? name).or ((Table.ofList bindings).entries.lookup name).join
  cases env.get? name with
  | none => simp
  | some text => simp

/-! ## Settings from texts -/

end Environment

/-- An integer setting: the default if nothing is written, else the integer that is. -/
def Settles (t : List Char) (default n : Int) : Prop :=
  t = [] ∧ n = default ∨ t ≠ [] ∧ IsInteger t n

/-- Something is written that is no integer. -/
def Offends (t : List Char) : Prop := t ≠ [] ∧ ∀ n, ¬ IsInteger t n

theorem Settles.not_offends {default n : Int} (h : Settles t default n) : ¬ Offends t := by
  rintro ⟨hne, hnone⟩
  rcases h with ⟨rfl, -⟩ | ⟨-, hn⟩
  · exact hne rfl
  · exact hnone n hn

theorem Settles.unique {default m n : Int} (hm : Settles t default m) (hn : Settles t default n) :
    m = n := by
  rcases hm with ⟨rfl, rfl⟩ | ⟨hne, hm⟩
  · rcases hn with ⟨-, rfl⟩ | ⟨hne, -⟩
    · rfl
    · exact absurd rfl hne
  · rcases hn with ⟨rfl, -⟩ | ⟨-, hn⟩
    · exact absurd rfl hne
    · rw [← integer?_eq_some_iff] at hm hn
      exact Option.some.inj (hm.symm.trans hn)

/-- The first of some names whose text offends. -/
def FirstOffending (text : String → List Char) (names : List String) (name : String) : Prop :=
  ∃ before after, names = before ++ name :: after ∧ (∀ n ∈ before, ¬ Offends (text n)) ∧
    Offends (text name)

theorem firstOffending_cons {text : String → List Char} {n : String} {names : List String} :
    FirstOffending text (n :: names) name ↔
      name = n ∧ Offends (text n) ∨ ¬ Offends (text n) ∧ FirstOffending text names name := by
  constructor
  · rintro ⟨before, after, hnames, hbefore, hname⟩
    cases before with
    | nil => cases hnames; exact .inl ⟨rfl, hname⟩
    | cons m before =>
        cases hnames
        rw [List.forall_mem_cons] at hbefore
        exact .inr ⟨hbefore.1, before, after, rfl, hbefore.2, hname⟩
  · rintro (⟨rfl, hname⟩ | ⟨hn, before, after, rfl, hbefore, hname⟩)
    · exact ⟨[], names, rfl, by simp, hname⟩
    · exact ⟨n :: before, after, rfl, List.forall_mem_cons.mpr ⟨hn, hbefore⟩, hname⟩

theorem FirstOffending.unique {text : String → List Char} {names : List String} {name' : String}
    (h : FirstOffending text names name) (h' : FirstOffending text names name') : name = name' := by
  induction names with
  | nil =>
      obtain ⟨before, after, hnames, -⟩ := h
      cases before <;> cases hnames
  | cons n names ih =>
      rcases firstOffending_cons.mp h with ⟨rfl, hn⟩ | ⟨hn, hrest⟩
      · rcases firstOffending_cons.mp h' with ⟨rfl, -⟩ | ⟨hn', -⟩
        · rfl
        · exact absurd hn hn'
      · rcases firstOffending_cons.mp h' with ⟨-, hn'⟩ | ⟨-, hrest'⟩
        · exact absurd hn' hn
        · exact ih hrest hrest'

theorem Settings.checked_eq_ok_iff {s s' : Settings} :
    s.checked = .ok s' ↔ s' = s ∧ 1 ≤ s'.maxTicks ∧ 1 ≤ s'.tickMs := by
  unfold Settings.checked
  split
  · exact iff_of_false nofun (by rintro ⟨rfl, hmax, -⟩; omega)
  · split
    · exact iff_of_false nofun (by rintro ⟨rfl, -, htick⟩; omega)
    · rw [Except.ok.injEq, eq_comm]
      exact (and_iff_left_of_imp (by rintro rfl; omega)).symm

/-- The variables of integer settings, in the order in which they are read. -/
def integerNames : List String := ["OMEGA_MAX_TICKS", "OMEGA_TICK_MS", "OMEGA_PORT"]

/-- The settings that some texts ask for. -/
structure Asked (text : String → List Char) (s : Settings) : Prop where
  maxTicks : Settles (text "OMEGA_MAX_TICKS") 300 s.maxTicks
  stop : s.stopWhenFinished = true ↔
    String.ofList ((text "OMEGA_STOP_WHEN_FINISHED").map Char.toLower) ∈ ["1", "true", "yes", "on"]
  tickMs : Settles (text "OMEGA_TICK_MS") 380 s.tickMs
  port : Settles (text "OMEGA_PORT") 8080 s.port

theorem Asked.unique {text : String → List Char} {s s' : Settings} (h : Asked text s)
    (h' : Asked text s') : s = s' := by
  have hmax := h.maxTicks.unique h'.maxTicks
  have hstop := Bool.eq_iff_iff.mpr (h.stop.trans h'.stop.symm)
  have htick := h.tickMs.unique h'.tickMs
  have hport := h.port.unique h'.port
  cases s
  cases s'
  simp_all

theorem Asked.not_firstOffending {text : String → List Char} {s : Settings} (h : Asked text s) :
    ¬ FirstOffending text integerNames name := by
  rintro ⟨before, after, hnames, -, hname⟩
  have hmem : name ∈ integerNames := by simp [hnames]
  have hnone : ∀ n ∈ integerNames, ¬ Offends (text n) := by
    simp [integerNames, h.maxTicks.not_offends, h.tickMs.not_offends, h.port.not_offends]
  exact hnone name hmem hname

/-- Why settings are refused: for the first text that offends, or else for a number out of range. -/
inductive Refused (text : String → List Char) : SettingsError → Prop
  | notInteger {name : String} : FirstOffending text integerNames name →
      Refused text (.notInteger name (String.ofList (text name)))
  | maxTicks {s : Settings} : Asked text s → s.maxTicks < 1 → Refused text .maxTicks
  | tickMs {s : Settings} : Asked text s → 1 ≤ s.maxTicks → s.tickMs < 1 → Refused text .tickMs

namespace Environment

/-- The text of a variable without blanks at its ends. -/
def written (env : Environment) (name : String) : List Char :=
  trim ((env.get? name).getD "").toList

theorem text?_eq (env : Environment) (name : String) :
    env.text? name = if env.written name = [] then none else some (env.written name) := by
  unfold text? written
  split
  · rename_i hnil
    rw [hnil, if_pos rfl]
  · rename_i t ht
    exact (if_neg ht).symm

theorem integer_cases (env : Environment) (name : String) (default : Int) :
    (∃ n, env.integer name default = .ok n ∧ Settles (env.written name) default n) ∨
    (env.integer name default = .error (.notInteger name (String.ofList (env.written name))) ∧
      Offends (env.written name)) := by
  rw [integer, text?_eq]
  by_cases hnil : env.written name = []
  · rw [if_pos hnil]
    exact .inl ⟨default, rfl, .inl ⟨hnil, rfl⟩⟩
  · rw [if_neg hnil]
    dsimp only
    cases hv : integer? (env.written name) with
    | some n => exact .inl ⟨n, rfl, .inr ⟨hnil, integer?_eq_some_iff.mp hv⟩⟩
    | none =>
        refine .inr ⟨rfl, hnil, fun n hn => ?_⟩
        rw [integer?_eq_some_iff.mpr hn] at hv
        cases hv

theorem flag_eq_true_iff (env : Environment) (name : String) : env.flag name false = true ↔
    String.ofList ((env.written name).map Char.toLower) ∈ ["1", "true", "yes", "on"] := by
  rw [flag, text?_eq]
  by_cases hnil : env.written name = []
  · rw [if_pos hnil, hnil]
    decide
  · rw [if_neg hnil]
    exact List.contains_iff_mem

theorem settings_cases (env : Environment) :
    (∃ s, Asked env.written s ∧ env.settings = s.checked) ∨
    ∃ name, FirstOffending env.written integerNames name ∧
      env.settings = .error (.notInteger name (String.ofList (env.written name))) := by
  unfold settings
  dsimp only
  rcases env.integer_cases "OMEGA_MAX_TICKS" 300 with ⟨maxTicks, h₁, hmax⟩ | ⟨h₁, hmax⟩
  · rcases env.integer_cases "OMEGA_TICK_MS" 380 with ⟨tickMs, h₂, htick⟩ | ⟨h₂, htick⟩
    · rcases env.integer_cases "OMEGA_PORT" 8080 with ⟨port, h₃, hport⟩ | ⟨h₃, hport⟩
      · refine .inl ⟨{ maxTicks, stopWhenFinished := env.flag "OMEGA_STOP_WHEN_FINISHED" false
                       tickMs, port }, ⟨hmax, flag_eq_true_iff env _, htick, hport⟩, ?_⟩
        rw [h₁, h₂, h₃]
        rfl
      · refine .inr ⟨"OMEGA_PORT", ?_, by rw [h₁, h₂, h₃]; rfl⟩
        exact ⟨["OMEGA_MAX_TICKS", "OMEGA_TICK_MS"], [], rfl,
          by simp [hmax.not_offends, htick.not_offends], hport⟩
    · refine .inr ⟨"OMEGA_TICK_MS", ?_, by rw [h₁, h₂]; rfl⟩
      exact ⟨["OMEGA_MAX_TICKS"], ["OMEGA_PORT"], rfl, by simp [hmax.not_offends], htick⟩
  · refine .inr ⟨"OMEGA_MAX_TICKS", ?_, by rw [h₁]; rfl⟩
    exact ⟨[], ["OMEGA_TICK_MS", "OMEGA_PORT"], rfl, by simp, hmax⟩

theorem settings_eq_ok_iff {s : Settings} :
    env.settings = .ok s ↔ Asked env.written s ∧ 1 ≤ s.maxTicks ∧ 1 ≤ s.tickMs := by
  rcases env.settings_cases with ⟨s', hasked, heq⟩ | ⟨name, hfirst, heq⟩
  · rw [heq, Settings.checked_eq_ok_iff]
    constructor
    · rintro ⟨rfl, hrange⟩
      exact ⟨hasked, hrange⟩
    · rintro ⟨hasked', hrange⟩
      exact ⟨hasked'.unique hasked, hrange⟩
  · rw [heq]
    exact iff_of_false nofun fun h => h.1.not_firstOffending hfirst

theorem settings_eq_error_iff {e : SettingsError} :
    env.settings = .error e ↔ Refused env.written e := by
  rcases env.settings_cases with ⟨s, hasked, heq⟩ | ⟨name, hfirst, heq⟩
  · rw [heq]
    constructor
    · intro h
      unfold Settings.checked at h
      split at h
      · cases h; exact .maxTicks hasked ‹_›
      · split at h
        · cases h; exact .tickMs hasked (by omega) ‹_›
        · cases h
    · intro h
      cases h with
      | notInteger hfirst => exact absurd hfirst hasked.not_firstOffending
      | maxTicks hasked' hlow =>
          rw [hasked.unique hasked', Settings.checked, if_pos hlow]
      | tickMs hasked' hhigh hlow =>
          rw [hasked.unique hasked', Settings.checked, if_neg (by omega), if_pos hlow]
  · rw [heq, Except.error.injEq]
    constructor
    · rintro rfl
      exact .notInteger hfirst
    · intro h
      cases h with
      | notInteger hfirst' => rw [hfirst.unique hfirst']
      | maxTicks hasked => exact absurd hfirst hasked.not_firstOffending
      | tickMs hasked => exact absurd hfirst hasked.not_firstOffending

end Environment

namespace Console

variable {platform : Platform} {options : Options} {s : Settings} {d : Disk}

/-! ## Command lines -/

/-- The bindings of the settings file; none if there is no file. -/
def fileBindings (platform : Platform) (env : Environment) (d : Disk) : Bindings :=
  match readText d settingsFile with
  | .ok text => platform.bindings env text
  | .error _ => []

theorem load_of_loadSettingsFile (h : loadSettingsFile platform env d = .ok env') :
    env.load (fileBindings platform env d) = .ok env' := by
  unfold loadSettingsFile at h
  unfold fileBindings
  split at h
  · cases h
  · rename_i hread
    cases h
    rw [hread]
    rfl
  · rename_i text hread
    rw [hread]
    dsimp only
    cases hload : env.load (platform.bindings env text) with
    | error e => rw [hload] at h; cases h
    | ok e => rw [hload] at h; cases h; rfl

/-- The tick limit of a command line, over that of the environment. -/
def TickLimit.over (maxTicks : Int) : TickLimit → Int
  | .ticks n => n
  | .default | .blank => maxTicks

/-- Settings with what a command line changes in them. -/
def Options.changed (options : Options) (s : Settings) : Settings :=
  { s with
    maxTicks := options.maxTicks.over s.maxTicks
    stopWhenFinished := options.untilFinished || s.stopWhenFinished }

theorem limited_eq_ok {base : Settings} {limit : TickLimit} (hmax : 1 ≤ base.maxTicks)
    (htick : 1 ≤ base.tickMs) (h : limited base limit = .ok s) :
    s = { base with maxTicks := limit.over base.maxTicks } ∧ 1 ≤ s.maxTicks ∧ 1 ≤ s.tickMs := by
  cases limit with
  | default => cases h; exact ⟨rfl, hmax, htick⟩
  | blank => cases h
  | ticks n =>
      rw [limited] at h
      cases hchecked : Settings.checked { base with maxTicks := n } with
      | error e => rw [hchecked] at h; cases h
      | ok s' =>
          rw [hchecked] at h
          cases h
          exact Settings.checked_eq_ok_iff.mp hchecked

/-- Whatever the command line changes, both limits are positive. -/
theorem settingsFor_eq_ok (h : settingsFor env options = .ok s) :
    ∃ base, env.settings = .ok base ∧ s = options.changed base ∧ 1 ≤ s.maxTicks ∧ 1 ≤ s.tickMs := by
  unfold settingsFor at h
  cases hbase : env.settings with
  | error e => rw [hbase] at h; cases h
  | ok base =>
      obtain ⟨-, hmax, htick⟩ := Environment.settings_eq_ok_iff.mp hbase
      rw [hbase] at h
      simp only [Except.mapError, bind, Except.bind] at h
      cases hlimit : limited base options.maxTicks with
      | error e => rw [hlimit] at h; cases h
      | ok limit =>
          rw [hlimit] at h
          obtain ⟨rfl, hmax, htick⟩ := limited_eq_ok hmax htick hlimit
          cases huntil : options.untilFinished with
          | false =>
              rw [huntil] at h
              cases h
              exact ⟨base, rfl, by simp [Options.changed, huntil], hmax, htick⟩
          | true =>
              rw [huntil] at h
              cases h
              exact ⟨base, rfl, by simp [Options.changed, huntil], hmax, htick⟩

/-- A command line performs something with the settings that it got, or it prints nothing but help. -/
theorem runCommand_cases (platform : Platform) (words : List String) (env : Environment) (d : Disk) :
    (∃ env' options s, loadSettingsFile platform env d = .ok env' ∧
      Options.read words = .ok options ∧ settingsFor env' options = .ok s ∧
      runCommand platform words env d = perform platform options s { disk := d }) ∨
    (runCommand platform words env d).output = { disk := d } ∨
    (runCommand platform words env d).output = ({ disk := d } : Chart.Output).print helpText := by
  unfold runCommand
  cases hload : loadSettingsFile platform env d with
  | error cause => exact .inr (.inl rfl)
  | ok env' =>
      dsimp only
      cases hread : Options.read words with
      | error stop =>
          cases stop with
          | help => exact .inr (.inr rfl)
          | usage e => exact .inr (.inl rfl)
      | ok options =>
          dsimp only
          cases hsettings : settingsFor env' options with
          | error failure =>
              cases failure with
              | refused e => exact .inr (.inl rfl)
              | noTickLimit => exact .inr (.inl rfl)
          | ok s => exact .inl ⟨env', options, s, rfl, rfl, hsettings, rfl⟩

end Console

/-! ## Precedence -/

open Console in
/-- With a file loaded into an environment every setting comes from the first source that has it,
and settings are refused for the first text that is no integer or else for a number out of range.
The file is loaded unless a variable that is missing cannot be set to what the file gives it. A
command line plays with the settings that come out of this, changed by its options and never
without a positive tick limit and a positive period. -/
theorem settings_from_first_source (env : Environment) (bindings : Bindings) :
    ((∃ env', env.load bindings = .ok env') ↔ ∀ name text, env.get? name = none →
      lastBinding bindings name = some (some text) → Settable name text) ∧
    (∀ env', env.load bindings = .ok env' →
      let text := fun name => trim ((givenText env bindings name).getD "").toList
      (∀ s, env'.settings = .ok s ↔ Asked text s ∧ 1 ≤ s.maxTicks ∧ 1 ≤ s.tickMs) ∧
      ∀ e, env'.settings = .error e ↔ Refused text e) ∧
    ∀ platform words d,
      (∃ env' options s base, env.load (fileBindings platform env d) = .ok env' ∧
        Options.read words = .ok options ∧ env'.settings = .ok base ∧
        s = options.changed base ∧ 1 ≤ s.maxTicks ∧ 1 ≤ s.tickMs ∧
        runCommand platform words env d = perform platform options s { disk := d }) ∨
      (runCommand platform words env d).output = { disk := d } ∨
      (runCommand platform words env d).output = ({ disk := d } : Chart.Output).print helpText := by
  refine ⟨Environment.exists_load_iff, fun env' hload => ?_, fun platform words d => ?_⟩
  · have htext : env'.written = fun name => trim ((givenText env bindings name).getD "").toList :=
      funext fun name => by rw [Environment.written, Environment.get?_load hload]
    dsimp only
    rw [← htext]
    exact ⟨fun _ => Environment.settings_eq_ok_iff, fun _ => Environment.settings_eq_error_iff⟩
  · rcases runCommand_cases platform words env d with
      ⟨env', options, s, hload, hread, hsettings, hrun⟩ | hquiet
    · obtain ⟨base, hbase, hs, hmax, htick⟩ := settingsFor_eq_ok hsettings
      exact .inl ⟨env', options, s, base, load_of_loadSettingsFile hload, hread, hbase, hs, hmax,
        htick, hrun⟩
    · exact .inr hquiet

/-- A file that gives a variable a NUL is not loaded, though no setting has anything to do with
it. -/
theorem load_fails_at_nul :
    let bindings : Bindings := [("A", some "\x00")]
    Environment.load ∅ bindings = .error .nul ∧
    (∀ name ∈ "OMEGA_STOP_WHEN_FINISHED" :: integerNames, givenText ∅ bindings name = none) ∧
    Environment.settings ∅ = .ok {} := by
  decide +kernel

end TankArena
