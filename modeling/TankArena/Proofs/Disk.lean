import TankArena.Disk.Basic
import TankArena.Proofs.Table

/-!
# Files written one after the other

A file can be written where its path leads to no directory, and it stands at that place with its bytes.
Writing makes and removes no directory, so it changes neither where a path leads nor which files can be
written.
-/

namespace TankArena.Disk

variable {d d' d'' : Disk} {path name : String} {place here : List String} {bytes : List UInt8}
  {names : List String}

/-! ## Writing -/

theorem write_eq_ok_iff : d.write path bytes = .ok d' ↔
    ∃ place, d.locate path = .ok place ∧ d.entry? place ≠ some .directory ∧
      d' = { d with entries := d.entries.insert (location place) (.file bytes) } := by
  unfold write
  cases d.locate path with
  | error e => exact ⟨nofun, fun ⟨_, h, _⟩ => nomatch h⟩
  | ok place =>
      simp only [bind, Except.bind, Except.ok.injEq, exists_eq_left']
      split
      · rename_i hdir
        exact ⟨nofun, fun ⟨h, _⟩ => absurd hdir h⟩
      · rename_i hdir
        exact ⟨fun h => ⟨hdir, (Except.ok.inj h).symm⟩, fun ⟨_, h⟩ => by rw [h]⟩

theorem exists_write_iff : (∃ d', d.write path bytes = .ok d') ↔
    ∃ place, d.locate path = .ok place ∧ d.entry? place ≠ some .directory := by
  constructor
  · rintro ⟨d', h⟩
    obtain ⟨place, hplace, hdir, -⟩ := write_eq_ok_iff.mp h
    exact ⟨place, hplace, hdir⟩
  · rintro ⟨place, hplace, hdir⟩
    exact ⟨_, write_eq_ok_iff.mpr ⟨place, hplace, hdir, rfl⟩⟩

theorem entry?_insert_file (d : Disk) (place other : List String) (bytes : List UInt8) :
    Disk.entry? { d with entries := d.entries.insert (location place) (.file bytes) } other =
      if isOpen other = false ∧ location other = location place then some (.file bytes)
      else d.entry? other := by
  unfold entry?
  rw [Table.get?_insert]
  cases isOpen other with
  | true => rfl
  | false => by_cases hloc : location other = location place <;> simp [hloc]

/-- The file stands where its path leads, and no directory has made room for it. -/
theorem entry?_of_write (h : d.write path bytes = .ok d') :
    ∃ place, d.locate path = .ok place ∧ d'.entry? place = some (.file bytes) ∧
      ∀ other, d'.entry? other = d.entry? other ∨
        d.entry? other ≠ some .directory ∧ d'.entry? other = some (.file bytes) := by
  obtain ⟨place, hplace, hdir, rfl⟩ := write_eq_ok_iff.mp h
  have hclosed : isOpen place = false := by
    unfold entry? at hdir
    exact Bool.eq_false_iff.mpr fun hopen => hdir (if_pos hopen)
  refine ⟨place, hplace, ?_, fun other => ?_⟩
  · rw [entry?_insert_file, if_pos ⟨hclosed, rfl⟩]
  · rw [entry?_insert_file]
    split
    · rename_i hother
      have hsame : d.entry? other = d.entry? place := by
        unfold entry?
        rw [hother.1, hother.2, hclosed]
      exact .inr ⟨hsame ▸ hdir, rfl⟩
    · exact .inl rfl

/-! ## Where paths lead -/

/-- Both disks have their directories at the same places. -/
def SameDirectories (d d' : Disk) : Prop :=
  ∀ place, d'.entry? place = some .directory ↔ d.entry? place = some .directory

theorem SameDirectories.refl (d : Disk) : SameDirectories d d := fun _ => Iff.rfl

theorem SameDirectories.trans (h : SameDirectories d d') (h' : SameDirectories d' d'') :
    SameDirectories d d'' := fun place => (h' place).trans (h place)

theorem sameDirectories_of_write (h : d.write path bytes = .ok d') : SameDirectories d d' := by
  obtain ⟨-, -, -, hentries⟩ := entry?_of_write h
  intro place
  rcases hentries place with hsame | ⟨hdir, hfile⟩
  · rw [hsame]
  · exact iff_of_false (by rw [hfile]; nofun) hdir

/-- A name can be followed from a directory only. -/
theorem follow_cons_eq_ok_iff : d.follow path here (name :: names) = .ok place ↔
    d.entry? here = some .directory ∧ name.utf8ByteSize ≤ maxNameBytes ∧
      d.follow path (descend here name) names = .ok place := by
  rw [follow]
  cases d.entry? here with
  | none => simp
  | some entry =>
      cases entry with
      | file bytes => simp
      | directory =>
          by_cases hlong : maxNameBytes < name.utf8ByteSize
          · simp [hlong, Nat.not_le.mpr hlong]
          · simp [hlong, Nat.not_lt.mp hlong]

theorem SameDirectories.follow_eq_ok_iff (h : SameDirectories d d') :
    d'.follow path here names = .ok place ↔ d.follow path here names = .ok place := by
  induction names generalizing here with
  | nil => rfl
  | cons name names ih => rw [follow_cons_eq_ok_iff, follow_cons_eq_ok_iff, h here, ih]

theorem SameDirectories.locate_eq_ok_iff (h : SameDirectories d d') :
    d'.locate path = .ok place ↔ d.locate path = .ok place := by
  unfold locate
  split
  · exact Iff.rfl
  · split
    · exact Iff.rfl
    · exact h.follow_eq_ok_iff

theorem SameDirectories.exists_write_iff (h : SameDirectories d d') :
    (∃ made, d'.write path bytes = .ok made) ↔ ∃ made, d.write path bytes = .ok made := by
  simp only [Disk.exists_write_iff, h.locate_eq_ok_iff, ne_eq, h _]

/-- A path whose last name is a plain one leads to a place of that name. -/
theorem exists_follow_concat (h : d.follow path here (names ++ [name]) = .ok place) :
    ∃ above, place = descend above name := by
  induction names generalizing here with
  | nil =>
      obtain ⟨-, -, hplace⟩ := follow_cons_eq_ok_iff.mp h
      exact ⟨here, (Except.ok.inj hplace).symm⟩
  | cons n names ih => exact ih (follow_cons_eq_ok_iff.mp h).2.2

end TankArena.Disk
