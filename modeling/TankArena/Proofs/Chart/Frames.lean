import Mathlib.Algebra.Order.Floor.Div
import TankArena.Chart.Replay
import TankArena.Proofs.Chart.Drawing
import TankArena.Proofs.Disk
import TankArena.Proofs.Text.Decimal

/-!
# Frames of a replay

Every `n`-th record gives a frame. The name of its file tells its tick, so no two ticks share a file,
and the frames are all there once the last one is saved.
-/

namespace TankArena.Text

/-! ## Numbers filled with zeros -/

/-- The integer of a text that is filled with zeros after its sign. -/
def readPadded : List Char → Int
  | '-' :: t => -(Nat.ofDigitChars 10 t 0 : Nat)
  | t => (Nat.ofDigitChars 10 t 0 : Nat)

theorem toList_padLeft (fill : Char) (width : Nat) (s : String) :
    (padLeft fill width s).toList = List.replicate (width - s.length) fill ++ s.toList := by
  rw [padLeft, String.toList_append, String.toList_ofList]

theorem decimal_toNat {n : Int} (h : 0 ≤ n) : (decimal n).toList = Nat.toDigits 10 n.toNat := by
  obtain ⟨m, rfl⟩ := Int.eq_ofNat_of_zero_le h
  exact String.toList_ofList

theorem ofDigitChars_padLeft {n : Int} (h : 0 ≤ n) (width : Nat) :
    (Nat.ofDigitChars 10 (padLeft '0' width (decimal n)).toList 0 : Int) = n := by
  rw [toList_padLeft, decimal_toNat h, Nat.ofDigitChars_append, Nat.ofDigitChars_replicate_zero,
    Nat.mul_zero, Nat.ofDigitChars_toDigits (by decide) (by decide), Int.toNat_of_nonneg h]

theorem isDigit_of_mem_padLeft {n : Int} (h : 0 ≤ n) {width : Nat} {c : Char}
    (hc : c ∈ (padLeft '0' width (decimal n)).toList) : c.isDigit = true := by
  rw [toList_padLeft, decimal_toNat h] at hc
  rcases List.mem_append.mp hc with hc | hc
  · rw [List.eq_of_mem_replicate hc]
    rfl
  · exact Nat.isDigit_of_mem_toDigits (by decide) (by decide) hc

theorem readPadded_zeroPadded (width : Nat) (n : Int) :
    readPadded (zeroPadded width n).toList = n := by
  unfold zeroPadded
  split
  · have hvalue := ofDigitChars_padLeft (n := -n) (by omega) (width - 1)
    rw [String.toList_append]
    change -(Nat.ofDigitChars 10 (padLeft '0' (width - 1) (decimal (-n))).toList 0 : Int) = n
    rw [hvalue, Int.neg_neg]
  · rename_i hn
    have hn : 0 ≤ n := Int.not_lt.mp hn
    unfold readPadded
    split
    · rename_i t ht
      have hsign := isDigit_of_mem_padLeft hn (ht ▸ List.mem_cons_self)
      exact absurd hsign (by decide)
    · exact ofDigitChars_padLeft hn width

/-- However many digits they have, no two integers are filled to the same text. -/
theorem zeroPadded_inj {width : Nat} {m n : Int} :
    zeroPadded width m = zeroPadded width n ↔ m = n := by
  refine ⟨fun h => ?_, congrArg _⟩
  rw [← readPadded_zeroPadded width m, h, readPadded_zeroPadded]

theorem mem_zeroPadded {width : Nat} {n : Int} {c : Char} (h : c ∈ (zeroPadded width n).toList) :
    c = '-' ∨ c.isDigit = true := by
  unfold zeroPadded at h
  split at h
  · rw [String.toList_append] at h
    rcases List.mem_append.mp h with h | h
    · exact .inl (List.mem_singleton.mp h)
    · exact .inr (isDigit_of_mem_padLeft (by omega) h)
  · exact .inr (isDigit_of_mem_padLeft (by omega) h)

/-! ## Files of a directory -/

theorem intercalate_concat {α : Type} (sep : List α) (parts : List (List α)) (part : List α) :
    sep.intercalate (parts ++ [part]) = parts.flatMap (· ++ sep) ++ part := by
  induction parts with
  | nil => simp
  | cons p parts ih =>
      obtain ⟨q, qs, hqs⟩ := List.exists_cons_of_ne_nil (l := parts ++ [part]) (by simp)
      rw [List.cons_append, hqs, List.intercalate_cons_cons, ← hqs, ih, List.flatMap_cons]
      simp only [List.append_assoc]

/-- The paths of the files of a directory differ in the names behind the last slash only. -/
theorem Path.exists_toChars_child (s : String) : ∃ before : List Char,
    (before = [] ∨ ∃ q, before = q ++ ['/']) ∧
    ∀ name, ((Path.parse s).child name).toChars = before ++ name := by
  have hroot (t : List Char) : rootOf t = [] ∨ ∃ q, rootOf t = q ++ ['/'] := by
    unfold rootOf
    split
    · exact .inr ⟨[], rfl⟩
    · exact .inr ⟨['/'], rfl⟩
    · exact .inr ⟨[], rfl⟩
    · exact .inl rfl
  refine ⟨(Path.parse s).root ++ (Path.parse s).parts.flatMap (· ++ ['/']), ?_, fun name => ?_⟩
  · rcases List.eq_nil_or_concat (Path.parse s).parts with hparts | ⟨ps, p, hparts⟩
    · rw [hparts, List.flatMap_nil, List.append_nil]
      exact hroot _
    · refine .inr ⟨(Path.parse s).root ++ (ps.flatMap (· ++ ['/']) ++ p), ?_⟩
      rw [hparts, List.concat_eq_append, List.flatMap_append, List.flatMap_singleton]
      simp only [List.append_assoc]
  · simp [toChars, child, intercalate_concat]

end TankArena.Text

namespace TankArena.Chart

open Arena Match Text

variable {α : Type} {n k : Nat} {l : List α} {directory : String} {tick : Int} {d : Disk}
  {place : List String} {o o' : Output} {rec : Record} {recs : List Record}

/-! ## Strides -/

theorem getElem?_strideFrom (n skip : Nat) (hn : 0 < n) (l : List α) (k : Nat) :
    (strideFrom n skip l)[k]? = l[skip + k * n]? := by
  induction l generalizing skip k with
  | nil => simp [strideFrom]
  | cons a l ih =>
      cases skip with
      | zero =>
          cases k with
          | zero => simp [strideFrom]
          | succ k =>
              have hplace : 0 + (k + 1) * n = (n - 1 + k * n) + 1 := by
                rw [Nat.succ_mul]
                omega
              rw [strideFrom, List.getElem?_cons_succ, ih, hplace, List.getElem?_cons_succ]
      | succ skip =>
          rw [strideFrom, ih, Nat.succ_add, List.getElem?_cons_succ]

theorem getElem?_stride (hn : 0 < n) (l : List α) (k : Nat) :
    (stride n l)[k]? = l[k * n]? := by
  rw [stride, getElem?_strideFrom n 0 hn, Nat.zero_add]

theorem length_stride (hn : 0 < n) (l : List α) : (stride n l).length = l.length ⌈/⌉ n := by
  refine eq_of_forall_ge_iff fun k => ?_
  rw [ceilDiv_le_iff_le_mul hn, Nat.mul_comm, ← List.getElem?_eq_none_iff,
    getElem?_stride hn, List.getElem?_eq_none_iff]

theorem strideFrom_sublist (n skip : Nat) (l : List α) : (strideFrom n skip l).Sublist l := by
  induction l generalizing skip with
  | nil => cases skip <;> exact .slnil
  | cons a l ih =>
      cases skip with
      | zero => exact (ih _).cons_cons a
      | succ skip => exact (ih _).cons a

theorem stride_sublist (n : Nat) (l : List α) : (stride n l).Sublist l := strideFrom_sublist n 0 l

/-! ## Names of frames -/

/-- The file name of a frame, if the number in it can be written. -/
def frameFile (tick : Int) : String := "tick_" ++ zeroPadded 4 tick ++ ".png"

theorem frameName_eq_ok_iff {name : String} :
    frameName tick = .ok name ↔ isWritable tick = true ∧ name = frameFile tick := telling_eq_ok_iff

theorem frameFile_inj {a b : Int} : frameFile a = frameFile b ↔ a = b := by
  simp [frameFile, zeroPadded_inj]

theorem toList_frameFile (tick : Int) : (frameFile tick).toList =
    't' :: ("ick_".toList ++ (zeroPadded 4 tick).toList) ++ ".png".toList := by
  simp [frameFile, String.toList_append]

theorem slash_notMem_frameFile (tick : Int) : '/' ∉ (frameFile tick).toList := by
  rw [toList_frameFile]
  intro h
  rcases List.mem_append.mp h with h | h
  · rcases List.mem_cons.mp h with h | h
    · cases h
    · rcases List.mem_append.mp h with h | h
      · exact absurd h (by decide)
      · rcases mem_zeroPadded h with h | h
        · cases h
        · cases h
  · exact absurd h (by decide)

theorem descend_frameFile (place : List String) (tick : Int) :
    Disk.descend place (frameFile tick) = place ++ [frameFile tick] := by
  have hne (s : String) (h : s.toList.head? ≠ some 't') : frameFile tick ≠ s := by
    rintro rfl
    rw [toList_frameFile] at h
    exact h rfl
  simp [Disk.descend, hne "" (by decide), hne "." (by decide), hne ".." (by decide)]

/-! ## Files of frames -/

/-- The path of a frame in a directory. -/
def framePath (directory : Path) (tick : Int) : String :=
  (directory.child (frameFile tick).toList).text

theorem exists_toList_framePath (directory : String) : ∃ before : List Char,
    (before = [] ∨ ∃ q, before = q ++ ['/']) ∧
    ∀ tick, (framePath (.parse directory) tick).toList = before ++ (frameFile tick).toList := by
  obtain ⟨before, hbefore, hchild⟩ := Path.exists_toChars_child directory
  refine ⟨before, hbefore, fun tick => ?_⟩
  rw [framePath, Path.text, String.toList_ofList, hchild]

theorem framePath_inj {a b : Int} :
    framePath (.parse directory) a = framePath (.parse directory) b ↔ a = b := by
  obtain ⟨before, -, hpath⟩ := exists_toList_framePath directory
  rw [← String.toList_inj, hpath, hpath, List.append_cancel_left_eq, String.toList_inj,
    frameFile_inj]

/-- The path of a frame has an ending already. -/
theorem pictureFile_framePath (directory : String) (tick : Int) :
    pictureFile (framePath (.parse directory) tick) = .ok (framePath (.parse directory) tick) := by
  obtain ⟨before, hbefore, hpath⟩ := exists_toList_framePath directory
  have hname : ((before ++ (frameFile tick).toList).reverse.takeWhile (· ≠ '/')).reverse =
      (frameFile tick).toList := by
    have hall : ∀ c ∈ (frameFile tick).toList.reverse, (decide (c ≠ '/')) = true := by
      intro c hc
      rw [decide_eq_true_iff]
      rintro rfl
      exact slash_notMem_frameFile tick (List.mem_reverse.mp hc)
    rw [List.reverse_append, List.takeWhile_append_of_pos hall]
    rcases hbefore with rfl | ⟨q, rfl⟩ <;> simp
  have hending : extension? (framePath (.parse directory) tick).toList = some "png".toList := by
    rw [extension?, hpath, hname, toList_frameFile]
    simp
  rw [pictureFile, hending]
  rfl

theorem exists_locate_framePath (h : d.locate (framePath (.parse directory) tick) = .ok place) :
    ∃ above, place = above ++ [frameFile tick] := by
  obtain ⟨before, hbefore, hpath⟩ := exists_toList_framePath directory
  have hname : (frameFile tick).toList.splitOn '/' = [(frameFile tick).toList] :=
    List.splitOn_eq_singleton (slash_notMem_frameFile tick)
  obtain ⟨names, hnames⟩ : ∃ names,
      Disk.pathNames (framePath (.parse directory) tick) = names ++ [frameFile tick] := by
    rw [Disk.pathNames, hpath]
    rcases hbefore with rfl | ⟨q, rfl⟩
    · exact ⟨[], by simp [hname]⟩
    · refine ⟨(q.splitOn '/').map String.ofList, ?_⟩
      rw [List.append_assoc, List.singleton_append, List.splitOn_append_cons_self, hname]
      simp
  unfold Disk.locate at h
  split at h
  · cases h
  · split at h
    · cases h
    · rw [hnames] at h
      obtain ⟨above, rfl⟩ := Disk.exists_follow_concat h
      exact ⟨above, descend_frameFile above tick⟩

/-! ## Saving -/

/-- The path of the frame of a tick leads to a file of its name. -/
def HoldsFrame (d : Disk) (directory : Path) (tick : Int) : Prop :=
  ∃ above, d.locate (framePath directory tick) = .ok (above ++ [frameFile tick]) ∧
    d.entry? (above ++ [frameFile tick]) = some (.file [])

theorem framePath_ne_empty (directory : String) (tick : Int) :
    framePath (.parse directory) tick ≠ "" := by
  obtain ⟨before, -, hpath⟩ := exists_toList_framePath directory
  intro h
  have hnil : before ++ (frameFile tick).toList = [] := by
    rw [← hpath, h]
    rfl
  rw [toList_frameFile] at hnil
  exact absurd (List.append_eq_nil_iff.mp hnil).2 (List.cons_ne_nil _ _)

/-- What is left of saving one frame. -/
def Output.framed (o : Output) (f : Figure) (disk : Disk) (path : String) : Output :=
  { o with disk, figures := o.figures ++ [f] }.printLine ("Saved to " ++ path)

theorem finish_framePath (o : Output) (f : Figure) (directory : String) (tick : Int) :
    o.finish f (some (framePath (.parse directory) tick)) =
      ((o.disk.write (framePath (.parse directory) tick) []).mapError .disk).map fun disk =>
        o.framed f disk (framePath (.parse directory) tick) := by
  have hne := framePath_ne_empty directory tick
  have hfile := pictureFile_framePath directory tick
  generalize framePath (.parse directory) tick = path at hne hfile
  unfold Output.finish
  simp only [hfile]
  cases hwrite : o.disk.write path [] with
  | error e => simp [hwrite, bind, Except.bind, Except.mapError, Except.map]
  | ok disk =>
      simp [hwrite, bind, Except.bind, Except.mapError, Except.map, pure, Except.pure, Output.framed]

theorem draw_framePath_eq_ok_iff {drawn : Except ChartError Figure} :
    o.draw drawn (some (framePath (.parse directory) tick)) = .ok o' ↔
      ∃ f disk, drawn = .ok f ∧ o.disk.write (framePath (.parse directory) tick) [] = .ok disk ∧
        o' = o.framed f disk (framePath (.parse directory) tick) := by
  cases drawn with
  | error e => exact iff_of_false nofun fun ⟨_, _, h, _⟩ => nomatch h
  | ok f =>
      dsimp only [Output.draw]
      rw [finish_framePath]
      cases o.disk.write (framePath (.parse directory) tick) [] with
      | error e => exact iff_of_false nofun fun ⟨_, _, _, h, _⟩ => nomatch h
      | ok disk => simp [Except.mapError, Except.map, eq_comm]

theorem map_eq_ok_iff {ε α β : Type} {g : α → β} {x : Except ε α} {b : β} :
    x.map g = .ok b ↔ ∃ a, x = .ok a ∧ g a = b := by
  cases x <;> simp [Except.map]

/-- A frame can be saved to a disk: its tick can be told, its board can be drawn, and its file can be
written. -/
structure Savable (typesetter : Typesetter) (d : Disk) (directory : Path) (rec : Record) : Prop where
  tick : isWritable rec.tick = true
  drawn : ∃ f, board typesetter rec.world none = .ok f
  written : ∃ made, d.write (framePath directory rec.tick) [] = .ok made

variable {typesetter : Typesetter} {saved : String × Output}

theorem saveFrame_eq_ok_iff : saveFrame typesetter (.parse directory) o rec = .ok saved ↔
    ∃ f disk, isWritable rec.tick = true ∧ board typesetter rec.world none = .ok f ∧
      o.disk.write (framePath (.parse directory) rec.tick) [] = .ok disk ∧
      saved = (framePath (.parse directory) rec.tick,
        o.framed f disk (framePath (.parse directory) rec.tick)) := by
  unfold saveFrame
  generalize board typesetter rec.world none = drawn
  cases htick : isWritable rec.tick with
  | false =>
      rw [frameName, telling_of_not_isWritable htick]
      exact iff_of_false nofun fun ⟨_, _, h, _⟩ => nomatch h
  | true =>
      rw [frameName_eq_ok_iff.mpr ⟨htick, rfl⟩]
      have hpath : ((Path.parse directory).child (frameFile rec.tick).toList).text =
          framePath (.parse directory) rec.tick := rfl
      simp only [hpath, map_eq_ok_iff, draw_framePath_eq_ok_iff]
      constructor
      · rintro ⟨done, ⟨f, disk, hf, hdisk, rfl⟩, rfl⟩
        exact ⟨f, disk, trivial, hf, hdisk, rfl⟩
      · rintro ⟨f, disk, -, hf, hdisk, rfl⟩
        exact ⟨_, ⟨f, disk, hf, hdisk, rfl⟩, rfl⟩

theorem exists_saveFrame_iff :
    (∃ saved, saveFrame typesetter (.parse directory) o rec = .ok saved) ↔
      Savable typesetter o.disk (.parse directory) rec := by
  simp only [saveFrame_eq_ok_iff]
  constructor
  · rintro ⟨saved, f, made, htick, hf, hmade, -⟩
    exact ⟨htick, ⟨f, hf⟩, made, hmade⟩
  · rintro ⟨htick, ⟨f, hf⟩, made, hmade⟩
    exact ⟨_, f, made, htick, hf, hmade, rfl⟩

theorem savable_iff_of_sameDirectories {d d' : Disk} (h : Disk.SameDirectories d d') :
    Savable typesetter d' (.parse directory) rec ↔ Savable typesetter d (.parse directory) rec := by
  have hwrite : (∃ made, d'.write (framePath (.parse directory) rec.tick) [] = .ok made) ↔
      ∃ made, d.write (framePath (.parse directory) rec.tick) [] = .ok made := h.exists_write_iff
  constructor
  · rintro ⟨htick, hdrawn, hwritten⟩
    exact ⟨htick, hdrawn, hwrite.mp hwritten⟩
  · rintro ⟨htick, hdrawn, hwritten⟩
    exact ⟨htick, hdrawn, hwrite.mpr hwritten⟩

variable {paths : List String}

theorem saveFrames_cons_eq_ok_iff : saveFrames typesetter (.parse directory) o (rec :: recs) =
      .ok (paths, o') ↔
    ∃ path o₁ rest, saveFrame typesetter (.parse directory) o rec = .ok (path, o₁) ∧
      saveFrames typesetter (.parse directory) o₁ recs = .ok (rest, o') ∧ path :: rest = paths := by
  rw [saveFrames]
  cases saveFrame typesetter (.parse directory) o rec with
  | error e => exact iff_of_false nofun fun ⟨_, _, _, h, _⟩ => nomatch h
  | ok first =>
      obtain ⟨path, o₁⟩ := first
      simp [map_eq_ok_iff]

/-- Frames do not get in each other's way: each can be saved if it could be saved first. -/
theorem exists_saveFrames_iff :
    (∃ saved, saveFrames typesetter (.parse directory) o recs = .ok saved) ↔
      ∀ rec ∈ recs, Savable typesetter o.disk (.parse directory) rec := by
  induction recs generalizing o with
  | nil => exact ⟨fun _ => by simp, fun _ => ⟨([], o), rfl⟩⟩
  | cons rec recs ih =>
      have hlater {saved : String × Output}
          (h : saveFrame typesetter (.parse directory) o rec = .ok saved) :
          (∃ later, saveFrames typesetter (.parse directory) saved.2 recs = .ok later) ↔
            ∀ rec ∈ recs, Savable typesetter o.disk (.parse directory) rec := by
        obtain ⟨f, made, -, -, hmade, rfl⟩ := saveFrame_eq_ok_iff.mp h
        have hsame := Disk.sameDirectories_of_write hmade
        exact ih.trans (forall₂_congr fun r _ => savable_iff_of_sameDirectories hsame)
      rw [List.forall_mem_cons, ← exists_saveFrame_iff]
      constructor
      · rintro ⟨⟨paths, o'⟩, h⟩
        obtain ⟨path, o₁, rest, hfirst, hrest, -⟩ := saveFrames_cons_eq_ok_iff.mp h
        exact ⟨⟨_, hfirst⟩, (hlater hfirst).mp ⟨_, hrest⟩⟩
      · rintro ⟨⟨saved, hfirst⟩, hall⟩
        obtain ⟨⟨rest, o'⟩, hrest⟩ := (hlater hfirst).mpr hall
        exact ⟨_, saveFrames_cons_eq_ok_iff.mpr ⟨saved.1, saved.2, rest, hfirst, hrest, rfl⟩⟩

/-- The figures are the boards of the records, the paths are those of their ticks, and all the frames
are left on the disk. -/
theorem frames_of_saveFrames
    (h : saveFrames typesetter (.parse directory) o recs = .ok (paths, o')) :
    paths = recs.map (fun r => framePath (.parse directory) r.tick) ∧
    ∃ frames, o'.figures = o.figures ++ frames ∧
      List.Forall₂ (fun rec f => board typesetter rec.world none = .ok f) recs frames ∧
      ∀ rec ∈ recs, HoldsFrame o'.disk (.parse directory) rec.tick := by
  suffices hall : paths = recs.map (fun r => framePath (.parse directory) r.tick) ∧
      ∃ frames, o'.figures = o.figures ++ frames ∧
      List.Forall₂ (fun rec f => board typesetter rec.world none = .ok f) recs frames ∧
      Disk.SameDirectories o.disk o'.disk ∧
      (∀ place, o.disk.entry? place = some (.file []) →
        o'.disk.entry? place = some (.file [])) ∧
      ∀ rec ∈ recs, HoldsFrame o'.disk (.parse directory) rec.tick by
    obtain ⟨hpaths, frames, hfigures, hboards, -, -, hholds⟩ := hall
    exact ⟨hpaths, frames, hfigures, hboards, hholds⟩
  induction recs generalizing o paths with
  | nil =>
      cases h
      exact ⟨rfl, [], (List.append_nil _).symm, .nil, .refl _, fun _ => id, by simp⟩
  | cons rec recs ih =>
      obtain ⟨path, o₁, rest, hsave, hrest, rfl⟩ := saveFrames_cons_eq_ok_iff.mp h
      obtain ⟨rfl, frames, hfigures, hboards, hsame, hfiles, hholds⟩ := ih hrest
      obtain ⟨f, made, -, hf, hmade, hsaved⟩ := saveFrame_eq_ok_iff.mp hsave
      cases hsaved
      obtain ⟨place, hplace, hfile, hentries⟩ := Disk.entry?_of_write hmade
      refine ⟨rfl, f :: frames, ?_, .cons hf hboards,
        (Disk.sameDirectories_of_write hmade).trans hsame, fun other hother => ?_,
        List.forall_mem_cons.mpr ⟨?_, hholds⟩⟩
      · rw [hfigures]
        simp [Output.framed, Output.printLine, Output.print]
      · refine hfiles other ?_
        rcases hentries other with hkept | ⟨-, hnew⟩
        · exact hkept.trans hother
        · exact hnew
      · obtain ⟨above, rfl⟩ := exists_locate_framePath hplace
        have hlocate := (Disk.sameDirectories_of_write hmade).trans hsame
        exact ⟨above, hlocate.locate_eq_ok_iff.mpr hplace, hfiles _ hfile⟩

variable {history : List Record} {every : Nat}

theorem saveReplay_eq_ok_iff (hevery : 0 < every) :
    saveReplay typesetter o history directory every = .ok (paths, o') ↔
    ∃ disk, o.disk.ensureDirectories (.parse directory) = .ok disk ∧
      saveFrames typesetter (.parse directory) { o with disk } (stride every history) =
        .ok (paths, o') := by
  have hpos : ¬ (every : Int) < 1 := by omega
  rw [saveReplay, if_neg hpos, Int.toNat_natCast]
  dsimp only
  cases o.disk.ensureDirectories (.parse directory) with
  | error e => exact ⟨nofun, fun ⟨_, h, _⟩ => nomatch h⟩
  | ok disk =>
      simp only [Except.mapError, bind, Except.bind, Except.ok.injEq, exists_eq_left']
      cases saveFrames typesetter (.parse directory) { o with disk } (stride every history) with
      | error e => exact ⟨nofun, nofun⟩
      | ok done => simp

/-- A replay is saved exactly if its directory can be made and each frame it keeps can be saved
there. -/
theorem exists_saveReplay_iff (hevery : 0 < every) :
    (∃ saved, saveReplay typesetter o history directory every = .ok saved) ↔
    ∃ disk, o.disk.ensureDirectories (.parse directory) = .ok disk ∧
      ∀ rec ∈ stride every history, Savable typesetter disk (.parse directory) rec := by
  constructor
  · rintro ⟨⟨paths, o'⟩, h⟩
    obtain ⟨disk, hdisk, hsave⟩ := (saveReplay_eq_ok_iff hevery).mp h
    have hall := exists_saveFrames_iff.mp ⟨(paths, o'), hsave⟩
    exact ⟨disk, hdisk, hall⟩
  · rintro ⟨disk, hdisk, hall⟩
    obtain ⟨⟨paths, o'⟩, hsave⟩ : ∃ saved, saveFrames typesetter (.parse directory)
        { o with disk } (stride every history) = .ok saved := exists_saveFrames_iff.mpr hall
    exact ⟨_, (saveReplay_eq_ok_iff hevery).mpr ⟨disk, hdisk, hsave⟩⟩

end TankArena.Chart
