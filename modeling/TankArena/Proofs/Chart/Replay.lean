import TankArena.Match.Fields
import TankArena.Proofs.Chart.Ending
import TankArena.Proofs.Chart.Frames
import TankArena.Proofs.Match.Status

/-!
# Replays show the match

The worlds rebuilt from the records are those that were played, each has its tanks on two cells of the
grid or on one, and the frames of a replay show them in their order.
-/

namespace TankArena.Arena

variable {name : String} {facing : Facing} {f : TankFields} {t : Tank}

/-! ## Records as data -/

theorem Facing.ofName?_eq_some_iff : Facing.ofName? name = some facing ↔ facing.name = name := by
  constructor
  · intro h
    simpa using List.find?_some h
  · rintro rfl
    cases facing <;> rfl

theorem Tank.tank_fields (t : Tank) : t.fields.tank = .ok t := by
  have hfacing : Facing.ofName? t.facing.name = some t.facing :=
    Facing.ofName?_eq_some_iff.mpr rfl
  simp only [TankFields.tank, Tank.fields, hfacing]

/-- Data gives a tank only if it is the data of that tank. -/
theorem TankFields.tank_eq_ok_iff : f.tank = .ok t ↔ f = t.fields := by
  refine ⟨fun h => ?_, fun h => h ▸ t.tank_fields⟩
  unfold TankFields.tank at h
  split at h
  · rename_i facing hfacing
    cases h
    rw [Tank.fields, Facing.ofName?_eq_some_iff.mp hfacing]
  · cases h

end TankArena.Arena

namespace TankArena.Match

open Arena Machine Script

/-- Only the data of the tanks of a world gives that world. -/
theorem RecordFields.world_eq_ok_iff {f : RecordFields} {w : World} : f.world = .ok w ↔
    f.actor = w.actor.fields ∧ f.opponent = w.opponent.fields ∧ f.tick = w.tick ∧
      f.message = w.message := by
  rw [← TankFields.tank_eq_ok_iff, ← TankFields.tank_eq_ok_iff]
  unfold RecordFields.world
  cases f.actor.tank with
  | error e => exact iff_of_false nofun fun ⟨h, _⟩ => nomatch h
  | ok actor =>
      cases f.opponent.tank with
      | error e => exact iff_of_false nofun fun ⟨_, h, _⟩ => nomatch h
      | ok opponent =>
          obtain ⟨actor', opponent', tick, message⟩ := w
          simp [bind, Except.bind, pure, Except.pure]

/-- A record keeps its world, facings included, when they are given by their names. -/
theorem Record.world_fields (r : Record) : r.fields.world = .ok r.world :=
  RecordFields.world_eq_ok_iff.mpr ⟨rfl, rfl, rfl, rfl⟩

variable {settings : Settings} {program : Program} {start : World} {r : Result} {u v : Simulation}
  {k : Nat}

theorem Simulation.onBoard_afterTicks (hu : u.world.OnBoard) (h : u.afterTicks k = .ok v) :
    v.world.OnBoard := by
  refine Simulation.afterTicks_induction (P := fun v => v.world.OnBoard) hu
    (fun v executed w hv ht => ?_) h
  rw [← Simulation.ticked_of_tick ht]
  exact Simulation.onBoard_ticked hv

/-- Record `i` holds the world after `i + 1` ticks, which the clock tells. -/
theorem exists_afterTicks_of_record (hr : runFrom settings true program start = .ok r) {i : Nat}
    (hi : i < r.history.length) :
    ∃ v, Simulation.afterTicks { program, world := start } (i + 1) = .ok v ∧
      r.history[i].world = v.world ∧ v.world.tick = start.tick + i + 1 := by
  obtain ⟨ts, v, hplays, rfl⟩ := exists_plays_of_runFrom hr
  have hlen : i < ts.length := by simpa [resultOf] using hi
  obtain ⟨-, executed, w, -, -, hw, hclock, hrecord⟩ := hplays.record hlen
  refine ⟨w, hw, ?_, hclock⟩
  obtain ⟨_, hget⟩ := List.getElem?_eq_some_iff.mp hrecord
  exact congrArg Record.world hget

/-- The clock goes on with every record. -/
theorem nodup_ticks (hr : runFrom settings true program start = .ok r) :
    (r.history.map Record.tick).Nodup := by
  refine List.pairwise_iff_getElem.mpr fun i j hi hj hlt => ?_
  rw [List.length_map] at hi hj
  obtain ⟨v, -, hv, hclock⟩ := exists_afterTicks_of_record hr hi
  obtain ⟨w, -, hw, hclock'⟩ := exists_afterTicks_of_record hr hj
  have hi : r.history[i].tick = start.tick + i + 1 := (congrArg World.tick hv).trans hclock
  have hj : r.history[j].tick = start.tick + j + 1 := (congrArg World.tick hw).trans hclock'
  rw [List.getElem_map, List.getElem_map, hi, hj]
  omega

end TankArena.Match

namespace TankArena.Chart

open Arena Machine Match Script Text

variable {w : World} {t : Tank}

/-! ## Occupied cells -/

/-- The value in a column of a row. -/
def cellAt (rows : List (List Nat)) (x y : Nat) : Option Nat := rows[y]?.bind (·[x]?)

/-- The grid has the cells of the board, with a 2 at the opponent, a 1 at the actor if it is not on the
same cell, and zeros elsewhere. -/
structure Marks (rows : List (List Nat)) (w : World) : Prop where
  outside : ∀ x y : Nat, cellAt rows x y = none ↔ ¬ (x < gridSize ∧ y < gridSize)
  opponent : ∀ x y : Nat, cellAt rows x y = some 2 ↔ w.opponent.x = x ∧ w.opponent.y = y
  actor : ∀ x y : Nat, cellAt rows x y = some 1 ↔
    (w.actor.x = x ∧ w.actor.y = y) ∧ ¬ (w.opponent.x = x ∧ w.opponent.y = y)
  empty : ∀ x y : Nat, cellAt rows x y = some 0 ↔ (x < gridSize ∧ y < gridSize) ∧
    ¬ (w.actor.x = x ∧ w.actor.y = y) ∧ ¬ (w.opponent.x = x ∧ w.opponent.y = y)

theorem gridCell_of_onBoard (h : t.OnBoard) : gridCell t = .ok (t.y.toNat, t.x.toNat) := by
  obtain ⟨hleft, hright, htop, hbottom⟩ := h
  have hindex {i : Int} (axis : Nat) (hlow : 0 ≤ i) (hhigh : i < gridSize) :
      gridWord i = .ok i ∧ gridIndex axis i = .ok i.toNat := by
    unfold gridSize at hhigh
    exact ⟨if_pos (by omega), if_pos ⟨hlow, hhigh⟩⟩
  obtain ⟨hx, hcolumn⟩ := hindex 1 hleft hright
  obtain ⟨hy, hrow⟩ := hindex 0 htop hbottom
  simp only [gridCell, hx, hy, bind, Except.bind, hrow, hcolumn]
  rfl

theorem cellAt_range (f : Nat → Nat → Nat) (n x y : Nat) :
    cellAt ((List.range n).map fun row => (List.range n).map (f row)) x y =
      if x < n ∧ y < n then some (f y x) else none := by
  unfold cellAt
  by_cases hy : y < n
  · by_cases hx : x < n
    · simp [hx, hy]
    · simp [hx, hy]
  · simp [hy]

/-- What a value says if it was chosen by these conditions, of which the last two each imply the
first. -/
theorem mark_iff {inside opponent actor : Prop} [Decidable inside] [Decidable opponent]
    [Decidable actor] {value : Option Nat} (ho : opponent → inside) (ha : actor → inside)
    (h : value = if inside then some (if opponent then 2 else if actor then 1 else 0) else none) :
    (value = none ↔ ¬ inside) ∧ (value = some 2 ↔ opponent) ∧
    (value = some 1 ↔ actor ∧ ¬ opponent) ∧
    (value = some 0 ↔ inside ∧ ¬ actor ∧ ¬ opponent) := by
  subst h
  by_cases hi : inside
  · by_cases ho' : opponent
    · simp [hi, ho']
    · by_cases ha' : actor <;> simp [hi, ho', ha']
  · simp [hi, mt ho hi, mt ha hi]

/-- Two tanks on the board mark their cells, whether or not they share one. -/
theorem exists_occupancy (hw : w.OnBoard) : ∃ rows, occupancy w = .ok rows ∧ Marks rows w := by
  have hat {t : Tank} (ht : t.OnBoard) (x y : Nat) :
      (y, x) = (t.y.toNat, t.x.toNat) ↔ t.x = x ∧ t.y = y := by
    have := ht.left
    have := ht.top
    rw [Prod.mk.injEq]
    omega
  have hin {t : Tank} (ht : t.OnBoard) {x y : Nat} (h : t.x = x ∧ t.y = y) :
      x < gridSize ∧ y < gridSize := ⟨h.1 ▸ ht.right, h.2 ▸ ht.bottom⟩
  have hsize (x y : Nat) : (x < gridSize.toNat ∧ y < gridSize.toNat) ↔
      ((x : Int) < gridSize ∧ (y : Int) < gridSize) := by
    unfold gridSize
    omega
  let value (y x : Nat) : Nat :=
    if (y, x) = (w.opponent.y.toNat, w.opponent.x.toNat) then 2
    else if (y, x) = (w.actor.y.toNat, w.actor.x.toNat) then 1 else 0
  let rows := (List.range gridSize.toNat).map fun y => (List.range gridSize.toNat).map (value y)
  have hrows : occupancy w = .ok rows := by
    simp only [occupancy, gridCell_of_onBoard hw.actor, gridCell_of_onBoard hw.opponent, bind,
      Except.bind]
    rfl
  have hmarks (x y : Nat) := mark_iff (hin hw.opponent (x := x) (y := y)) (hin hw.actor)
    (show cellAt rows x y = _ by
      simp only [rows, cellAt_range, value, hsize, hat hw.opponent, hat hw.actor])
  exact ⟨rows, hrows, fun x y => (hmarks x y).1, fun x y => (hmarks x y).2.1,
    fun x y => (hmarks x y).2.2.1, fun x y => (hmarks x y).2.2.2⟩

/-! ## Frames -/

variable {typesetter : Typesetter} {settings : Settings} {program : Program} {start : World}
  {r : Result} {f : Figure} {every k : Nat} {o done : Output} {directory : String}
  {paths : List String}

theorem title_of_board (h : board typesetter w none = .ok f) : isWritable w.tick = true ∧
    checkText typesetter (worldTitle w) = .ok () ∧ f.title = worldTitle w := by
  unfold board at h
  cases hactor : drawTank w.actor actorColor with
  | error e => rw [hactor] at h; cases h
  | ok actor =>
      cases hopponent : drawTank w.opponent opponentColor with
      | error e => rw [hactor, hopponent] at h; cases h
      | ok opponent =>
          rw [hactor, hopponent] at h
          simp only [bind, Except.bind, Option.map_none, Option.getD_none] at h
          cases htitle : boardTitle w with
          | error e => rw [htitle] at h; cases h
          | ok title =>
              obtain ⟨htick, rfl⟩ := boardTitle_eq_ok_iff.mp htitle
              rw [htitle] at h
              dsimp only at h
              cases hcheck : checkText typesetter (worldTitle w) with
              | error e => rw [hcheck] at h; cases h
              | ok _ => rw [hcheck] at h; cases h; exact ⟨htick, rfl, rfl⟩

/-- A board that is drawn shows the tanks if they are in bounds. -/
theorem shows_of_board (hw : w.InBounds) (h : board typesetter w none = .ok f) : f.Shows w := by
  obtain ⟨htick, hcheck, -⟩ := title_of_board h
  obtain ⟨g, hg, hshows, -⟩ := exists_board_of_checkText hw hcheck
  rw [board_none_eq (boardTitle_eq_ok_iff.mpr ⟨htick, rfl⟩), hg] at h
  cases h
  exact hshows

theorem dollarSigns_worldTitle (h : dollarSigns w.message ≤ 1) : dollarSigns (worldTitle w) ≤ 1 := by
  have hready : dollarSigns "Ready." = 0 := by decide
  have htick : dollarSigns "Tick " = 0 := by decide
  have hcolon : dollarSigns ": " = 0 := by decide
  simp only [worldTitle, dollarSigns_append, dollarSigns_decimal, htick, hcolon]
  split
  · rw [hready]
    decide
  · omega

/-- Only a tick that cannot be told or a status line with two dollar signs keeps a board in bounds
from being drawn. -/
theorem exists_board_iff (hw : w.InBounds) (h : dollarSigns w.message ≤ 1) :
    (∃ f, board typesetter w none = .ok f) ↔ isWritable w.tick = true := by
  constructor
  · rintro ⟨f, hf⟩
    exact (title_of_board hf).1
  · intro htick
    rw [board_none_eq (boardTitle_eq_ok_iff.mpr ⟨htick, rfl⟩)]
    obtain ⟨f, hf, -⟩ := exists_board typesetter hw (dollarSigns_worldTitle h)
    exact ⟨f, hf⟩

/-- Frames of a match, saved under these paths: frame `k` shows the world after `k * every + 1`
ticks. -/
structure Replays (typesetter : Typesetter) (u : Simulation) (every : Nat) (directory : Path)
    (paths : List String) (frames : List Figure) (disk : Disk) : Prop where
  length_paths : paths.length = frames.length
  nodup : paths.Nodup
  shows : ∀ k (hk : k < frames.length), ∃ v, u.afterTicks (k * every + 1) = .ok v ∧
    board typesetter v.world none = .ok frames[k] ∧ frames[k].title = worldTitle v.world ∧
    (u.world.InBounds → frames[k].Shows v.world) ∧
    paths[k]? = some (framePath directory v.world.tick) ∧
    HoldsFrame disk directory v.world.tick

theorem exists_afterTicks_of_stride (hr : runFrom settings true program start = .ok r)
    (hevery : 0 < every) {rec : Record} (hrec : (stride every r.history)[k]? = some rec) :
    ∃ v, Simulation.afterTicks { program, world := start } (k * every + 1) = .ok v ∧
      rec.world = v.world := by
  rw [getElem?_stride hevery] at hrec
  obtain ⟨hlt, rfl⟩ := List.getElem?_eq_some_iff.mp hrec
  obtain ⟨v, hv, hworld, -⟩ := exists_afterTicks_of_record hr hlt
  exact ⟨v, hv, hworld⟩

theorem exists_replays (hr : runFrom settings true program start = .ok r) (hevery : 0 < every)
    (hsave : saveReplay typesetter o r.history directory every = .ok (paths, done)) :
    ∃ frames, done.figures = o.figures ++ frames ∧
      frames.length = r.history.length ⌈/⌉ every ∧
      Replays typesetter { program, world := start } every (.parse directory) paths frames
        done.disk := by
  obtain ⟨disk, -, hsaved⟩ := (saveReplay_eq_ok_iff hevery).mp hsave
  obtain ⟨rfl, frames, hfigures, hboards, hholds⟩ := frames_of_saveFrames hsaved
  have hlength := hboards.length_eq
  refine ⟨frames, hfigures, hlength.symm.trans (length_stride hevery _), ?_, ?_, fun k hk => ?_⟩
  · rw [List.length_map, hlength]
  · have hticks := (nodup_ticks hr).sublist ((stride_sublist every r.history).map Record.tick)
    have hpaths := hticks.map (f := framePath (.parse directory)) fun a b h => framePath_inj.mp h
    rwa [List.map_map] at hpaths
  · have hk' : k < (stride every r.history).length := hlength ▸ hk
    have hrec := List.getElem?_eq_getElem hk'
    obtain ⟨v, hv, hworld⟩ := exists_afterTicks_of_stride hr hevery hrec
    have htick : (stride every r.history)[k].tick = v.world.tick := congrArg World.tick hworld
    have hboard : board typesetter v.world none = .ok frames[k] := hworld ▸ hboards.get hk' hk
    refine ⟨v, hv, hboard, (title_of_board hboard).2.2, fun hstart => ?_, ?_, ?_⟩
    · exact shows_of_board (Simulation.inBounds_afterTicks hstart hv) hboard
    · rw [List.getElem?_map, hrec, Option.map_some, htick]
    · exact htick ▸ hholds _ (List.getElem_mem hk')

/-- Every match from a world with both tanks on the board is told by its records: the world rebuilt
from record `i` is the one after `i + 1` ticks, and both tanks have a cell of the grid. A replay shows
the ticks it keeps, each in a file of its own. It is saved unless one of these ticks cannot be told, a
board cannot be drawn or the disk refuses a file. With a program that was read, tanks in bounds and no
two dollar signs in the first status line a board can be drawn at every tick that can be told. -/
theorem replay_shows_match (typesetter : Typesetter) (settings : Settings) (program : Program)
    {start : World} (hstart : start.OnBoard) :
    let u : Simulation := { program, world := start }
    (program.IsRead → ∃ r, runFrom settings true program start = .ok r) ∧
    (program.IsRead → start.InBounds → dollarSigns start.message ≤ 1 →
      ∀ k v, u.afterTicks k = .ok v →
        ((∃ f, board typesetter v.world none = .ok f) ↔ isWritable v.world.tick = true)) ∧
    ∀ r, runFrom settings true program start = .ok r →
      (∀ i (hi : i < r.history.length), ∃ v rows, u.afterTicks (i + 1) = .ok v ∧
        r.history[i].fields.world = .ok v.world ∧
        occupancy v.world = .ok rows ∧ Marks rows v.world) ∧
      ∀ (every : Nat) (o : Output) (directory : String), 0 < every →
        ((∃ saved, saveReplay typesetter o r.history directory every = .ok saved) ↔
          ∃ disk, o.disk.ensureDirectories (.parse directory) = .ok disk ∧
            ∀ k, k * every < r.history.length → ∃ v, u.afterTicks (k * every + 1) = .ok v ∧
              isWritable v.world.tick = true ∧
              (∃ f, board typesetter v.world none = .ok f) ∧
              ∃ made, disk.write (framePath (.parse directory) v.world.tick) [] = .ok made) ∧
        ∀ paths done, saveReplay typesetter o r.history directory every = .ok (paths, done) →
          ∃ frames, done.figures = o.figures ++ frames ∧
            frames.length = r.history.length ⌈/⌉ every ∧
            Replays typesetter u every (.parse directory) paths frames done.disk := by
  intro u
  refine ⟨fun hp => exists_runFrom_of_isRead settings true hp hstart,
    fun hp hbounds hdollars k v hv => ?_, fun r hr => ⟨fun i hi => ?_, ?_⟩⟩
  · exact exists_board_iff (Simulation.inBounds_afterTicks hbounds hv)
      (Simulation.dollarSigns_afterTicks hp hdollars hv)
  · obtain ⟨v, hv, hworld, -⟩ := exists_afterTicks_of_record hr hi
    obtain ⟨rows, hrows, hmarks⟩ := exists_occupancy (Simulation.onBoard_afterTicks hstart hv)
    exact ⟨v, rows, hv, hworld ▸ r.history[i].world_fields, hrows, hmarks⟩
  · intro every o directory hevery
    refine ⟨?_, fun paths done hsave => exists_replays hr hevery hsave⟩
    rw [exists_saveReplay_iff hevery]
    refine exists_congr fun disk => and_congr_right fun _ => ?_
    constructor
    · intro hall k hk
      have hrec : (stride every r.history)[k]? = some r.history[k * every] := by
        rw [getElem?_stride hevery, List.getElem?_eq_getElem hk]
      obtain ⟨v, hv, hworld⟩ := exists_afterTicks_of_stride hr hevery hrec
      obtain ⟨htold, hdrawn, hwritten⟩ := hall _ (List.mem_of_getElem? hrec)
      have htick : r.history[k * every].tick = v.world.tick := congrArg World.tick hworld
      exact ⟨v, hv, htick ▸ htold, hworld ▸ hdrawn, htick ▸ hwritten⟩
    · intro hall rec hmem
      obtain ⟨k, hrec⟩ := List.mem_iff_getElem?.mp hmem
      have hk : k * every < r.history.length := by
        rw [getElem?_stride hevery] at hrec
        exact (List.getElem?_eq_some_iff.mp hrec).1
      obtain ⟨v, hv, htold, hdrawn, hwritten⟩ := hall k hk
      obtain ⟨w, hw, hworld⟩ := exists_afterTicks_of_stride hr hevery hrec
      cases hv.symm.trans hw
      have htick : rec.tick = v.world.tick := congrArg World.tick hworld
      exact ⟨htick ▸ htold, hworld ▸ hdrawn, htick ▸ hwritten⟩

/-- Every second tick of a match of three, saved on an empty disk. -/
theorem replay_shows_match_move : ∃ (typesetter : Typesetter) (program : Program) (r : Result)
    (paths : List String) (done : Output), typesetter = .plainOnly "refused" ∧
    Program.parse 1 "MOVE 3 FORWARD;" = .ok program ∧ World.initial.OnBoard ∧
    runFrom { maxTicks := 3 } true program .initial = .ok r ∧ r.history.length = 3 ∧
    saveReplay typesetter {} r.history "d" 2 = .ok (paths, done) ∧ done.figures.length = 2 ∧
    Replays typesetter { program } 2 (.parse "d") paths done.figures done.disk := by
  let typesetter : Typesetter := .plainOnly "refused"
  let program : Program := { main := [.move (.literal 3) .forward] }
  let r : Result := run { maxTicks := 3 } true program .initial
  have hparse : Program.parse 1 "MOVE 3 FORWARD;" = .ok program :=
    parse_eq_ok_of_toOption (by decide +kernel)
  obtain ⟨hrun, -, hreplay⟩ :=
    replay_shows_match typesetter { maxTicks := 3 } program World.onBoard_initial
  obtain ⟨r', hr⟩ := hrun ⟨1, _, hparse⟩
  obtain rfl : r' = r := eq_run_of_runFrom hr
  have hlength : r.history.length = 3 := by decide +kernel
  obtain ⟨paths, done, hsave⟩ :
      ∃ paths done, saveReplay typesetter {} r.history "d" 2 = .ok (paths, done) := by
    have hok : (saveReplay typesetter {} r.history "d" 2).isOk = true := by decide +kernel
    cases hsave : saveReplay typesetter {} r.history "d" 2 with
    | error e => rw [hsave] at hok; cases hok
    | ok saved => exact ⟨saved.1, saved.2, rfl⟩
  obtain ⟨frames, hfigures, hframes, hshows⟩ := ((hreplay r hr).2 2 {} "d" (by decide)).2 _ _ hsave
  obtain rfl : done.figures = frames := hfigures
  refine ⟨typesetter, program, r, paths, done, rfl, hparse, World.onBoard_initial, hr, hlength,
    hsave, ?_, hshows⟩
  rw [hframes, hlength]
  rfl

/-- The last tick before a limit is recorded with the limit for its time. -/
theorem exists_run_of_last_tick (n : Int) : ∃ r rec,
    runFrom { maxTicks := n } true {} { World.initial with tick := n - 1 } = .ok r ∧
      r.history = [rec] ∧ rec.tick = n := by
  let start : World := { World.initial with tick := n - 1 }
  let u : Simulation := { program := {}, world := start }
  have hleft : ticksLeft { maxTicks := n } u = 1 := by
    change (n - (n - 1)).toNat = 1
    omega
  have hfault : faultWithin { maxTicks := n } (ticksLeft { maxTicks := n } u) u = none := by
    rw [hleft]
    rfl
  have hplayed : played { maxTicks := n } u = [⟨false, u.ticked⟩] := by
    rw [played, hleft]
    rfl
  have hrun : runFrom { maxTicks := n } true {} start = .ok (run { maxTicks := n } true {} start) := by
    simp only [runFrom]
    rw [hfault]
  refine ⟨_, (Played.mk false u.ticked).record, hrun, ?_, ?_⟩
  · change (played { maxTicks := n } u).map Played.record = _
    rw [hplayed]
    rfl
  · change n - 1 + 1 = n
    omega

/-- A title that is refused keeps a replay from being saved, and so does a tick with too many digits to
be told. -/
theorem replay_fails_at_title :
    (∃ (program : Program) (r : Result), program = { main := [.call "$$"] } ∧
      World.initial.OnBoard ∧ runFrom { maxTicks := 1 } true program .initial = .ok r ∧
      r.history.length = 1 ∧
      (∀ (typesetter : Typesetter) (reason : String),
        typesetter.set "Tick 1: CALL $$" = .error reason →
        ∀ saved, saveReplay typesetter {} r.history "d" 1 ≠ .ok saved) ∧
      Typesetter.set (.plainOnly "refused") "Tick 1: CALL $$" = .error "refused") ∧
    ∃ (start : World) (r : Result), start.OnBoard ∧ start.tick = 10 ^ 4300 - 1 ∧
      runFrom { maxTicks := 10 ^ 4300 } true {} start = .ok r ∧ r.history.length = 1 ∧
      ∀ typesetter saved, saveReplay typesetter {} r.history "d" 1 ≠ .ok saved := by
  constructor
  · let program : Program := { main := [.call "$$"] }
    let r : Result := run { maxTicks := 1 } true program .initial
    have hfault : faultWithin { maxTicks := 1 } (ticksLeft { maxTicks := 1 } { program })
        { program } = none := by decide +kernel
    have hrun : runFrom { maxTicks := 1 } true program .initial = .ok r := by
      simp only [runFrom, hfault, r]
    have htitles : r.history.map (fun rec => worldTitle rec.world) = ["Tick 1: CALL $$"] := by
      decide +kernel
    obtain ⟨rec, hrec, htitle⟩ := List.map_eq_singleton_iff.mp htitles
    refine ⟨program, r, rfl, World.onBoard_initial, hrun, by rw [hrec]; rfl, ?_, by decide⟩
    intro typesetter reason hset saved hsave
    obtain ⟨disk, -, hall⟩ := (exists_saveReplay_iff Nat.one_pos).mp ⟨saved, hsave⟩
    obtain ⟨f, hf⟩ := (hall rec (by rw [hrec]; exact List.mem_singleton.mpr rfl)).drawn
    have hcheck := (title_of_board hf).2.1
    rw [htitle, checkText, hset] at hcheck
    cases hcheck
  · obtain ⟨r, rec, hrun, hhistory, htick⟩ := exists_run_of_last_tick (10 ^ 4300)
    refine ⟨{ World.initial with tick := 10 ^ 4300 - 1 }, r,
      ⟨World.onBoard_initial.actor, World.onBoard_initial.opponent⟩, rfl, hrun,
      by rw [hhistory]; rfl, ?_⟩
    intro typesetter saved hsave
    obtain ⟨disk, -, hall⟩ := (exists_saveReplay_iff Nat.one_pos).mp ⟨saved, hsave⟩
    have htold := (hall rec (by rw [hhistory]; exact List.mem_singleton.mpr rfl)).tick
    rw [htick, isWritable_pow (by decide)] at htold
    cases htold

end TankArena.Chart
