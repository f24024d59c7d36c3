import TankArena.Chart.Replay
import TankArena.Proofs.Chart.Drawing
import TankArena.Proofs.Match.Iteration

/-!
# The board at the end of a match

The board is drawn from the last record. A match that keeps no records is drawn as it opened,
whatever happened in it.
-/

namespace TankArena.Match

theorem Simulation.inBounds_afterTicks {u v : Simulation} {k : Nat} (hu : u.world.InBounds)
    (h : u.afterTicks k = .ok v) : v.world.InBounds := by
  refine Simulation.afterTicks_induction (P := fun v => v.world.InBounds) hu
    (fun v executed w hv ht => ?_) h
  rw [← Simulation.ticked_of_tick ht]
  exact (Simulation.inBounds_ticked hv).1

end TankArena.Match

namespace TankArena.Chart

open Arena Machine Match Script Text

variable {typesetter : Typesetter} {settings : Settings} {keep : Bool} {program : Program}
  {v : Simulation} {ts : List Played}

def drawnWorld (keep : Bool) (v : Simulation) : World := if keep then v.world else .initial

/-- The title of the board at the end of a match, if the number in it can be written. -/
def resultTitle (r : Result) : String := r.winnerName ++ " after " ++ decimal r.ticks ++ " ticks"

theorem dollar_notMem_resultTitle (r : Result) : '$' ∉ (resultTitle r).toList := by
  have hname : '$' ∉ r.winnerName.toList := by
    unfold Result.winnerName
    split <;> decide
  simp only [resultTitle, String.toList_append, List.mem_append, not_or]
  exact ⟨⟨⟨hname, by decide⟩, notMem_decimal (by decide) (by decide) r.ticks⟩, by decide⟩

theorem endTitle_eq_ok {r : Result} (h : isWritable r.ticks = true) :
    endTitle r = .ok (resultTitle r) := telling_eq_ok_iff.mpr ⟨h, rfl⟩

theorem finalBoard_resultOf (h : Plays settings { program } ts v none)
    (hticks : isWritable (resultOf v ts keep).ticks = true) :
    finalBoard typesetter (resultOf v ts keep) =
      board typesetter (drawnWorld keep v) (some (resultTitle (resultOf v ts keep))) := by
  have hworld : ((resultOf v ts keep).history.getLast?.map Record.world).getD .initial =
      drawnWorld keep v := by
    cases keep with
    | false => rfl
    | true =>
        have hlast := h.getLast?_recorded
        rwa [recorded, List.getLast?_cons, List.getLast?_map, Option.some.injEq] at hlast
  -- Not by rfl: the kernel would unfold the board itself.
  rw [finalBoard, endTitle_eq_ok hticks, hworld]
  exact pure_bind (m := Except ChartError) _ _

/-- A match from the opening ends with a board, unless it took more ticks than can be told. If the
records are kept it shows both tanks as they are after the last tick, with the healths of the result.
Otherwise it shows the opening under the title of the end, and that is the end only if both tanks are
as they were at first. -/
theorem finalBoard_shows_end_iff (typesetter : Typesetter) (settings : Settings) (keep : Bool)
    (program : Program) :
    (program.IsRead → ∃ r, runFrom settings keep program .initial = .ok r) ∧
    ∀ r, runFrom settings keep program .initial = .ok r →
      (isWritable r.ticks = false → finalBoard typesetter r = .error .tooManyDigits) ∧
      (isWritable r.ticks = true → ∃ N v f,
        IsLeast {k | ∃ w, Simulation.afterTicks { program } k = .ok w ∧ w.Stops settings k} N ∧
        Simulation.afterTicks { program } N = .ok v ∧ r.TellsOf v ∧
        finalBoard typesetter r = .ok f ∧ f.title = resultTitle r ∧
        (∀ w, f.Shows w ↔
          w.actor = (drawnWorld keep v).actor ∧ w.opponent = (drawnWorld keep v).opponent) ∧
        (f.Shows v.world ↔ keep = true ∨
          v.world.actor = World.initial.actor ∧ v.world.opponent = World.initial.opponent) ∧
        (f.legend = healthLegend r.actorHealth r.opponentHealth ↔ keep = true ∨
          r.actorHealth = maxHealth ∧ r.opponentHealth = maxHealth)) := by
  refine ⟨fun hp => exists_runFrom_of_isRead settings keep hp World.onBoard_initial,
    fun r hr => ⟨fun hticks => ?_, fun hticks => ?_⟩⟩
  · rw [finalBoard, endTitle, telling_of_not_isWritable hticks]
    rfl
  obtain ⟨ts, v, hplays, rfl⟩ := exists_plays_of_runFrom hr
  have hv : v.world.InBounds :=
    Simulation.inBounds_afterTicks World.inBounds_initial hplays.afterTicks
  have hdrawn : (drawnWorld keep v).InBounds := by
    cases keep with
    | false => exact World.inBounds_initial
    | true => exact hv
  have hdollar := List.count_eq_zero.mpr (dollar_notMem_resultTitle (resultOf v ts keep))
  obtain ⟨f, hf, hshows, htitle⟩ :=
    exists_board typesetter hdrawn (Nat.le_succ_of_le (Nat.le_of_eq hdollar))
  refine ⟨ts.length, v, f, hplays.isLeast, hplays.afterTicks, ⟨rfl, rfl, rfl, rfl, rfl⟩,
    (finalBoard_resultOf hplays hticks).trans hf, htitle, fun w => hshows.shows_iff, ?_, ?_⟩
  · rw [hshows.shows_iff]
    cases keep with
    | false => simp [drawnWorld]
    | true => simp [drawnWorld]
  · rw [hshows.legend_eq_iff]
    cases keep with
    | false => simp [drawnWorld, resultOf, World.initial]
    | true => simp [drawnWorld, resultOf]

/-- After one tick of a move the board without records still shows the opening. -/
theorem finalBoard_shows_end_iff_move :
    let program : Program := { main := [.move (.literal 3) .forward] }
    Program.parse 1 "MOVE 3 FORWARD;" = .ok program ∧
    ∀ (typesetter : Typesetter) (keep : Bool), ∃ r v f,
      runFrom { maxTicks := 1 } keep program .initial = .ok r ∧
      Simulation.afterTicks { program } 1 = .ok v ∧ finalBoard typesetter r = .ok f ∧
      v.world.actor.y = 14 ∧ (f.Shows v.world ↔ keep = true) := by
  intro program
  let u : Simulation := { program }
  have hparse : Program.parse 1 "MOVE 3 FORWARD;" = .ok program :=
    parse_eq_ok_of_toOption (by decide +kernel)
  have hone : u.afterTicks 1 = .ok u.ticked := by decide
  have hleast : IsLeast {k | ∃ w, u.afterTicks k = .ok w ∧ w.Stops { maxTicks := 1 } k} 1 := by
    refine ⟨⟨u.ticked, hone, .inl (by decide)⟩, fun k ⟨w, hw, hstops⟩ => Nat.pos_of_ne_zero ?_⟩
    rintro rfl
    cases hw
    exact absurd hstops (Simulation.Goes.not_stops ⟨by decide, by decide⟩)
  refine ⟨hparse, fun typesetter keep => ?_⟩
  obtain ⟨hrun, hboard⟩ := finalBoard_shows_end_iff typesetter { maxTicks := 1 } keep program
  obtain ⟨r, hr⟩ := hrun ⟨1, _, hparse⟩
  have hticks : r.ticks = 1 := by
    rw [eq_run_of_runFrom hr]
    cases keep <;> decide
  obtain ⟨N, v, f, hN, hv, -, hf, -, -, hshows, -⟩ :=
    (hboard r hr).2 (by rw [hticks]; decide)
  cases hN.unique hleast
  cases hone.symm.trans hv
  have hmoved : u.ticked.world.actor ≠ World.initial.actor := by decide
  refine ⟨r, u.ticked, f, hr, hone, hf, by decide, hshows.trans ?_⟩
  simp [hmoved]

end TankArena.Chart
