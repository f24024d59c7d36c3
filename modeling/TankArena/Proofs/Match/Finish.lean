import TankArena.Proofs.Match.Iteration

/-!
# Ticks of a finished program

In every tick the machine does something until its program is finished, and nothing from then on: the
opponent and the clock go on alone. A match that stops at the end of the program therefore plays no
idle tick, unless there was nothing to run in the first place.
-/

namespace TankArena.Match

open Arena Machine Script

variable {settings : Settings} {u v : Simulation} {executed : Bool} {fault? : Option Fault}
  {ts : List Played}

/-! ## One tick -/

theorem Tick.executed_eq_false_iff (h : Tick u executed v) (hover : u.isOver = false) :
    executed = false ↔ u.isFinished = true := by
  cases h with
  | ended h => rw [hover] at h; cases h
  | idle _ hstep => exact ⟨fun _ => step_eq_ok_none_iff.mp hstep, fun _ => rfl⟩
  | act _ ht =>
      refine ⟨fun h => (by cases h), fun hfinished => ?_⟩
      have hnone : step u.program u.state = .ok none := step_eq_ok_none_iff.mpr hfinished
      rw [step_eq_ok_some_iff.mpr ht] at hnone
      cases hnone

/-- A tick in which the machine does nothing leaves program and runtime alone. -/
theorem Tick.idle_eq (h : Tick u false v) : v.program = u.program ∧ v.runtime = u.runtime := by
  cases h <;> exact ⟨rfl, rfl⟩

theorem Tick.isFinished_eq (h : Tick u false v) : v.isFinished = u.isFinished := by
  obtain ⟨hprogram, hruntime⟩ := h.idle_eq
  rw [Simulation.isFinished, Simulation.isFinished, hprogram, hruntime]

theorem Simulation.tick_of_isFinished (hover : u.isOver = false) (h : u.isFinished = true) :
    u.tick = .ok (false, { u with world := afterStep u.world }) :=
  tick_eq_ok_iff.mpr (.idle hover (step_eq_ok_none_iff.mpr h))

theorem Simulation.exists_idle_iff (hover : u.isOver = false) :
    (∃ v, u.tick = .ok (false, v)) ↔ u.isFinished = true := by
  constructor
  · rintro ⟨v, ht⟩
    exact ((tick_eq_ok_iff.mp ht).executed_eq_false_iff hover).mp rfl
  · intro h
    exact ⟨_, Simulation.tick_of_isFinished hover h⟩

theorem Simulation.isFinished_start (program : Program) (start : World) :
    ({ program, world := start } : Simulation).isFinished = true ↔ program.main = [] := by
  simp [Simulation.isFinished, Runtime.isFinished]

/-! ## All ticks of a match -/

theorem Plays.idle_of_isFinished (h : Plays settings u ts v fault?) (hu : u.isFinished = true) :
    (∀ t ∈ ts, t.executed = false ∧ t.after.isFinished = true) ∧ v.isFinished = true := by
  induction h with
  | stop _ => exact ⟨fun t ht => (List.not_mem_nil ht).elim, hu⟩
  | fault _ _ => exact ⟨fun t ht => (List.not_mem_nil ht).elim, hu⟩
  | last hgoes ht _ hv =>
      have hidle := ((tick_eq_ok_iff.mp ht).executed_eq_false_iff hgoes.2).mpr hu
      exact ⟨List.forall_mem_singleton.mpr ⟨hidle, hv⟩, hv⟩
  | next hgoes ht _ _ ih =>
      have htick := tick_eq_ok_iff.mp ht
      have hidle := (htick.executed_eq_false_iff hgoes.2).mpr hu
      subst hidle
      have hv := htick.isFinished_eq.trans hu
      obtain ⟨hrest, hend⟩ := ih hv
      exact ⟨List.forall_mem_cons.mpr ⟨⟨rfl, hv⟩, hrest⟩, hend⟩

/-- By induction on the ticks: the first idle one finds the program finished, and it stays so. -/
theorem Plays.exists_replicate (h : Plays settings u ts v fault?) : ∃ m n,
    ts.map Played.executed = List.replicate m true ++ List.replicate n false ∧
      ts.countP Played.executed = m ∧ (0 < n → v.isFinished = true) := by
  induction h with
  | stop _ => exact ⟨0, 0, rfl, rfl, fun h => absurd h (Nat.lt_irrefl 0)⟩
  | fault _ _ => exact ⟨0, 0, rfl, rfl, fun h => absurd h (Nat.lt_irrefl 0)⟩
  | @last _ _ executed _ _ _ hv =>
      cases executed with
      | true => exact ⟨1, 0, rfl, rfl, fun _ => hv⟩
      | false => exact ⟨0, 1, rfl, rfl, fun _ => hv⟩
  | @next u v w executed ts fault? hgoes ht _ hrest ih =>
      cases executed with
      | true =>
          obtain ⟨m, n, hflags, hcount, hend⟩ := ih
          refine ⟨m + 1, n, ?_, ?_, hend⟩
          · rw [List.map_cons, hflags, List.replicate_succ, List.cons_append]
          · rw [List.countP_cons_of_pos rfl, hcount]
      | false =>
          have htick := tick_eq_ok_iff.mp ht
          have hv := htick.isFinished_eq.trans ((htick.executed_eq_false_iff hgoes.2).mp rfl)
          obtain ⟨hidle, hend⟩ := hrest.idle_of_isFinished hv
          refine ⟨0, ts.length + 1, ?_, ?_, fun _ => hend⟩
          · rw [List.map_cons, List.map_eq_replicate_iff.mpr fun t ht => (hidle t ht).1]
            rfl
          · rw [List.countP_cons_of_neg (by simp)]
            exact List.countP_eq_zero.mpr fun t ht => by simp [(hidle t ht).1]

theorem Plays.isFinished_of_idle (h : Plays settings u ts v fault?) :
    ∀ t ∈ ts, t.executed = false → t.after.isFinished = true := by
  intro t ht hidle
  obtain ⟨i, hi⟩ := List.mem_iff_getElem?.mp ht
  obtain ⟨w, -, hgoes, htick⟩ := h.getElem? hi
  have hover : w.isOver = false := Bool.eq_false_iff.mpr fun hover => hgoes (.inr (.inl hover))
  rw [hidle] at htick
  have hrule := tick_eq_ok_iff.mp htick
  rw [hrule.isFinished_eq]
  exact (hrule.executed_eq_false_iff hover).mp rfl

/-- A match that stops at the end of its program plays no tick after that. -/
theorem Plays.executed_of_stopWhenFinished (h : Plays settings u ts v fault?)
    (hstop : settings.stopWhenFinished = true) (hu : u.isFinished = false) :
    ∀ t ∈ ts, t.executed = true := by
  have hacts {u v : Simulation} {executed : Bool} (hgoes : u.Goes settings)
      (ht : u.tick = .ok (executed, v)) (hu : u.isFinished = false) : executed = true := by
    rw [← Bool.not_eq_false, (tick_eq_ok_iff.mp ht).executed_eq_false_iff hgoes.2, hu]
    exact Bool.false_ne_true
  induction h with
  | stop _ => exact fun t ht => (List.not_mem_nil ht).elim
  | fault _ _ => exact fun t ht => (List.not_mem_nil ht).elim
  | last hgoes ht _ _ => exact List.forall_mem_singleton.mpr (hacts hgoes ht hu)
  | next hgoes ht hlast _ ih =>
      have hv := Bool.eq_false_iff.mpr fun hv => hlast ⟨hstop, hv⟩
      exact List.forall_mem_cons.mpr ⟨hacts hgoes ht hu, ih hv⟩

theorem Plays.executed_of_empty (h : Plays settings u ts v fault?)
    (hstop : settings.stopWhenFinished = true) (hu : u.isFinished = true) :
    ts.map Played.executed = [] ∨ ts.map Played.executed = [false] := by
  have hidle := h.idle_of_isFinished hu
  cases h with
  | stop _ => exact .inl rfl
  | fault _ _ => exact .inl rfl
  | last _ _ _ _ =>
      rw [List.map_singleton, (hidle.1 _ List.mem_cons_self).1]
      exact .inr rfl
  | next _ _ hlast _ => exact absurd ⟨hstop, (hidle.1 _ List.mem_cons_self).2⟩ hlast

/-- A match comes to a fault only while its program runs. -/
theorem Plays.isFinished_of_fault {e : Fault} (h : Plays settings u ts v (some e)) :
    v.isFinished = false := by
  rcases h.ends with ⟨hnone, -⟩ | ⟨e', -, hgoes, htick⟩
  · cases hnone
  · have hover : v.isOver = false := Bool.eq_false_iff.mpr fun hover => hgoes (.inr (.inl hover))
    refine Bool.eq_false_iff.mpr fun hfinished => ?_
    rw [Simulation.tick_of_isFinished hover hfinished] at htick
    cases htick

/-- In a match the machine does something in a run of ticks and then nothing in the rest, which are
those of a finished program; the result counts the first, and a match with one of the others has a
result. A tick is idle exactly if the program was finished before it, and it leaves the runtime alone.
A match that stops at the end of its program has no idle tick, except for the one tick of a program
without statements. -/
theorem executed_until_finished (settings : Settings) (program : Program) (start : World) :
    let u : Simulation := { program, world := start }
    let ticks := played settings u
    (∃ m n, ticks.map Played.executed = List.replicate m true ++ List.replicate n false ∧
      ∀ keep, (∃ r, runFrom settings keep program start = .ok r ∧ r.statementsExecuted = m ∧
          (0 < n → r.programFinished = true) ∧
          (keep = true → r.history.map Record.executed = ticks.map Played.executed)) ∨
        (n = 0 ∧ ∃ e, runFrom settings keep program start = .error e)) ∧
    (∀ t ∈ ticks, t.executed = false → t.after.isFinished = true) ∧
    (∀ s : Simulation, s.isOver = false →
      ((∃ t, s.tick = .ok (false, t)) ↔ s.isFinished = true) ∧
      ∀ t, s.tick = .ok (false, t) → t.runtime = s.runtime) ∧
    (settings.stopWhenFinished = true →
      (program.main ≠ [] → ∀ t ∈ ticks, t.executed = true) ∧
      (program.main = [] → ticks.map Played.executed = [] ∨ ticks.map Played.executed = [false])) := by
  intro u ticks
  have hplays : Plays settings u ticks _ _ := plays_played settings u
  refine ⟨?_, hplays.isFinished_of_idle, fun s hover => ⟨Simulation.exists_idle_iff hover, ?_⟩,
    fun hstop => ⟨fun hmain => ?_, fun hmain => ?_⟩⟩
  · obtain ⟨m, n, hflags, hcount, hend⟩ := hplays.exists_replicate
    refine ⟨m, n, hflags, fun keep => ?_⟩
    rcases runFrom_of_played settings program start with ⟨-, hr⟩ | ⟨e, hfault, he⟩
    · refine .inl ⟨_, hr keep, hcount, hend, ?_⟩
      rintro rfl
      exact List.map_map
    · refine .inr ⟨Nat.eq_zero_of_not_pos fun hpos => ?_, e, he keep⟩
      have hrunning := hfault.isFinished_of_fault
      rw [hend hpos] at hrunning
      cases hrunning
  · intro t ht
    exact (tick_eq_ok_iff.mp ht).idle_eq.2
  · refine hplays.executed_of_stopWhenFinished hstop (Bool.eq_false_iff.mpr fun hfinished => ?_)
    exact hmain ((Simulation.isFinished_start program start).mp hfinished)
  · exact hplays.executed_of_empty hstop ((Simulation.isFinished_start program start).mpr hmain)

end TankArena.Match
