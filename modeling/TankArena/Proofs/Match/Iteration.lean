import Mathlib.Order.Bounds.Basic
import TankArena.Match.Run
import TankArena.Proofs.Match.Origin

/-!
# Matches as iterated ticks

A match plays tick after tick and is cut at the first state that stops it. What its ticks can be is
said once, by the rules of `Plays`; what a result tells of the match is read off these rules.
-/

namespace TankArena.Match

open Arena Machine Script

variable {settings : Settings} {u v w : Simulation} {executed : Bool} {e : Fault}
  {fault? : Option Fault} {ts : List Played} {k : Nat}

namespace Simulation

/-- The match after a number of ticks, or the fault that one of them came to. -/
def afterTicks (u : Simulation) : Nat → Except Fault Simulation
  | 0 => .ok u
  | k + 1 => (u.afterTicks k).bind fun v => v.tick.map Prod.snd

/-- The match is stopped after `k` ticks. A finished program stops it only once a tick was played. -/
def Stops (settings : Settings) (k : Nat) (v : Simulation) : Prop :=
  settings.maxTicks ≤ v.world.tick ∨ v.isOver = true ∨
    (0 < k ∧ settings.stopWhenFinished = true ∧ v.isFinished = true)

theorem afterTicks_succ (h : u.tick = .ok (executed, v)) (k : Nat) :
    u.afterTicks (k + 1) = v.afterTicks k := by
  induction k with
  | zero => simp [afterTicks, Except.bind, Except.map, h]
  | succ k ih =>
      rw [afterTicks, ih]
      rfl

theorem afterTicks_succ_eq_ok_iff : u.afterTicks (k + 1) = .ok w ↔
    ∃ v executed, u.afterTicks k = .ok v ∧ v.tick = .ok (executed, w) := by
  rw [afterTicks]
  constructor
  · intro h
    cases hv : u.afterTicks k with
    | error e => rw [hv] at h; cases h
    | ok v =>
        rw [hv] at h
        cases ht : v.tick with
        | error e => simp [Except.bind, Except.map, ht] at h
        | ok r =>
            simp only [Except.bind, Except.map, ht, Except.ok.injEq] at h
            subst h
            exact ⟨v, r.1, rfl, ht⟩
  · rintro ⟨v, executed, hv, ht⟩
    rw [hv]
    simp [Except.bind, Except.map, ht]

theorem afterTicks_of_error (h : u.tick = .error e) (k : Nat) : u.afterTicks (k + 1) = .error e := by
  induction k with
  | zero => simp [afterTicks, Except.bind, Except.map, h]
  | succ k ih =>
      rw [afterTicks, ih]
      rfl

/-- What ticks keep holds after any number of them. -/
theorem afterTicks_induction {P : Simulation → Prop} (h : P u)
    (tick : ∀ v executed w, P v → v.tick = .ok (executed, w) → P w) :
    ∀ {k v}, u.afterTicks k = .ok v → P v := by
  intro k
  induction k with
  | zero => intro v hv; cases hv; exact h
  | succ k ih =>
      intro w hw
      obtain ⟨v, executed, hv, ht⟩ := afterTicks_succ_eq_ok_iff.mp hw
      exact tick v executed w (ih hv) ht

theorem clock_afterTicks (h : u.afterTicks k = .ok v)
    (hgoes : ∀ j < k, ∀ w, u.afterTicks j = .ok w → w.isOver = false) :
    v.world.tick = u.world.tick + k := by
  induction k generalizing v with
  | zero => cases h; simp
  | succ k ih =>
      obtain ⟨w, executed, hw, ht⟩ := afterTicks_succ_eq_ok_iff.mp h
      have hover := hgoes k (Nat.lt_succ_self k) w hw
      rw [(tick_eq_ok_iff.mp ht).tick_eq hover,
        ih hw fun j hj => hgoes j (Nat.lt_succ_of_lt hj)]
      omega

end Simulation

/-! ## The ticks of a match -/

/-- A tick is played: the limit is not reached and both tanks stand. -/
def Simulation.Goes (settings : Settings) (u : Simulation) : Prop :=
  u.world.tick < settings.maxTicks ∧ u.isOver = false

/-- The ticks of a match, the state they lead to and the fault that ends it, if there is one. -/
inductive Plays (settings : Settings) : Simulation → List Played → Simulation → Option Fault → Prop
  | stop {u : Simulation} : ¬ u.Goes settings → Plays settings u [] u none
  | fault {u : Simulation} {e : Fault} : u.Goes settings → u.tick = .error e →
      Plays settings u [] u (some e)
  | last {u v : Simulation} {executed : Bool} : u.Goes settings → u.tick = .ok (executed, v) →
      settings.stopWhenFinished = true → v.isFinished = true →
      Plays settings u [⟨executed, v⟩] v none
  | next {u v w : Simulation} {executed : Bool} {ts : List Played} {fault? : Option Fault} :
      u.Goes settings → u.tick = .ok (executed, v) →
      ¬ (settings.stopWhenFinished = true ∧ v.isFinished = true) →
      Plays settings v ts w fault? → Plays settings u (⟨executed, v⟩ :: ts) w fault?

/-- The state after the last tick. -/
def lastState (u : Simulation) (ts : List Played) : Simulation :=
  (ts.getLast?.map Played.after).getD u

theorem lastState_cons (u : Simulation) (t : Played) (ts : List Played) :
    lastState u (t :: ts) = lastState t.after ts := by
  simp only [lastState, List.getLast?_cons]
  cases ts.getLast? <;> rfl

theorem ticksLeft_eq_zero_iff : ticksLeft settings u = 0 ↔ settings.maxTicks ≤ u.world.tick := by
  unfold ticksLeft
  omega

theorem ticksLeft_of_tick {limit : Nat} (h : ticksLeft settings u = limit + 1)
    (hover : u.isOver = false) (ht : u.tick = .ok (executed, v)) :
    ticksLeft settings v = limit := by
  have hclock := (tick_eq_ok_iff.mp ht).tick_eq hover
  unfold ticksLeft at h ⊢
  omega

/-- By induction on the ticks that are left. -/
theorem plays_playedWithin {limit : Nat} (h : ticksLeft settings u = limit) :
    Plays settings u (playedWithin settings limit u)
      (lastState u (playedWithin settings limit u)) (faultWithin settings limit u) := by
  induction limit generalizing u with
  | zero => exact .stop fun hgoes => Int.not_le.mpr hgoes.1 (ticksLeft_eq_zero_iff.mp h)
  | succ limit ih =>
      cases hover : u.isOver with
      | true =>
          simp only [playedWithin, faultWithin, hover, ↓reduceIte]
          exact .stop fun hgoes => by rw [hgoes.2] at hover; cases hover
      | false =>
          have hgoes : u.Goes settings := by
            refine ⟨Int.not_le.mp fun hle => ?_, hover⟩
            rw [ticksLeft_eq_zero_iff.mpr hle] at h
            cases h
          cases ht : u.tick with
          | error e =>
              simp only [playedWithin, faultWithin, hover, ht, Bool.false_eq_true, ↓reduceIte]
              exact .fault hgoes ht
          | ok r =>
              obtain ⟨executed, v⟩ := r
              simp only [playedWithin, faultWithin, hover, ht, Bool.false_eq_true, ↓reduceIte,
                lastState_cons]
              split
              · rename_i hlast
                obtain ⟨hstop, hfinished⟩ := Bool.and_eq_true_iff.mp hlast
                exact .last hgoes ht hstop hfinished
              · rename_i hlast
                rw [Bool.and_eq_true_iff] at hlast
                exact .next hgoes ht hlast (ih (ticksLeft_of_tick h hover ht))

theorem plays_played (settings : Settings) (u : Simulation) :
    Plays settings u (played settings u) (lastState u (played settings u))
      (faultWithin settings (ticksLeft settings u) u) := plays_playedWithin rfl

theorem Simulation.Goes.not_stops (h : u.Goes settings) : ¬ u.Stops settings 0 := by
  rintro (hle | hover | ⟨hpos, -⟩)
  · exact Int.not_le.mpr h.1 hle
  · rw [h.2] at hover
    cases hover
  · exact Nat.lt_irrefl 0 hpos

theorem Simulation.stops_of_not_goes (h : ¬ u.Goes settings) (k : Nat) : u.Stops settings k := by
  cases hover : u.isOver with
  | true => exact .inr (.inl hover)
  | false => exact .inl (Int.not_lt.mp fun hlt => h ⟨hlt, hover⟩)

/-- Seen from the state before, a state is reached by one tick more. A finished program makes a
difference to the state after the first tick only. -/
theorem Simulation.stops_succ_iff
    (hlast : ¬ (settings.stopWhenFinished = true ∧ v.isFinished = true))
    (hw : v.afterTicks k = .ok w) : w.Stops settings (k + 1) ↔ w.Stops settings k := by
  cases k with
  | zero =>
      cases hw
      simp only [Simulation.Stops, Nat.lt_irrefl, false_and, Nat.zero_lt_succ, true_and, hlast]
  | succ k => simp only [Simulation.Stops, Nat.zero_lt_succ, true_and]

theorem Plays.afterTicks (h : Plays settings u ts v fault?) : u.afterTicks ts.length = .ok v := by
  induction h with
  | stop _ => rfl
  | fault _ _ => rfl
  | last _ ht _ _ => exact Simulation.afterTicks_succ ht 0
  | next _ ht _ _ ih => rw [List.length_cons, Simulation.afterTicks_succ ht, ih]

/-- Every tick starts from a state that does not stop the match. -/
theorem Plays.getElem? (h : Plays settings u ts v fault?) {i : Nat} {t : Played}
    (hi : ts[i]? = some t) :
    ∃ w, u.afterTicks i = .ok w ∧ ¬ w.Stops settings i ∧ w.tick = .ok (t.executed, t.after) := by
  induction h generalizing i with
  | stop _ => cases hi
  | fault _ _ => cases hi
  | last hgoes ht _ _ =>
      cases i with
      | zero => cases hi; exact ⟨_, rfl, hgoes.not_stops, ht⟩
      | succ i => cases hi
  | next hgoes ht hlast _ ih =>
      cases i with
      | zero => cases hi; exact ⟨_, rfl, hgoes.not_stops, ht⟩
      | succ i =>
          obtain ⟨w, hw, hstops, htick⟩ := ih hi
          refine ⟨w, ?_, ?_, htick⟩
          · rw [Simulation.afterTicks_succ ht, hw]
          · rwa [Simulation.stops_succ_iff hlast hw]

/-- A match without a fault ends in a state that stops it, and one with a fault in a state that does
not. -/
theorem Plays.ends (h : Plays settings u ts v fault?) :
    (fault? = none ∧ v.Stops settings ts.length) ∨
    ∃ e, fault? = some e ∧ ¬ v.Stops settings ts.length ∧ v.tick = .error e := by
  induction h with
  | stop hgoes => exact .inl ⟨rfl, Simulation.stops_of_not_goes hgoes 0⟩
  | fault hgoes ht => exact .inr ⟨_, rfl, hgoes.not_stops, ht⟩
  | last _ _ hstop hfinished => exact .inl ⟨rfl, .inr (.inr ⟨Nat.one_pos, hstop, hfinished⟩)⟩
  | next _ ht hlast hrest ih =>
      rwa [List.length_cons, Simulation.stops_succ_iff hlast hrest.afterTicks]

theorem Plays.not_stops (h : Plays settings u ts v fault?) (hk : k < ts.length)
    (hw : u.afterTicks k = .ok w) : ¬ w.Stops settings k := by
  obtain ⟨w', hw', hgoes, -⟩ := h.getElem? (List.getElem?_eq_getElem hk)
  rw [hw] at hw'
  cases hw'
  exact hgoes

theorem Plays.isLeast (h : Plays settings u ts v none) :
    IsLeast {k | ∃ w, u.afterTicks k = .ok w ∧ w.Stops settings k} ts.length := by
  constructor
  · rcases h.ends with ⟨-, hstops⟩ | ⟨e, he, -⟩
    · exact ⟨v, h.afterTicks, hstops⟩
    · cases he
  · rintro k ⟨w, hw, hstops⟩
    exact Nat.le_of_not_lt fun hlt => h.not_stops hlt hw hstops

/-- The clock counts the ticks of a match. -/
theorem Plays.clock (h : Plays settings u ts v fault?) (hk : k ≤ ts.length)
    (hw : u.afterTicks k = .ok w) : w.world.tick = u.world.tick + k := by
  refine Simulation.clock_afterTicks hw fun j hj x hx => Bool.eq_false_iff.mpr fun hover => ?_
  exact h.not_stops (Nat.lt_of_lt_of_le hj hk) hx (.inr (.inl hover))

theorem Plays.length_le (h : Plays settings u ts v fault?) :
    (ts.length : Int) ≤ max 0 (settings.maxTicks - u.world.tick) := by
  cases hlen : ts.length with
  | zero => exact Int.le_max_left _ _
  | succ n =>
      have hlt : n < ts.length := by omega
      obtain ⟨w, hw, hgoes, -⟩ := h.getElem? (List.getElem?_eq_getElem hlt)
      have hclock := h.clock (Nat.le_of_lt hlt) hw
      have hlimit : ¬ settings.maxTicks ≤ w.world.tick := fun hle => hgoes (.inl hle)
      omega

/-- With a later limit the same ticks are played first. -/
theorem Plays.isPrefix {limit : Int} (hle : settings.maxTicks ≤ limit) {ts' : List Played}
    {v' : Simulation} {fault?' : Option Fault} (h : Plays settings u ts v fault?)
    (h' : Plays { settings with maxTicks := limit } u ts' v' fault?') : ts <+: ts' := by
  induction h generalizing ts' with
  | stop _ => exact List.nil_prefix
  | fault _ _ => exact List.nil_prefix
  | last hgoes ht hstop hfinished =>
      cases h' with
      | stop hgoes' => exact absurd ⟨Int.lt_of_lt_of_le hgoes.1 hle, hgoes.2⟩ hgoes'
      | fault _ ht' => rw [ht] at ht'; cases ht'
      | last _ ht' _ _ =>
          rw [ht] at ht'
          cases ht'
          exact List.prefix_rfl
      | next _ ht' hlast _ =>
          rw [ht] at ht'
          cases ht'
          exact absurd ⟨hstop, hfinished⟩ hlast
  | next hgoes ht hlast _ ih =>
      cases h' with
      | stop hgoes' => exact absurd ⟨Int.lt_of_lt_of_le hgoes.1 hle, hgoes.2⟩ hgoes'
      | fault _ ht' => rw [ht] at ht'; cases ht'
      | last _ ht' hstop hfinished =>
          rw [ht] at ht'
          cases ht'
          exact absurd ⟨hstop, hfinished⟩ hlast
      | next _ ht' _ hrest =>
          rw [ht] at ht'
          cases ht'
          exact List.cons_prefix_cons.mpr ⟨rfl, ih hrest⟩

/-! ## Results -/

/-- The result of a match with these ticks and this last state. -/
def resultOf (v : Simulation) (ts : List Played) (keep : Bool) : Result where
  winner := v.winner
  ticks := v.world.tick
  actorHealth := v.world.actor.health
  opponentHealth := v.world.opponent.health
  programFinished := v.isFinished
  statementsExecuted := ts.countP Played.executed
  history := if keep then ts.map Played.record else []

variable {program : Program} {start : World} {keep : Bool} {r : Result}

/-- A match comes to a result, which tells of the ticks that were played, or to a fault, whether or
not the history is kept. -/
theorem runFrom_of_played (settings : Settings) (program : Program) (start : World) :
    let u : Simulation := { program, world := start }
    let ticks := played settings u
    (Plays settings u ticks (lastState u ticks) none ∧ ∀ keep,
      runFrom settings keep program start = .ok (resultOf (lastState u ticks) ticks keep)) ∨
    ∃ e, Plays settings u ticks (lastState u ticks) (some e) ∧
      ∀ keep, runFrom settings keep program start = .error e := by
  intro u ticks
  have hplays : Plays settings u ticks (lastState u ticks) _ := plays_played settings u
  cases hf : faultWithin settings (ticksLeft settings u) u with
  | none =>
      rw [hf] at hplays
      refine .inl ⟨hplays, fun keep => ?_⟩
      simp only [runFrom, u] at hf ⊢
      rw [hf]
      rfl
  | some e =>
      rw [hf] at hplays
      refine .inr ⟨e, hplays, fun keep => ?_⟩
      simp only [runFrom, u] at hf ⊢
      rw [hf]

theorem runFrom_cases (settings : Settings) (program : Program) (start : World) :
    (∃ ts v, Plays settings { program, world := start } ts v none ∧
      ∀ keep, runFrom settings keep program start = .ok (resultOf v ts keep)) ∨
    ∃ ts v e, Plays settings { program, world := start } ts v (some e) ∧
      ∀ keep, runFrom settings keep program start = .error e := by
  rcases runFrom_of_played settings program start with ⟨hplays, hrun⟩ | ⟨e, hplays, hrun⟩
  · exact .inl ⟨_, _, hplays, hrun⟩
  · exact .inr ⟨_, _, e, hplays, hrun⟩

theorem exists_plays_of_runFrom (h : runFrom settings keep program start = .ok r) :
    ∃ ts v, Plays settings { program, world := start } ts v none ∧ r = resultOf v ts keep := by
  rcases runFrom_cases settings program start with ⟨ts, v, hplays, hrun⟩ | ⟨ts, v, e, -, hrun⟩
  · rw [hrun] at h
    cases h
    exact ⟨ts, v, hplays, rfl⟩
  · rw [hrun] at h
    cases h

theorem eq_run_of_runFrom (h : runFrom settings keep program start = .ok r) :
    r = run settings keep program start := by
  simp only [runFrom] at h
  split at h
  · cases h
  · exact (Except.ok.inj h).symm

/-- A match has a result if no state that it comes to has a tick with a fault. -/
theorem exists_runFrom_ok {P : Simulation → Prop} (settings : Settings) (keep : Bool)
    (h : P { program, world := start })
    (tick : ∀ v, P v → ∃ executed w, v.tick = .ok (executed, w) ∧ P w) :
    ∃ r, runFrom settings keep program start = .ok r := by
  rcases runFrom_cases settings program start with ⟨ts, v, -, hrun⟩ | ⟨ts, v, e, hplays, -⟩
  · exact ⟨_, hrun keep⟩
  · have hv : P v := by
      refine Simulation.afterTicks_induction h (fun v executed w hv ht => ?_) hplays.afterTicks
      obtain ⟨executed', w', ht', hw⟩ := tick v hv
      rw [ht] at ht'
      cases ht'
      exact hw
    obtain ⟨executed, w, ht, -⟩ := tick v hv
    rcases hplays.ends with ⟨hnone, -⟩ | ⟨e', -, -, he⟩
    · cases hnone
    · rw [ht] at he
      cases he

/-- A program that was read has a result from every world with both tanks on the board. -/
theorem exists_runFrom_of_isRead (settings : Settings) (keep : Bool) (hp : program.IsRead)
    (hstart : start.OnBoard) : ∃ r, runFrom settings keep program start = .ok r := by
  have hps : ∀ q ∈ [program], q.WellFormed := by
    intro q hq
    rw [List.mem_singleton.mp hq]
    exact hp.wellFormed
  refine exists_runFrom_ok (P := fun v => v.Traced [program] ∧ v.world.OnBoard) settings keep
    ⟨Simulation.traced_start hps List.mem_cons_self start, hstart⟩ fun v ⟨hv, hboard⟩ => ?_
  obtain ⟨executed, w, ht⟩ := hv.exists_tick hps hboard
  have hw := Simulation.ticked_of_tick ht
  exact ⟨executed, w, ht, hw ▸ hv.ticked hps, hw ▸ Simulation.onBoard_ticked hboard⟩

/-- The winner, the clock, the healths and the end of the program are those of a state. -/
structure Result.TellsOf (r : Result) (v : Simulation) : Prop where
  winner : r.winner = v.winner
  ticks : r.ticks = v.world.tick
  actorHealth : r.actorHealth = v.world.actor.health
  opponentHealth : r.opponentHealth = v.world.opponent.health
  programFinished : r.programFinished = v.isFinished

/-- The record at place `i` is that of the tick that leads to the state after `i + 1` ticks. -/
theorem Plays.record (h : Plays settings u ts v fault?) {i : Nat} (hi : i < ts.length) :
    ∃ s executed t, u.afterTicks i = .ok s ∧ s.tick = .ok (executed, t) ∧
      u.afterTicks (i + 1) = .ok t ∧ t.world.tick = u.world.tick + i + 1 ∧
      (ts.map Played.record)[i]? = some (Played.record ⟨executed, t⟩) := by
  have hget : ts[i]? = some ts[i] := List.getElem?_eq_getElem hi
  obtain ⟨s, hs, -, ht⟩ := h.getElem? hget
  have hnext := Simulation.afterTicks_succ_eq_ok_iff.mpr ⟨s, _, hs, ht⟩
  refine ⟨s, _, _, hs, ht, hnext, ?_, ?_⟩
  · rw [h.clock hi hnext]
    omega
  · rw [List.getElem?_map, hget]
    rfl

/-- The start and the recorded worlds are those of the states of the match. -/
theorem Plays.world_eq (h : Plays settings u ts v fault?) (hw : u.afterTicks k = .ok w)
    {before : World}
    (hk : (u.world :: (ts.map Played.record).map Record.world)[k]? = some before) :
    before = w.world := by
  cases k with
  | zero =>
      cases hw
      exact (Option.some.inj hk).symm
  | succ k =>
      rw [List.getElem?_cons_succ, List.getElem?_map, List.getElem?_map, Option.map_map] at hk
      obtain ⟨t, ht, rfl⟩ := Option.map_eq_some_iff.mp hk
      obtain ⟨s, hs, -, htick⟩ := h.getElem? ht
      rw [Simulation.afterTicks_succ_eq_ok_iff.mpr ⟨s, _, hs, htick⟩] at hw
      cases hw
      rfl

/-- The worlds that ticks lead to, as they are recorded. -/
def recorded (ts : List Played) : List World := (ts.map Played.record).map Record.world

/-- The last of them is the world at the end of the match. -/
theorem Plays.getLast?_recorded (h : Plays settings u ts v fault?) :
    (u.world :: recorded ts).getLast? = some v.world := by
  induction h with
  | stop _ => rfl
  | fault _ _ => rfl
  | last _ _ _ _ => rfl
  | next _ _ _ _ ih => exact List.getLast?_cons_cons.trans ih

/-- A match is played tick by tick up to the first state that stops it, and its result tells of that
state and of all states on the way. The history changes nothing else in it, and a later limit only
makes it longer. Before that state a tick may come to a fault, and then so does the match; with a
program that was read and both tanks on the board none does. -/
theorem runFrom_cut_at_first_stop (settings : Settings) (program : Program) (start : World) :
    let u : Simulation := { program, world := start }
    let stops := {k | ∃ v, u.afterTicks k = .ok v ∧ v.Stops settings k}
    ((∃ N v r, IsLeast stops N ∧ (N : Int) ≤ max 0 (settings.maxTicks - start.tick) ∧
      u.afterTicks N = .ok v ∧
      runFrom settings true program start = .ok r ∧
      runFrom settings false program start = .ok { r with history := [] } ∧
      r.TellsOf v ∧ r.history.length = N ∧
      (∀ i < N, ∃ s executed t, u.afterTicks i = .ok s ∧ s.tick = .ok (executed, t) ∧
        u.afterTicks (i + 1) = .ok t ∧ t.world.tick = start.tick + i + 1 ∧
        r.history[i]? = some (Played.record ⟨executed, t⟩)) ∧
      ∀ limit r', settings.maxTicks ≤ limit →
        runFrom { settings with maxTicks := limit } true program start = .ok r' →
        r.history <+: r'.history) ∨
    (∃ k v e, u.afterTicks k = .ok v ∧ v.tick = .error e ∧ (∀ j ≤ k, j ∉ stops) ∧
      ∀ keep, runFrom settings keep program start = .error e)) ∧
    (program.IsRead → start.OnBoard → ∃ r, runFrom settings true program start = .ok r) := by
  intro u stops
  refine ⟨?_, exists_runFrom_of_isRead settings true⟩
  rcases runFrom_cases settings program start with ⟨ts, v, hplays, hrun⟩ | ⟨ts, v, e, hplays, hrun⟩
  · refine .inl ⟨ts.length, v, _, hplays.isLeast, hplays.length_le, hplays.afterTicks, hrun true,
      hrun false, ⟨rfl, rfl, rfl, rfl, rfl⟩, List.length_map _, fun i hi => hplays.record hi, ?_⟩
    intro limit r' hle hrun'
    obtain ⟨ts', v', hplays', rfl⟩ := exists_plays_of_runFrom hrun'
    exact (hplays.isPrefix hle hplays').map Played.record
  · rcases hplays.ends with ⟨hnone, -⟩ | ⟨e', he, hstops, htick⟩
    · cases hnone
    · cases he
      refine .inr ⟨ts.length, v, e, hplays.afterTicks, htick, fun j hj => ?_, hrun⟩
      rintro ⟨w, hw, hstop⟩
      rcases Nat.lt_or_eq_of_le hj with hlt | rfl
      · exact hplays.not_stops hlt hw hstop
      · have hv := hplays.afterTicks
        rw [hw] at hv
        cases hv
        exact hstops hstop

/-- With the tanks too far apart a scan cannot say how far, and the match has no result. -/
theorem runFrom_fails_off_board :
    let start : World :=
      { actor := { x := 5, y := -(5 * 10 ^ 4299) }, opponent := { x := 5, y := 5 * 10 ^ 4299 } }
    Program.parse 1 "SCAN_FOR_ENEMY;" = .ok { main := [.scan] } ∧
    Settings.checked { maxTicks := 1 } = .ok { maxTicks := 1 } ∧
    (∀ keep r, runFrom { maxTicks := 1 } keep { main := [.scan] } start ≠ .ok r) ∧
    ∀ k v, Simulation.afterTicks { program := { main := [.scan] }, world := start } k = .ok v →
      ¬ v.Stops { maxTicks := 1 } k := by
  intro start
  let u : Simulation := { program := { main := [.scan] }, world := start }
  have htick : u.tick = .error .tooManyDigits :=
    tick_eq_error_iff.mpr ⟨rfl, step_of_tooFar rfl (tooFar_of_digits rfl 5 _)⟩
  have hgoes : u.Goes { maxTicks := 1 } := ⟨by decide, rfl⟩
  refine ⟨parse_eq_ok_of_toOption (by decide +kernel), rfl, fun keep r hr => ?_, fun k v hv => ?_⟩
  · obtain ⟨ts, v, hplays, -⟩ := exists_plays_of_runFrom hr
    cases hplays with
    | stop hstop => exact hstop hgoes
    | last _ ht _ _ => rw [htick] at ht; cases ht
    | next _ ht _ _ => rw [htick] at ht; cases ht
  · cases k with
    | zero => cases hv; exact hgoes.not_stops
    | succ k =>
        rw [Simulation.afterTicks_of_error htick] at hv
        cases hv

end TankArena.Match
